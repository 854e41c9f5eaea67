/-
A set that is changed by calls served in their order.

What the set will be once all of them have been served is a fold over the calls that are left.
Each call concerns one member; the others are in it or not as if it had not been made.
-/

import Mathlib.Data.Finset.Erase
import Mathlib.Data.Finset.Insert

namespace FiksOpp.PendingChanges

variable {α : Type*} [DecidableEq α]

inductive Change (α : Type*) where
  | insert (member : α)
  | erase (member : α)
  deriving DecidableEq, Repr

def Change.member : Change α → α
  | .insert member => member
  | .erase member => member

def Change.apply (held : Finset α) : Change α → Finset α
  | .insert member => Insert.insert member held
  | .erase member => held.erase member

def settled (calls : List (Change α)) (held : Finset α) : Finset α :=
  calls.foldl Change.apply held

theorem settled_concat (calls : List (Change α)) (change : Change α) (held : Finset α) :
    settled (calls ++ [change]) held = change.apply (settled calls held) := by
  unfold settled
  rw [List.foldl_append]
  rfl

theorem mem_apply_of_ne {change : Change α} {held : Finset α} {other : α}
    (different : other ≠ change.member) : other ∈ change.apply held ↔ other ∈ held := by
  cases change with
  | insert member =>
      change other ∈ Insert.insert member held ↔ _
      rw [Finset.mem_insert]
      exact or_iff_right different
  | erase member =>
      change other ∈ held.erase member ↔ _
      rw [Finset.mem_erase]
      exact and_iff_right different

theorem mem_apply_congr (change : Change α) {held held' : Finset α} {other : α}
    (same : other ∈ held ↔ other ∈ held') :
    other ∈ change.apply held ↔ other ∈ change.apply held' := by
  by_cases different : other = change.member
  · subst different
    cases change with
    | insert member => exact iff_of_true (Finset.mem_insert_self _ _) (Finset.mem_insert_self _ _)
    | erase member => exact iff_of_false (Finset.notMem_erase _ _) (Finset.notMem_erase _ _)
  · rw [mem_apply_of_ne different, mem_apply_of_ne different, same]

theorem mem_settled_congr (calls : List (Change α)) {held held' : Finset α} {other : α}
    (same : other ∈ held ↔ other ∈ held') :
    other ∈ settled calls held ↔ other ∈ settled calls held' := by
  induction calls generalizing held held' with
  | nil => exact same
  | cons change calls ih => exact ih (mem_apply_congr change same)

theorem settled_mono (calls : List (Change α)) {held held' : Finset α} (sub : held ⊆ held') :
    settled calls held ⊆ settled calls held' := by
  induction calls generalizing held held' with
  | nil => exact sub
  | cons change calls ih =>
      refine ih (fun other member => ?_)
      cases change with
      | insert new => exact Finset.insert_subset_insert new sub member
      | erase old => exact Finset.erase_subset_erase old sub member

theorem mem_settled_of_failed {change : Change α} (calls : List (Change α)) (held : Finset α)
    {other : α} (different : other ≠ change.member) :
    other ∈ settled calls held ↔ other ∈ settled (change :: calls) held :=
  mem_settled_congr calls (mem_apply_of_ne different).symm

theorem settled_subset_of_failed_insert (member : α) (calls : List (Change α))
    (held : Finset α) : settled calls held ⊆ settled (.insert member :: calls) held :=
  settled_mono calls (Finset.subset_insert member held)

end FiksOpp.PendingChanges
