/-
Lists whose entries are switched on and off.  An entry that is switched on goes to
the end of the list, and one that is switched off is removed wherever it occurs, so
what many switches leave is told by the parity of each and by the order of the last ones.
-/

import Mathlib.Data.List.Dedup
import Mathlib.Data.List.Induction

namespace FiksOpp.ToggledList

variable {α : Type*} [DecidableEq α]

def toggle (item : α) (items : List α) : List α :=
  if !items.contains item then items ++ [item] else items.filter (· ≠ item)

def toggleAll (switches : List α) (items : List α) : List α :=
  switches.foldl (fun items item => toggle item items) items

/-- The item is on after the switches: it was on at first and they switch it an even
number of times, or it was off and they are odd. -/
def leftOn (items switches : List α) (item : α) : Bool :=
  xor (items.contains item) (switches.count item % 2 == 1)

theorem toggle_eq (item : α) (items : List α) :
    toggle item items =
      items.filter (· ≠ item) ++ if items.contains item then [] else [item] := by
  unfold toggle
  by_cases present : item ∈ items
  · have held : items.contains item = true := List.contains_iff_mem.mpr present
    rw [held]
    exact (List.append_nil _).symm
  · have absent : items.contains item = false := by
      rw [← Bool.not_eq_true, List.contains_iff_mem]
      exact present
    have whole : items.filter (· ≠ item) = items := by
      rw [List.filter_eq_self]
      intro other inside
      rw [decide_eq_true_iff]
      rintro rfl
      exact present inside
    rw [absent, whole]
    rfl

theorem dedup_concat (switches : List α) (item : α) :
    (switches ++ [item]).dedup = switches.dedup.filter (· ≠ item) ++ [item] := by
  induction switches with
  | nil => rfl
  | cons head rest ih =>
      rw [List.cons_append]
      by_cases again : head ∈ rest
      · rw [List.dedup_cons_of_mem (List.mem_append_left _ again), ih,
          List.dedup_cons_of_mem again]
      · rw [List.dedup_cons_of_notMem again]
        by_cases same : head = item
        · rw [List.dedup_cons_of_mem (by simp [same]), ih,
            List.filter_cons_of_neg (by simp [same])]
        · rw [List.dedup_cons_of_notMem (by simp [same, again]), ih,
            List.filter_cons_of_pos (by simp [same])]
          rfl

theorem leftOn_concat_self (items switches : List α) (item : α) :
    leftOn items (switches ++ [item]) item = !leftOn items switches item := by
  unfold leftOn
  rw [List.count_append, List.count_singleton_self]
  have parity : ((switches.count item + 1) % 2 == 1) = !(switches.count item % 2 == 1) := by
    rcases Nat.mod_two_eq_zero_or_one (switches.count item) with even | odd
    · have next : (switches.count item + 1) % 2 = 1 := by omega
      rw [even, next]
      rfl
    · have next : (switches.count item + 1) % 2 = 0 := by omega
      rw [odd, next]
      rfl
  rw [parity, Bool.xor_not]

theorem leftOn_concat_of_ne (items switches : List α) {item other : α} (different : other ≠ item) :
    leftOn items (switches ++ [item]) other = leftOn items switches other := by
  unfold leftOn
  rw [List.count_append, List.count_singleton, if_neg (by simp [different.symm]), Nat.add_zero]

theorem toggleAll_concat (switches : List α) (item : α) (items : List α) :
    toggleAll (switches ++ [item]) items = toggle item (toggleAll switches items) :=
  List.foldl_concat _ _ _ _

theorem contains_toggle (item : α) (items : List α) (other : α) :
    (toggle item items).contains other =
      if other = item then !items.contains item else items.contains other := by
  rw [toggle_eq, Bool.eq_iff_iff]
  by_cases same : other = item
  · rw [same, if_pos rfl]
    cases items.contains item <;> simp
  · rw [if_neg same]
    cases items.contains item <;> simp [same]

theorem contains_toggleAll (switches items : List α) (item : α) :
    (toggleAll switches items).contains item = leftOn items switches item := by
  induction switches using List.reverseRecOn with
  | nil => simp [toggleAll, leftOn]
  | append_singleton switches last ih =>
      rw [toggleAll_concat, contains_toggle]
      by_cases same : item = last
      · rw [if_pos same, ← same, leftOn_concat_self, ih]
      · rw [if_neg same, leftOn_concat_of_ne items switches same, ih]

/-- What the switches leave: the items never switched, then those that end up on, in the
order of their last switches. -/
theorem toggleAll_eq (switches items : List α) :
    toggleAll switches items =
      items.filter (· ∉ switches) ++ switches.dedup.filter (leftOn items switches) := by
  induction switches using List.reverseRecOn with
  | nil => simp [toggleAll]
  | append_singleton switches item ih =>
      have untouched : (items.filter (· ∉ switches)).filter (· ≠ item) =
          items.filter (· ∉ switches ++ [item]) := by
        rw [List.filter_filter]
        apply List.filter_congr
        intro other _
        simp [and_comm]
      have switched : (switches.dedup.filter (leftOn items switches)).filter (· ≠ item) =
          (switches.dedup.filter (· ≠ item)).filter (leftOn items (switches ++ [item])) := by
        rw [List.filter_filter, List.filter_filter]
        apply List.filter_congr
        intro other _
        by_cases same : other = item
        · simp [same]
        · rw [leftOn_concat_of_ne items switches same, Bool.and_comm]
      rw [toggleAll_concat, toggle_eq, contains_toggleAll, ih, List.filter_append, untouched, switched, dedup_concat,
        List.filter_append, List.append_assoc]
      cases before : leftOn items switches item with
      | true => simp [leftOn_concat_self, before]
      | false => simp [leftOn_concat_self, before]

end FiksOpp.ToggledList
