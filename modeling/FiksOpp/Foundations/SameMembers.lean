/-
Lists compared by their lengths and by what occurs in them.

The comparison overlooks how often an item occurs.  It does not matter as long as one item at
most is ever repeated.
-/

import Mathlib.Data.List.Nodup
import Mathlib.Data.List.Perm.Basic

namespace FiksOpp.SameMembers

variable {α : Type*} [DecidableEq α]

/-- Equally long, and each item of either list is one of the other. -/
def sameMembers (left right : List α) : Bool :=
  left.length == right.length && left.all (fun item => right.contains item) &&
    right.all (fun item => left.contains item)

/-- No item but the one comes twice. -/
def OnlyRepeats (repeated : α) (list : List α) : Prop :=
  ∀ item, item ≠ repeated → list.count item ≤ 1

theorem sameMembers_iff {left right : List α} :
    sameMembers left right = true ↔
      left.length = right.length ∧ ∀ item, item ∈ left ↔ item ∈ right := by
  unfold sameMembers
  simp only [Bool.and_eq_true, beq_iff_eq, List.all_eq_true, List.contains_iff_mem]
  constructor
  · rintro ⟨⟨lengths, inRight⟩, inLeft⟩
    exact ⟨lengths, fun item => ⟨inRight item, inLeft item⟩⟩
  · rintro ⟨lengths, members⟩
    exact ⟨⟨lengths, fun item => (members item).mp⟩, fun item => (members item).mpr⟩

theorem OnlyRepeats.nodup_filter {repeated : α} {list : List α}
    (only : OnlyRepeats repeated list) : (list.filter fun item => item ≠ repeated).Nodup := by
  rw [List.nodup_iff_count_le_one]
  intro item
  by_cases same : item = repeated
  · rw [List.count_eq_zero_of_not_mem]
    · exact Nat.zero_le 1
    · rw [List.mem_filter, decide_eq_true_iff]
      exact fun kept => kept.2 same
  · exact Nat.le_trans (List.filter_sublist.count_le item) (only item same)

theorem length_eq_count_add (repeated : α) (list : List α) :
    list.length =
      list.count repeated + (list.filter fun item => item ≠ repeated).length := by
  rw [List.length_eq_countP_add_countP (fun item => item == repeated), ← List.countP_eq_length_filter]
  simp only [List.count, beq_iff_eq, ne_eq]

theorem perm_of_sameMembers {repeated : α} {left right : List α}
    (onlyLeft : OnlyRepeats repeated left) (onlyRight : OnlyRepeats repeated right)
    (same : sameMembers left right = true) : left.Perm right := by
  obtain ⟨lengths, members⟩ := sameMembers_iff.mp same
  have others : (left.filter fun item => item ≠ repeated).Perm
      (right.filter fun item => item ≠ repeated) := by
    rw [List.perm_ext_iff_of_nodup onlyLeft.nodup_filter onlyRight.nodup_filter]
    intro item
    rw [List.mem_filter, List.mem_filter, members]
  rw [List.perm_iff_count]
  intro item
  by_cases same : item = repeated
  · subst same
    have inLeft := length_eq_count_add item left
    have inRight := length_eq_count_add item right
    have kept := others.length_eq
    omega
  · have atMostLeft := onlyLeft item same
    have atMostRight := onlyRight item same
    by_cases member : item ∈ left
    · have positive := List.count_pos_iff.mpr member
      have positive' := List.count_pos_iff.mpr ((members item).mp member)
      omega
    · rw [List.count_eq_zero_of_not_mem member,
        List.count_eq_zero_of_not_mem (fun found => member ((members item).mpr found))]

/-- The comparison finds out whether one list is the other in another order. -/
theorem sameMembers_iff_perm {repeated : α} {left right : List α}
    (onlyLeft : OnlyRepeats repeated left) (onlyRight : OnlyRepeats repeated right) :
    sameMembers left right = true ↔ left.Perm right := by
  constructor
  · exact perm_of_sameMembers onlyLeft onlyRight
  · intro perm
    exact sameMembers_iff.mpr ⟨perm.length_eq, fun item => perm.mem_iff⟩

theorem onlyRepeats_getD (repeated : α) {list : List (Option α)} (nodup : list.Nodup) :
    OnlyRepeats repeated (list.map fun item => item.getD repeated) := by
  induction list with
  | nil =>
      intro item _
      exact Nat.zero_le 1
  | cons first rest ih =>
      obtain ⟨absent, distinct⟩ := List.nodup_cons.mp nodup
      intro item other
      have later := ih distinct item other
      rw [List.map_cons, List.count_cons]
      split
      · rename_i same
        have own : first.getD repeated = item := eq_of_beq same
        have named : first = some item := by
          cases first with
          | none => exact absurd own.symm other
          | some value => exact congrArg some own
        have gone : item ∉ rest.map fun item => item.getD repeated := by
          intro member
          obtain ⟨again, inRest, sameName⟩ := List.mem_map.mp member
          cases again with
          | none => exact other sameName.symm
          | some value =>
              rw [named, ← sameName] at absent
              exact absent inRest
        have none_ := List.count_eq_zero_of_not_mem gone
        omega
      · omega

end FiksOpp.SameMembers
