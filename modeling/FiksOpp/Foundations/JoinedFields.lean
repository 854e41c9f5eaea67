/-
Texts joined by a separator.

The joined text tells the fields apart when all but one of them, at a known place, are free of
the separator: those before it are read from the front, those after it from the back.
-/

import Mathlib.Data.List.Basic
import Mathlib.Data.List.Induction

namespace FiksOpp.JoinedFields

variable {α : Type*} {separator : α}

theorem append_cons_inj_front {front front' back back' : List α} (absent : separator ∉ front)
    (absent' : separator ∉ front')
    (same : front ++ separator :: back = front' ++ separator :: back') :
    front = front' ∧ back = back' := by
  induction front generalizing front' with
  | nil =>
      cases front' with
      | nil => exact ⟨rfl, List.tail_eq_of_cons_eq same⟩
      | cons head rest =>
          have first := List.head_eq_of_cons_eq same
          exact absurd (first ▸ List.mem_cons_self) absent'
  | cons head rest ih =>
      cases front' with
      | nil =>
          have first := List.head_eq_of_cons_eq same
          exact absurd (first ▸ List.mem_cons_self) absent
      | cons head' rest' =>
          rw [List.mem_cons, not_or] at absent absent'
          have first : head = head' := List.head_eq_of_cons_eq same
          obtain ⟨equal, backs⟩ := ih absent.2 absent'.2 (List.tail_eq_of_cons_eq same)
          exact ⟨first ▸ equal ▸ rfl, backs⟩

theorem append_cons_inj_back {front front' back back' : List α} (absent : separator ∉ back)
    (absent' : separator ∉ back')
    (same : front ++ separator :: back = front' ++ separator :: back') :
    front = front' ∧ back = back' := by
  have turned := congrArg List.reverse same
  rw [List.reverse_append, List.reverse_append, List.reverse_cons, List.reverse_cons,
    List.append_assoc, List.append_assoc] at turned
  obtain ⟨backs, fronts⟩ := append_cons_inj_front
    (fun member => absent (List.mem_reverse.mp member))
    (fun member => absent' (List.mem_reverse.mp member)) turned
  exact ⟨List.reverse_injective fronts, List.reverse_injective backs⟩

def followed (separator : α) (first : List α) (rest : List (List α)) : List α :=
  first ++ rest.flatMap (separator :: ·)

theorem intercalate_cons_eq (first : List α) (rest : List (List α)) :
    [separator].intercalate (first :: rest) = followed separator first rest := by
  induction rest generalizing first with
  | nil => simp [followed, List.intercalate]
  | cons next rest ih =>
      rw [List.intercalate_cons_cons, ih]
      simp [followed]

theorem followed_inj {free free' : List α} {after after' : List (List α)}
    (backs : after.length = after'.length) (plain : ∀ field ∈ after, separator ∉ field)
    (plain' : ∀ field ∈ after', separator ∉ field)
    (same : followed separator free after = followed separator free' after') :
    free = free' ∧ after = after' := by
  induction after using List.reverseRecOn generalizing after' with
  | nil =>
      have none_ : after' = [] := List.eq_nil_of_length_eq_zero backs.symm
      subst none_
      unfold followed at same
      rw [List.flatMap_nil, List.append_nil, List.append_nil] at same
      exact ⟨same, rfl⟩
  | append_singleton rest last ih =>
      rcases List.eq_nil_or_concat after' with rfl | ⟨rest', last', rfl⟩
      · rw [List.length_append] at backs
        exact absurd backs (Nat.succ_ne_zero _)
      · rw [List.concat_eq_append] at backs plain' same
        unfold followed at same
        rw [List.flatMap_append, List.flatMap_append, ← List.append_assoc, ← List.append_assoc,
          List.flatMap_singleton, List.flatMap_singleton] at same
        obtain ⟨fronts, lasts⟩ := append_cons_inj_back
          (plain last (List.mem_append_right rest (List.mem_singleton_self last)))
          (plain' last' (List.mem_append_right rest' (List.mem_singleton_self last'))) same
        rw [List.length_append, List.length_append] at backs
        obtain ⟨frees, rests⟩ := ih (Nat.succ.inj backs)
          (fun field member => plain field (List.mem_append_left _ member))
          (fun field member => plain' field (List.mem_append_left _ member)) fronts
        exact ⟨frees, by rw [rests, lasts, List.concat_eq_append]⟩

/-- One field may hold the separator. -/
theorem intercalate_inj {before before' after after' : List (List α)} {free free' : List α}
    (fronts : before.length = before'.length) (backs : after.length = after'.length)
    (plain : ∀ field ∈ before ++ after, separator ∉ field)
    (plain' : ∀ field ∈ before' ++ after', separator ∉ field)
    (same : [separator].intercalate (before ++ free :: after) =
      [separator].intercalate (before' ++ free' :: after')) :
    before = before' ∧ free = free' ∧ after = after' := by
  induction before generalizing before' with
  | nil =>
      have none_ : before' = [] := List.eq_nil_of_length_eq_zero fronts.symm
      subst none_
      rw [List.nil_append, List.nil_append, intercalate_cons_eq, intercalate_cons_eq] at same
      exact ⟨rfl, followed_inj backs plain plain' same⟩
  | cons first rest ih =>
      cases before' with
      | nil => exact absurd fronts (Nat.succ_ne_zero _)
      | cons first' rest' =>
          obtain ⟨second, others, split⟩ : ∃ second others,
              rest ++ free :: after = second :: others := by
            cases rest with
            | nil => exact ⟨free, after, rfl⟩
            | cons head tail => exact ⟨head, tail ++ free :: after, rfl⟩
          obtain ⟨second', others', split'⟩ : ∃ second others,
              rest' ++ free' :: after' = second :: others := by
            cases rest' with
            | nil => exact ⟨free', after', rfl⟩
            | cons head tail => exact ⟨head, tail ++ free' :: after', rfl⟩
          rw [List.cons_append, List.cons_append, split, split', List.intercalate_cons_cons,
            List.intercalate_cons_cons, List.append_assoc, List.append_assoc] at same
          obtain ⟨firsts, others⟩ := append_cons_inj_front
            (plain first List.mem_cons_self) (plain' first' List.mem_cons_self) same
          rw [← split, ← split'] at others
          obtain ⟨rests, frees⟩ := ih (Nat.succ.inj fronts)
            (fun field member => plain field (List.mem_cons_of_mem _ member))
            (fun field member => plain' field (List.mem_cons_of_mem _ member)) others
          exact ⟨by rw [firsts, rests], frees⟩

end FiksOpp.JoinedFields
