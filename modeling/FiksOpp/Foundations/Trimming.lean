/-
Texts without the blanks around them, for any notion of a blank.
-/

import Mathlib.Data.List.DropRight

namespace FiksOpp.Trimming

variable {α : Type*} (blank : α → Bool)

def trimmedBy (text : List α) : List α :=
  (text.dropWhile blank).rdropWhile blank

theorem dropWhile_trimmedBy (text : List α) :
    (trimmedBy blank text).dropWhile blank = trimmedBy blank text := by
  cases kept : trimmedBy blank text with
  | nil => rfl
  | cons first rest =>
      have lead : (text.dropWhile blank).head? = some first := by
        obtain ⟨tail, whole⟩ := List.rdropWhile_prefix blank (text.dropWhile blank)
        change trimmedBy blank text ++ tail = text.dropWhile blank at whole
        rw [kept] at whole
        rw [← whole]
        rfl
      have dark := List.head?_dropWhile_not blank text
      rw [lead] at dark
      exact List.dropWhile_cons_of_neg (by simpa using dark)

theorem trimmedBy_trimmedBy (text : List α) :
    trimmedBy blank (trimmedBy blank text) = trimmedBy blank text := by
  change ((trimmedBy blank text).dropWhile blank).rdropWhile blank = _
  rw [dropWhile_trimmedBy]
  exact List.rdropWhile_idempotent _ _

theorem mem_of_mem_trimmedBy {char : α} {text : List α}
    (member : char ∈ trimmedBy blank text) : char ∈ text := by
  have inFront := (List.rdropWhile_prefix blank (text.dropWhile blank)).subset member
  exact (List.dropWhile_suffix blank).subset inFront

end FiksOpp.Trimming
