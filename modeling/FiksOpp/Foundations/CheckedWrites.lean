/-
Programs of writes with checks between them.  A check that fails ends the program, and
what was written before it stays.
-/

import FiksOpp.Foundations.CellStore

namespace FiksOpp.CheckedWrites

open CellStore

variable {Cell : Type*} {Value : Cell → Type*}

inductive Statement (Value : Cell → Type*) where
  | write (write : Write Value)
  | check (passes : Bool)

abbrev Program (Value : Cell → Type*) := List (Statement Value)

def completes : Program Value → Bool
  | [] => true
  | .write _ :: rest => completes rest
  | .check passes :: rest => passes && completes rest

/-- The writes up to the first check that fails. -/
def performed : Program Value → List (Write Value)
  | [] => []
  | .write write :: rest => write :: performed rest
  | .check passes :: rest => if passes then performed rest else []

section Runs

variable [DecidableEq Cell]

def execute : Program Value → (∀ cell, Value cell) → ∀ cell, Value cell
  | [], store => store
  | .write write :: rest, store => execute rest (write.apply store)
  | .check passes :: rest, store => if passes then execute rest store else store

/-- On the watched cells the program makes the targets what the goal has there and
leaves the others alone. -/
def Settles (program : Program Value) (goal : ∀ cell, Value cell) (watched : Cell → Prop)
    (targets : List Cell) : Prop :=
  ∀ store cell, watched cell →
    execute program store cell = if cell ∈ targets then goal cell else store cell

end Runs

theorem execute_eq_applyAll [DecidableEq Cell] (program : Program Value)
    (store : ∀ cell, Value cell) : execute program store = applyAll (performed program) store := by
  induction program generalizing store with
  | nil => rfl
  | cons statement rest ih =>
      cases statement with
      | write write => exact ih (write.apply store)
      | check passes =>
          cases passes with
          | true => exact ih store
          | false => rfl

@[simp] theorem completes_append (first second : Program Value) :
    completes (first ++ second) = (completes first && completes second) := by
  induction first with
  | nil => rfl
  | cons statement rest ih =>
      cases statement with
      | write write => exact ih
      | check passes =>
          change (passes && completes (rest ++ second)) = (passes && completes rest && _)
          rw [ih, Bool.and_assoc]

variable [DecidableEq Cell]

theorem execute_append (first second : Program Value) (store : ∀ cell, Value cell) :
    execute (first ++ second) store =
      if completes first then execute second (execute first store) else execute first store := by
  induction first generalizing store with
  | nil => rfl
  | cons statement rest ih =>
      cases statement with
      | write write => exact ih (write.apply store)
      | check passes =>
          cases passes with
          | true => exact ih store
          | false => rfl

variable {goal : ∀ cell, Value cell} {watched : Cell → Prop}

theorem settles_nil : Settles [] goal watched [] :=
  fun _ _ _ => rfl

theorem Settles.append {first second : Program Value} {targets targets' : List Cell}
    (left : Settles first goal watched targets) (right : Settles second goal watched targets') :
    Settles (first ++ second) goal watched
      (targets ++ if completes first then targets' else []) := by
  intro store cell seen
  rw [execute_append]
  cases completes first with
  | false =>
      rw [if_neg Bool.false_ne_true, if_neg Bool.false_ne_true, List.append_nil]
      exact left store cell seen
  | true =>
      rw [if_pos rfl, if_pos rfl, right _ cell seen, left store cell seen]
      by_cases later : cell ∈ targets'
      · rw [if_pos later, if_pos (List.mem_append_right _ later)]
      · rw [if_neg later]
        apply if_congr _ rfl rfl
        rw [List.mem_append, or_iff_left later]

theorem Settles.append_of_completes {first second : Program Value}
    {targets targets' : List Cell} (done : completes first = true)
    (left : Settles first goal watched targets) (right : Settles second goal watched targets') :
    Settles (first ++ second) goal watched (targets ++ targets') := by
  have both := left.append right
  rw [if_pos done] at both
  exact both

theorem settles_check (passes : Bool) : Settles [.check passes] goal watched [] := by
  intro store cell _
  cases passes <;> rfl

theorem settles_set {cell : Cell} {value : Value cell} (same : goal cell = value) :
    Settles [.write (.set cell value)] goal watched [cell] := by
  intro store other _
  change (Write.set cell value).apply store other = _
  by_cases here : other = cell
  · subst here
    rw [if_pos List.mem_cons_self, same]
    exact (Write.set other value).apply_same store
  · rw [if_neg (fun member => here (List.mem_singleton.mp member))]
    exact Write.apply_of_ne here store

theorem settles_unwatched {write : Write Value} (unseen : ¬ watched write.cell) :
    Settles [.write write] goal watched [] := by
  intro store cell seen
  have other : cell ≠ write.cell := by
    intro same
    rw [same] at seen
    exact unseen seen
  exact Write.apply_of_ne other store

theorem settles_flatMap {Item : Type*} {program : Item → Program Value}
    (target : Item → Cell) {items : List Item}
    (each : ∀ item ∈ items, completes (program item) = true ∧
      Settles (program item) goal watched [target item]) :
    completes (items.flatMap program) = true ∧
      Settles (items.flatMap program) goal watched (items.map target) := by
  induction items with
  | nil => exact ⟨rfl, settles_nil⟩
  | cons item rest ih =>
      obtain ⟨done, settles⟩ := each item List.mem_cons_self
      obtain ⟨restDone, restSettles⟩ :=
        ih fun other member => each other (List.mem_cons_of_mem item member)
      rw [List.flatMap_cons, List.map_cons]
      refine ⟨?_, settles.append_of_completes done restSettles⟩
      rw [completes_append, done, restDone]
      rfl

end FiksOpp.CheckedWrites
