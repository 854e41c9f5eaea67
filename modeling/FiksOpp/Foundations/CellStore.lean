/-
Stores of typed cells and the writes made to them.  A write looks at its own cell
only, so two stores that agree on a set of cells keep agreeing on it under writes
that are the same there, and a list of assignments makes two stores equal on the
cells it names and leaves every other cell alone.
-/

import Mathlib.Data.List.Forall2
import Mathlib.Logic.Function.Basic

namespace FiksOpp.CellStore

variable {Cell : Type*} {Value : Cell → Type*}

/-- A write to one cell, which may read what the cell holds. -/
structure Write (Value : Cell → Type*) where
  cell : Cell
  update : Value cell → Value cell

namespace Write

def set (cell : Cell) (value : Value cell) : Write Value :=
  { cell := cell, update := fun _ => value }

def Assigns (write : Write Value) : Prop :=
  ∀ before before', write.update before = write.update before'

@[simp] theorem assigns_set (cell : Cell) (value : Value cell) : (set cell value).Assigns :=
  fun _ _ => rfl

@[simp] theorem cell_set (cell : Cell) (value : Value cell) : (set cell value).cell = cell := rfl

variable [DecidableEq Cell]

def apply (write : Write Value) (store : ∀ cell, Value cell) : ∀ cell, Value cell :=
  Function.update store write.cell (write.update (store write.cell))

@[simp] theorem apply_same (write : Write Value) (store : ∀ cell, Value cell) :
    write.apply store write.cell = write.update (store write.cell) :=
  Function.update_self ..

theorem apply_of_ne {write : Write Value} {cell : Cell} (other : cell ≠ write.cell)
    (store : ∀ cell, Value cell) : write.apply store cell = store cell :=
  Function.update_of_ne other ..

end Write

variable [DecidableEq Cell]

def applyAll : List (Write Value) → (∀ cell, Value cell) → ∀ cell, Value cell
  | [], store => store
  | write :: rest, store => applyAll rest (write.apply store)

def AgreeOn (cells : Cell → Prop) (left right : ∀ cell, Value cell) : Prop :=
  ∀ cell, cells cell → left cell = right cell

theorem AgreeOn.apply {cells : Cell → Prop} {left right : ∀ cell, Value cell}
    (agree : AgreeOn cells left right) (write : Write Value) :
    AgreeOn cells (write.apply left) (write.apply right) := by
  intro cell inside
  by_cases same : cell = write.cell
  · subst same
    rw [write.apply_same, write.apply_same, agree _ inside]
  · rw [Write.apply_of_ne same, Write.apply_of_ne same, agree cell inside]

theorem AgreeOn.apply_outside {cells : Cell → Prop} {left right : ∀ cell, Value cell}
    (agree : AgreeOn cells left right) {write : Write Value} (outside : ¬ cells write.cell) :
    AgreeOn cells (write.apply left) right := by
  intro cell inside
  have other : cell ≠ write.cell := by
    intro same
    rw [same] at inside
    exact outside inside
  rw [Write.apply_of_ne other, agree cell inside]

theorem AgreeOn.applyAll_filter {cells : Cell → Prop} [DecidablePred cells]
    {left right : ∀ cell, Value cell} (agree : AgreeOn cells left right)
    (writes : List (Write Value)) :
    AgreeOn cells (applyAll writes left)
      (applyAll (writes.filter fun write => cells write.cell) right) := by
  induction writes generalizing left right with
  | nil => exact agree
  | cons write rest ih =>
      by_cases inside : cells write.cell
      · rw [List.filter_cons_of_pos (by simpa using inside)]
        exact ih (agree.apply write)
      · rw [List.filter_cons_of_neg (by simpa using inside)]
        exact ih (agree.apply_outside inside)

theorem AgreeOn.applyAll_of_filter_eq {cells : Cell → Prop} [DecidablePred cells]
    {left right : ∀ cell, Value cell} (agree : AgreeOn cells left right)
    {writes writes' : List (Write Value)}
    (same : (writes.filter fun write => cells write.cell) =
      writes'.filter fun write => cells write.cell) :
    AgreeOn cells (applyAll writes left) (applyAll writes' right) := by
  intro cell inside
  have reflexive : AgreeOn cells right right := fun _ _ => rfl
  calc applyAll writes left cell
      = applyAll (writes.filter fun write => cells write.cell) right cell :=
        agree.applyAll_filter writes cell inside
    _ = applyAll (writes'.filter fun write => cells write.cell) right cell := by rw [same]
    _ = applyAll writes' right cell :=
        (reflexive.applyAll_filter writes' cell inside).symm

theorem applyAll_of_not_mem {writes : List (Write Value)} {cell : Cell}
    (untouched : cell ∉ writes.map Write.cell) (store : ∀ cell, Value cell) :
    applyAll writes store cell = store cell := by
  induction writes generalizing store with
  | nil => rfl
  | cons write rest ih =>
      rw [List.map_cons, List.mem_cons, not_or] at untouched
      obtain ⟨other, later⟩ := untouched
      rw [applyAll, ih later, Write.apply_of_ne other]

theorem applyAll_eq_of_mem {writes : List (Write Value)}
    (assigns : ∀ write ∈ writes, write.Assigns) {cell : Cell}
    (named : cell ∈ writes.map Write.cell) (left right : ∀ cell, Value cell) :
    applyAll writes left cell = applyAll writes right cell := by
  induction writes generalizing left right with
  | nil => exact absurd named List.not_mem_nil
  | cons write rest ih =>
      have restAssigns := fun other member => assigns other (List.mem_cons_of_mem write member)
      by_cases later : cell ∈ rest.map Write.cell
      · exact ih restAssigns later (write.apply left) (write.apply right)
      · rw [List.map_cons, List.mem_cons] at named
        rcases named with here | absent
        · subst here
          rw [applyAll, applyAll, applyAll_of_not_mem later, applyAll_of_not_mem later,
            write.apply_same, write.apply_same]
          exact assigns write List.mem_cons_self _ _
        · exact absurd absent later

/-- Assignments make two stores agree exactly when they agreed wherever nothing
is assigned. -/
theorem agreeOn_applyAll_iff {writes : List (Write Value)}
    (assigns : ∀ write ∈ writes, write.Assigns) (cells : Cell → Prop)
    (left right : ∀ cell, Value cell) :
    AgreeOn cells (applyAll writes left) (applyAll writes right) ↔
      AgreeOn (fun cell => cells cell ∧ cell ∉ writes.map Write.cell) left right := by
  constructor
  · intro agree cell inside
    have same := agree cell inside.1
    rwa [applyAll_of_not_mem inside.2, applyAll_of_not_mem inside.2] at same
  · intro agree cell inside
    by_cases named : cell ∈ writes.map Write.cell
    · exact applyAll_eq_of_mem assigns named left right
    · rw [applyAll_of_not_mem named, applyAll_of_not_mem named]
      exact agree cell ⟨inside, named⟩

end FiksOpp.CellStore
