/-
Fields that are kept twice: in a cell of the running program and, encoded, in a cell
that outlives it.  A mirrored field is what its durable cell reads as; writes that touch
both cells together, or neither, keep it so.  A program whose steps look at durable and
mirrored cells only does not notice on them when it is restarted.
-/

import FiksOpp.Foundations.CellStore
import FiksOpp.Foundations.EventRun

namespace FiksOpp.CellStore

variable {Cell : Type*} {Value : Cell → Type*}

/-- A field, the durable cell that keeps it, and how it is read from there. -/
structure Mirror (Value : Cell → Type*) where
  field : Cell
  key : Cell
  read : Value key → Value field

namespace Mirror

def Faithful (mirror : Mirror Value) (store : ∀ cell, Value cell) : Prop :=
  store mirror.field = mirror.read (store mirror.key)

variable [DecidableEq Cell] {mirror : Mirror Value}

def Kept (mirror : Mirror Value) (writes : List (Write Value)) : Prop :=
  ∀ store, mirror.Faithful store → mirror.Faithful (applyAll writes store)

theorem kept_nil : mirror.Kept [] :=
  fun _ faithful => faithful

theorem applyAll_append (first second : List (Write Value)) (store : ∀ cell, Value cell) :
    applyAll (first ++ second) store = applyAll second (applyAll first store) := by
  induction first generalizing store with
  | nil => rfl
  | cons write rest ih => exact ih (write.apply store)

theorem kept_append {first second : List (Write Value)} (keptFirst : mirror.Kept first)
    (keptSecond : mirror.Kept second) : mirror.Kept (first ++ second) := by
  intro store faithful
  rw [applyAll_append]
  exact keptSecond _ (keptFirst store faithful)

theorem kept_of_untouched {writes : List (Write Value)}
    (field : mirror.field ∉ writes.map Write.cell) (key : mirror.key ∉ writes.map Write.cell) :
    mirror.Kept writes := by
  intro store faithful
  unfold Faithful
  rw [applyAll_of_not_mem field, applyAll_of_not_mem key]
  exact faithful

/-- A field and its durable cell, written together. -/
theorem kept_pair {val : Value mirror.field} {stored : Value mirror.key}
    (reads : mirror.read stored = val) (apart : mirror.field ≠ mirror.key) :
    mirror.Kept [Write.set mirror.field val, Write.set mirror.key stored] := by
  intro store _
  unfold Faithful
  have atKey : applyAll [Write.set mirror.field val, Write.set mirror.key stored] store
      mirror.key = stored :=
    Write.apply_same (Write.set mirror.key stored) _
  have atField : applyAll [Write.set mirror.field val, Write.set mirror.key stored] store
      mirror.field = val := by
    change (Write.set mirror.key stored).apply ((Write.set mirror.field val).apply store)
      mirror.field = val
    rw [Write.apply_of_ne apart]
    exact Write.apply_same (Write.set mirror.field val) store
  rw [atKey, atField, reads]

/-- Assignments that touch both cells leave the field as faithful as on any other store. -/
theorem faithful_applyAll_iff {writes : List (Write Value)}
    (assigns : ∀ write ∈ writes, write.Assigns)
    (field : mirror.field ∈ writes.map Write.cell) (key : mirror.key ∈ writes.map Write.cell)
    (left right : ∀ cell, Value cell) :
    mirror.Faithful (applyAll writes left) ↔ mirror.Faithful (applyAll writes right) := by
  unfold Faithful
  rw [applyAll_eq_of_mem assigns field left right, applyAll_eq_of_mem assigns key left right]

end Mirror

theorem AgreeOn.applyAll [DecidableEq Cell] {cells : Cell → Prop}
    {left right : ∀ cell, Value cell} (agree : AgreeOn cells left right)
    (writes : List (Write Value)) :
    AgreeOn cells (CellStore.applyAll writes left) (CellStore.applyAll writes right) := by
  induction writes generalizing left right with
  | nil => exact agree
  | cons write rest ih => exact ih (agree.apply write)

end FiksOpp.CellStore

namespace FiksOpp.EventRun.Machine

variable {State Event Output : Type*} {machine : Machine State Event Output}

/-- The stuttering rule: a run is related to the run without its silent events, when silent
events keep the relation on their side alone and the others on both. -/
theorem related_run_filter (related : State → State → Prop) (silent : Event → Bool)
    (stutters : ∀ left right event, silent event = true → related left right →
      related (machine.next left event) right)
    (kept : ∀ left right event, silent event = false → related left right →
      related (machine.next left event) (machine.next right event))
    {left right : State} (initially : related left right) (events : List Event) :
    related (machine.run left events)
      (machine.run right (events.filter fun event => !silent event)) := by
  induction events generalizing left right with
  | nil => exact initially
  | cons event rest ih =>
      cases loud : silent event with
      | true =>
          rw [List.filter_cons_of_neg (by rw [loud]; decide)]
          exact ih (stutters left right event loud initially)
      | false =>
          rw [List.filter_cons_of_pos (by rw [loud]; decide)]
          exact ih (kept left right event loud initially)

end FiksOpp.EventRun.Machine
