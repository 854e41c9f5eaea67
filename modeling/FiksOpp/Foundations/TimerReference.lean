/-
Periodic timers that are cancelled through one reference.  Starting a timer moves the
reference to it; an older timer that still runs can then no longer be cancelled.
-/

import Mathlib.Data.List.Basic

namespace FiksOpp.TimerReference

structure Timers where
  created : Nat := 0
  active : List Nat := []
  reference : Option Nat := none
  deriving DecidableEq, Repr

namespace Timers

def start (timers : Timers) : Timers :=
  { created := timers.created + 1
    active := timers.active ++ [timers.created]
    reference := some timers.created }

def cancel (timers : Timers) : Timers :=
  match timers.reference with
  | none => timers
  | some timer => { timers with active := timers.active.filter fun other => other ≠ timer }

/-- No timer runs but the one that can be cancelled. -/
def Owned (timers : Timers) : Prop :=
  timers.active = [] ∨ ∃ timer, timers.reference = some timer ∧ timers.active = [timer]

theorem owned_of_idle {timers : Timers} (idle : timers.active = []) : timers.Owned :=
  Or.inl idle

theorem Owned.length_le {timers : Timers} (owned : timers.Owned) : timers.active.length ≤ 1 := by
  rcases owned with idle | ⟨timer, _, running⟩
  · rw [idle]
    exact Nat.zero_le 1
  · rw [running]
    exact Nat.le_refl 1

theorem length_start_le_iff (timers : Timers) :
    timers.start.active.length ≤ 1 ↔ timers.active = [] := by
  rw [← List.length_eq_zero_iff]
  unfold start
  rw [List.length_append, List.length_singleton]
  omega

theorem active_start_ne_nil (timers : Timers) : timers.start.active ≠ [] :=
  List.append_ne_nil_of_right_ne_nil _ (List.cons_ne_nil _ _)

theorem owned_start {timers : Timers} (idle : timers.active = []) : timers.start.Owned := by
  right
  refine ⟨timers.created, rfl, ?_⟩
  unfold start
  rw [idle, List.nil_append]

theorem Owned.active_cancel {timers : Timers} (owned : timers.Owned) :
    timers.cancel.active = [] := by
  unfold cancel
  rcases owned with idle | ⟨timer, reference, running⟩
  · cases timers.reference with
    | none => exact idle
    | some timer =>
        change timers.active.filter _ = []
        rw [idle]
        rfl
  · rw [reference]
    change timers.active.filter _ = []
    rw [running]
    simp

end Timers

end FiksOpp.TimerReference
