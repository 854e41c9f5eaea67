/-
Calls that log events while they run, and end by returning, by throwing or not yet.

A handler decides for each failure whether it takes it.  The rules below say what is
logged and how the call ends once its parts are put together.
-/

import Mathlib.Data.List.Basic

namespace FiksOpp.LoggedCalls

inductive Ending (Failure Value : Type*) where
  | pending
  | failed (failure : Failure)
  | returned (value : Value)
  deriving DecidableEq, Repr

structure Call (Event Failure Value : Type*) where
  events : List Event
  ending : Ending Failure Value
  deriving DecidableEq, Repr

namespace Call

variable {Event Failure Value Next : Type*}

def done (value : Value) : Call Event Failure Value :=
  { events := [], ending := .returned value }

def throw (failure : Failure) : Call Event Failure Value :=
  { events := [], ending := .failed failure }

def pending : Call Event Failure Value :=
  { events := [], ending := .pending }

def emit (event : Event) : Call Event Failure Unit :=
  { events := [event], ending := .returned () }

def andThen (call : Call Event Failure Value) (next : Value → Call Event Failure Next) :
    Call Event Failure Next :=
  match call.ending with
  | .pending => { events := call.events, ending := .pending }
  | .failed failure => { events := call.events, ending := .failed failure }
  | .returned value =>
      { events := call.events ++ (next value).events, ending := (next value).ending }

/-- The handler answers the failures that it takes; the others pass through. -/
def catching (call : Call Event Failure Value)
    (handler : Failure → Option (Call Event Failure Value)) : Call Event Failure Value :=
  match call.ending with
  | .failed failure =>
      match handler failure with
      | some handled =>
          { events := call.events ++ handled.events, ending := handled.ending }
      | none => call
  | _ => call

def SettlesOnce (call : Call Event Failure Value) : Prop :=
  call.events.length = 1 ∧ ∃ value, call.ending = .returned value

@[simp] theorem andThen_done (value : Value) (next : Value → Call Event Failure Next) :
    (done value).andThen next = next value := rfl

@[simp] theorem andThen_throw (failure : Failure) (next : Value → Call Event Failure Next) :
    (throw failure).andThen next = throw failure := rfl

@[simp] theorem andThen_pending (next : Value → Call Event Failure Next) :
    (pending : Call Event Failure Value).andThen next = pending := rfl

@[simp] theorem catching_pending (handler : Failure → Option (Call Event Failure Value)) :
    (pending : Call Event Failure Value).catching handler = pending := rfl

theorem catching_throw (failure : Failure)
    (handler : Failure → Option (Call Event Failure Value)) :
    (throw failure).catching handler = (handler failure).getD (throw failure) := by
  simp only [catching, throw]
  cases handler failure <;> rfl

@[simp] theorem settlesOnce_emit (event : Event) :
    (emit event : Call Event Failure Unit).SettlesOnce := ⟨rfl, (), rfl⟩

@[simp] theorem not_settlesOnce_throw (failure : Failure) :
    ¬ (throw failure : Call Event Failure Value).SettlesOnce := by
  rintro ⟨logged, _⟩
  cases logged

@[simp] theorem not_settlesOnce_pending :
    ¬ (pending : Call Event Failure Value).SettlesOnce := by
  rintro ⟨logged, _⟩
  cases logged

end Call

end FiksOpp.LoggedCalls
