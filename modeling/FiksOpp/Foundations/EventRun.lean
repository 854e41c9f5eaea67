/-
Runs of a deterministic machine that answers an event by a new state and a list
of outputs.  The rules below carry a fact about one step to a fact about every
run; nothing here knows what the states or the events are.
-/

import Mathlib.Algebra.GroupWithZero.Nat
import Mathlib.Data.List.Forall2

namespace FiksOpp.EventRun

structure Machine (State Event Output : Type*) where
  next : State → Event → State
  outputs : State → Event → List Output

namespace Machine

variable {State Event Output : Type*} (machine : Machine State Event Output)

def run (start : State) : List Event → State
  | [] => start
  | event :: rest => run (machine.next start event) rest

def trace (start : State) : List Event → List Output
  | [] => []
  | event :: rest => machine.outputs start event ++ trace (machine.next start event) rest

/-- Each step of the run meets the condition in the state it starts from. -/
def Every (condition : State → Event → Prop) (start : State) : List Event → Prop
  | [] => True
  | event :: rest => condition start event ∧ Every condition (machine.next start event) rest

instance decidableEvery (condition : State → Event → Prop)
    [decide : ∀ state event, Decidable (condition state event)] :
    ∀ (start : State) (events : List Event), Decidable (machine.Every condition start events)
  | _, [] => .isTrue trivial
  | start, event :: rest =>
      have := decidableEvery condition (machine.next start event) rest
      inferInstanceAs
        (Decidable (condition start event ∧
          machine.Every condition (machine.next start event) rest))

variable {machine}

/-- The invariant rule: steps that meet the condition keep the invariant. -/
theorem invariant_run (invariant : State → Prop) {condition : State → Event → Prop}
    (kept : ∀ state event, invariant state → condition state event →
      invariant (machine.next state event))
    {start : State} {events : List Event} (initially : invariant start)
    (meets : machine.Every condition start events) :
    invariant (machine.run start events) := by
  induction events generalizing start with
  | nil => exact initially
  | cons event rest ih =>
      obtain ⟨first, later⟩ := meets
      exact ih (kept start event initially first) later

theorem invariant_run_of_kept (invariant : State → Prop)
    (kept : ∀ state event, invariant state → invariant (machine.next state event))
    {start : State} (initially : invariant start) (events : List Event) :
    invariant (machine.run start events) := by
  induction events generalizing start with
  | nil => exact initially
  | cons event rest ih => exact ih (kept start event initially)

theorem every_and {first second : State → Event → Prop} {start : State} {events : List Event} :
    machine.Every (fun state event => first state event ∧ second state event) start events ↔
      machine.Every first start events ∧ machine.Every second start events := by
  induction events generalizing start with
  | nil => exact iff_of_true trivial ⟨trivial, trivial⟩
  | cons event rest ih =>
      constructor
      · rintro ⟨here, later⟩
        have others := ih.mp later
        exact ⟨⟨here.1, others.1⟩, ⟨here.2, others.2⟩⟩
      · rintro ⟨⟨here, later⟩, ⟨here', later'⟩⟩
        exact ⟨⟨here, here'⟩, ih.mpr ⟨later, later'⟩⟩

theorem every_of_kept (invariant : State → Prop) {good : State → Event → Prop}
    (kept : ∀ state event, invariant state → invariant (machine.next state event))
    (step : ∀ state event, invariant state → good state event)
    {start : State} (initially : invariant start) (events : List Event) :
    machine.Every good start events := by
  induction events generalizing start with
  | nil => trivial
  | cons event rest ih =>
      exact ⟨step start event initially, ih (kept start event initially)⟩

/-- Two step conditions agree on runs where they agree under an invariant that steps
meeting the first keep. -/
theorem every_iff_of_kept (invariant : State → Prop) {left right : State → Event → Prop}
    (kept : ∀ state event, invariant state → left state event →
      invariant (machine.next state event))
    (agree : ∀ state event, invariant state → (left state event ↔ right state event))
    {start : State} {events : List Event} (initially : invariant start) :
    machine.Every left start events ↔ machine.Every right start events := by
  induction events generalizing start with
  | nil => exact Iff.rfl
  | cons event rest ih =>
      have head := agree start event initially
      constructor
      · rintro ⟨first, later⟩
        exact ⟨head.mp first, (ih (kept start event initially first)).mp later⟩
      · rintro ⟨first, later⟩
        have here := head.mpr first
        exact ⟨here, (ih (kept start event initially here)).mpr later⟩

/-- The same rule, where one lemma says both what a step's condition is and what a good step
keeps. -/
theorem every_iff_of_step (invariant : State → Prop) {left right : State → Event → Prop}
    (step : ∀ state event, invariant state →
      (left state event ↔ right state event) ∧
        (left state event → invariant (machine.next state event)))
    {start : State} {events : List Event} (initially : invariant start) :
    machine.Every left start events ↔ machine.Every right start events :=
  every_iff_of_kept invariant (fun state event holds => (step state event holds).2)
    (fun state event holds => (step state event holds).1) initially

theorem every_congr (invariant : State → Prop) {left right : State → Event → Prop}
    (kept : ∀ state event, invariant state → invariant (machine.next state event))
    (agree : ∀ state event, invariant state → (left state event ↔ right state event))
    {start : State} {events : List Event} (initially : invariant start) :
    machine.Every left start events ↔ machine.Every right start events :=
  every_iff_of_kept invariant (fun state event holds _ => kept state event holds) agree initially

/-- A property holds in every state of the run exactly when every step meets the
condition under which one step keeps it; `sound` is what all steps keep. -/
theorem every_next_iff_of_sound (sound good : State → Prop) {condition : State → Event → Prop}
    (kept : ∀ state event, sound state → sound (machine.next state event))
    (exact_step : ∀ state event, sound state → good state →
      (good (machine.next state event) ↔ condition state event))
    {start : State} {events : List Event} (soundly : sound start) (initially : good start) :
    machine.Every (fun state event => good (machine.next state event)) start events ↔
      machine.Every condition start events :=
  every_iff_of_kept (fun state => sound state ∧ good state)
    (fun state event holds next => ⟨kept state event holds.1, next⟩)
    (fun state event holds => exact_step state event holds.1 holds.2) ⟨soundly, initially⟩

/-- Two step conditions agree on runs whose steps keep a promise, where they agree under the
promise and an invariant that such steps meeting the first keep. -/
theorem every_iff_of_promise (invariant : State → Prop)
    {promise left right : State → Event → Prop}
    (kept : ∀ state event, invariant state → promise state event → left state event →
      invariant (machine.next state event))
    (agree : ∀ state event, invariant state → promise state event →
      (left state event ↔ right state event))
    {start : State} {events : List Event} (initially : invariant start)
    (promised : machine.Every promise start events) :
    machine.Every left start events ↔ machine.Every right start events := by
  induction events generalizing start with
  | nil => exact Iff.rfl
  | cons event rest ih =>
      obtain ⟨now, later⟩ := promised
      have head := agree start event initially now
      constructor
      · rintro ⟨first, others⟩
        exact ⟨head.mp first, (ih (kept start event initially now first) later).mp others⟩
      · rintro ⟨first, others⟩
        have here := head.mpr first
        exact ⟨here, (ih (kept start event initially now here) later).mpr others⟩

theorem every_next_iff_of_promise (sound good : State → Prop)
    {promise condition : State → Event → Prop}
    (kept : ∀ state event, sound state → sound (machine.next state event))
    (exact_step : ∀ state event, sound state → good state → promise state event →
      (good (machine.next state event) ↔ condition state event))
    {start : State} {events : List Event} (soundly : sound start) (initially : good start)
    (promised : machine.Every promise start events) :
    machine.Every (fun state event => good (machine.next state event)) start events ↔
      machine.Every condition start events :=
  every_iff_of_promise (fun state => sound state ∧ good state)
    (fun state event holds _ next => ⟨kept state event holds.1, next⟩)
    (fun state event holds => exact_step state event holds.1 holds.2) ⟨soundly, initially⟩
    promised

theorem every_next_iff (good : State → Prop) {condition : State → Event → Prop}
    (exact_step : ∀ state event, good state →
      (good (machine.next state event) ↔ condition state event))
    {start : State} {events : List Event} (initially : good start) :
    machine.Every (fun state event => good (machine.next state event)) start events ↔
      machine.Every condition start events :=
  every_next_iff_of_sound (fun _ => True) good (fun _ _ _ => trivial)
    (fun state event _ => exact_step state event) trivial initially

/-- What every step does, under the condition and an invariant it keeps. -/
theorem every_of_invariant (invariant : State → Prop) {condition good : State → Event → Prop}
    (step : ∀ state event, invariant state → condition state event →
      invariant (machine.next state event) ∧ good state event)
    {start : State} {events : List Event} (initially : invariant start)
    (meets : machine.Every condition start events) : machine.Every good start events := by
  induction events generalizing start with
  | nil => trivial
  | cons event rest ih =>
      obtain ⟨first, later⟩ := meets
      obtain ⟨kept, here⟩ := step start event initially first
      exact ⟨here, ih kept later⟩

/-- The output rule: a run emits good outputs only exactly when each step does. -/
theorem forall_trace_iff (good : Output → Prop) {start : State} {events : List Event} :
    (∀ output ∈ machine.trace start events, good output) ↔
      machine.Every
        (fun state event => ∀ output ∈ machine.outputs state event, good output)
        start events := by
  induction events generalizing start with
  | nil =>
      constructor
      · intro _
        trivial
      · intro _ output member
        exact absurd member List.not_mem_nil
  | cons event rest ih =>
      rw [trace, List.forall_mem_append, ih]
      rfl

theorem forall_trace_of_invariant (invariant : State → Prop) {good : Output → Prop}
    (kept : ∀ state event, invariant state → invariant (machine.next state event))
    (emits : ∀ state event, invariant state →
      ∀ output ∈ machine.outputs state event, good output)
    {start : State} {events : List Event} (initially : invariant start) :
    ∀ output ∈ machine.trace start events, good output := by
  induction events generalizing start with
  | nil =>
      intro output member
      exact absurd member List.not_mem_nil
  | cons event rest ih =>
      intro output member
      rcases List.mem_append.mp member with now | later
      · exact emits start event initially output now
      · exact ih (kept start event initially) output later

/-- The accounting rule: what one step adds to a weight adds up over the run. -/
theorem weight_run (invariant : State → Prop) (weight : State → Nat) (gain : Event → Nat)
    (kept : ∀ state event, invariant state → invariant (machine.next state event))
    (adds : ∀ state event, invariant state →
      weight (machine.next state event) = weight state + gain event)
    {start : State} {events : List Event} (initially : invariant start) :
    weight (machine.run start events) = weight start + (events.map gain).sum := by
  induction events generalizing start with
  | nil => rfl
  | cons event rest ih =>
      have first := adds start event initially
      have later := ih (kept start event initially)
      rw [List.map_cons, List.sum_cons]
      change weight (machine.run (machine.next start event) rest) = _
      omega

/-- The last-writer rule: what a view shows after the run is what the last event that
sets it has set. -/
theorem view_run {View : Type*} (view : State → View) (sets : Event → Option View)
    (step : ∀ state event, view (machine.next state event) = (sets event).getD (view state))
    (start : State) (events : List Event) :
    view (machine.run start events) =
      ((events.filterMap sets).getLast?).getD (view start) := by
  induction events generalizing start with
  | nil => rfl
  | cons event rest ih =>
      change view (machine.run (machine.next start event) rest) = _
      rw [ih, step]
      cases set : sets event with
      | none => rw [List.filterMap_cons_none set, Option.getD_none]
      | some shown =>
          rw [List.filterMap_cons_some set, List.getLast?_cons, Option.getD_some]
          rfl

/-- The fold rule: a view that each step changes by its outputs alone is, after the
run, what all outputs together make of it. -/
theorem view_run_eq_foldl {View : Type*} (view : State → View) (absorb : View → Output → View)
    (step : ∀ state event,
      view (machine.next state event) = (machine.outputs state event).foldl absorb (view state))
    (start : State) (events : List Event) :
    view (machine.run start events) = (machine.trace start events).foldl absorb (view start) := by
  induction events generalizing start with
  | nil => rfl
  | cons event rest ih =>
      change view (machine.run (machine.next start event) rest) = _
      rw [ih, step, trace, List.foldl_append]

theorem run_concat (start : State) (events : List Event) (event : Event) :
    machine.run start (events ++ [event]) = machine.next (machine.run start events) event := by
  induction events generalizing start with
  | nil => rfl
  | cons first rest ih => exact ih (machine.next start first)

theorem run_append (start : State) (before after : List Event) :
    machine.run start (before ++ after) = machine.run (machine.run start before) after := by
  induction before generalizing start with
  | nil => rfl
  | cons event rest ih => exact ih (machine.next start event)

/-- The relational rule: related events lead related states to related states. -/
theorem related_run (related : State → State → Prop) (matched : Event → Event → Prop)
    (kept : ∀ left right event event', related left right → matched event event' →
      related (machine.next left event) (machine.next right event'))
    {left right : State} {events events' : List Event} (initially : related left right)
    (matches_ : List.Forall₂ matched events events') :
    related (machine.run left events) (machine.run right events') := by
  induction matches_ generalizing left right with
  | nil => exact initially
  | cons head _ ih => exact ih (kept _ _ _ _ initially head)

/-- The two-run rule for outputs: runs whose steps meet the condition, from related
states and under matched events, show a viewer the same. -/
theorem related_trace (related : State → State → Prop) (matched : Event → Event → Prop)
    {condition : State → Event → Prop} {View : Type*} (view : Output → Option View)
    (kept : ∀ left right event event', related left right → matched event event' →
      related (machine.next left event) (machine.next right event'))
    (same : ∀ left right event event', related left right → matched event event' →
      condition left event → condition right event' →
      (machine.outputs left event).filterMap view =
        (machine.outputs right event').filterMap view)
    {left right : State} {events events' : List Event} (initially : related left right)
    (matches_ : List.Forall₂ matched events events')
    (meets : machine.Every condition left events)
    (meets' : machine.Every condition right events') :
    (machine.trace left events).filterMap view =
      (machine.trace right events').filterMap view := by
  induction matches_ generalizing left right with
  | nil => rfl
  | cons head _ ih =>
      obtain ⟨first, later⟩ := meets
      obtain ⟨first', later'⟩ := meets'
      have now := same _ _ _ _ initially head first first'
      have rest := ih (kept _ _ _ _ initially head) later later'
      unfold trace
      rw [List.filterMap_append, List.filterMap_append, now, rest]

end Machine

private theorem filterMap_length_le {α β : Type*} (narrow wide : α → Option β)
    {items : List α}
    (within : ∀ item ∈ items, ∀ value, narrow item = some value → wide item = some value) :
    (items.filterMap narrow).length ≤ (items.filterMap wide).length := by
  induction items with
  | nil => exact Nat.le_refl 0
  | cons head tail ih =>
      have tailBound := ih (fun item member => within item (List.mem_cons_of_mem head member))
      cases shown : narrow head with
      | none =>
          rw [List.filterMap_cons_none shown]
          cases wider : wide head with
          | none =>
              rw [List.filterMap_cons_none wider]
              exact tailBound
          | some value =>
              rw [List.filterMap_cons_some wider, List.length_cons]
              omega
      | some value =>
          have wider := within head List.mem_cons_self value shown
          rw [List.filterMap_cons_some shown, List.filterMap_cons_some wider,
            List.length_cons, List.length_cons]
          omega

/-- A partial view that never shows more than another shows the same list
exactly when the two agree on every item. -/
theorem filterMap_eq_filterMap_iff {α β : Type*} (narrow wide : α → Option β)
    {items : List α}
    (within : ∀ item ∈ items, ∀ value, narrow item = some value → wide item = some value) :
    items.filterMap narrow = items.filterMap wide ↔
      ∀ item ∈ items, narrow item = wide item := by
  constructor
  · intro same
    induction items with
    | nil =>
        intro item member
        exact absurd member List.not_mem_nil
    | cons head tail ih =>
        have tailWithin := fun item member =>
          within item (List.mem_cons_of_mem head member)
        have tailBound := filterMap_length_le narrow wide tailWithin
        have both : narrow head = wide head ∧ tail.filterMap narrow = tail.filterMap wide := by
          cases shown : narrow head with
          | some value =>
              have wider := within head List.mem_cons_self value shown
              rw [List.filterMap_cons_some shown, List.filterMap_cons_some wider] at same
              exact ⟨wider.symm, (List.cons.inj same).2⟩
          | none =>
              rw [List.filterMap_cons_none shown] at same
              cases wider : wide head with
              | none =>
                  rw [List.filterMap_cons_none wider] at same
                  exact ⟨rfl, same⟩
              | some value =>
                  rw [List.filterMap_cons_some wider] at same
                  have counts := congrArg List.length same
                  rw [List.length_cons] at counts
                  omega
        intro item member
        rcases List.mem_cons.mp member with atTop | inTail
        · rw [atTop]
          exact both.1
        · exact ih tailWithin both.2 item inTail
  · intro agree
    exact List.filterMap_congr agree

end FiksOpp.EventRun
