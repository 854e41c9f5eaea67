/-
Listeners that are taken down by their key.

Components subscribe to keys when they are mounted; one that is removed disposes keys,
and with a key go the listeners of everybody who subscribed to it.
-/

import FiksOpp.Foundations.EventRun
import Mathlib.Data.Nat.Notation

namespace FiksOpp.KeyedListeners

open EventRun

structure Behaviour (Component Key : Type*) where
  subscribes : Component → List Key
  disposes : Component → List Key

structure State (Component Key : Type*) where
  mounted : List (ℕ × Component) := []
  listeners : List (Key × ℕ) := []
  nextId : ℕ := 0

inductive Event (Component Key : Type*) where
  | mount (component : Component)
  | remove (id : ℕ)
  | emit (key : Key)

section Steps

variable {Component Key : Type*} [DecidableEq Key] (behaviour : Behaviour Component Key)

/-- A removal that names nobody does nothing. -/
def next (state : State Component Key) : Event Component Key → State Component Key
  | .mount component =>
      { mounted := state.mounted ++ [(state.nextId, component)]
        listeners := state.listeners ++
          (behaviour.subscribes component).map fun key => (key, state.nextId)
        nextId := state.nextId + 1 }
  | .remove id =>
      match state.mounted.find? fun entry => entry.1 == id with
      | none => state
      | some (_, component) =>
          { state with
            mounted := state.mounted.filter fun entry => entry.1 != id
            listeners := state.listeners.filter
              fun listener => !(behaviour.disposes component).contains listener.1 }
  | .emit _ => state

def outputs (state : State Component Key) : Event Component Key → List ℕ
  | .emit key => (state.listeners.filter fun listener => listener.1 == key).map Prod.snd
  | _ => []

def machine : Machine (State Component Key) (Event Component Key) ℕ where
  next := next behaviour
  outputs := outputs

/-- Everybody who is mounted listens to the keys it subscribed to, and nobody else does. -/
def Served (state : State Component Key) : Prop :=
  ∀ key id, (key, id) ∈ state.listeners ↔
    ∃ component, (id, component) ∈ state.mounted ∧ key ∈ behaviour.subscribes component

/-- What a removal may do: it disposes all keys of the component and no key of another. -/
def Separate (state : State Component Key) : Event Component Key → Prop
  | .remove id =>
      ∀ component, (id, component) ∈ state.mounted →
        (∀ key ∈ behaviour.subscribes component, key ∈ behaviour.disposes component) ∧
          ∀ other another, (other, another) ∈ state.mounted → other ≠ id →
            ∀ key ∈ behaviour.subscribes another, key ∉ behaviour.disposes component
  | _ => True

omit [DecidableEq Key] in
structure Sound (state : State Component Key) : Prop where
  below : ∀ entry ∈ state.mounted, entry.1 < state.nextId
  unique : ∀ id first second, (id, first) ∈ state.mounted → (id, second) ∈ state.mounted →
    first = second

end Steps

/-! ### One step -/

section Step

variable {Component Key : Type*} [DecidableEq Key] {behaviour : Behaviour Component Key}
  {state : State Component Key}

theorem next_remove_of_none {id : ℕ}
    (missing : state.mounted.find? (fun entry => entry.1 == id) = none) :
    next behaviour state (.remove id) = state := by
  unfold next
  dsimp only
  rw [missing]

theorem next_remove_of_some {id other : ℕ} {component : Component}
    (found : state.mounted.find? (fun entry => entry.1 == id) = some (other, component)) :
    next behaviour state (.remove id) =
      { state with
        mounted := state.mounted.filter fun entry => entry.1 != id
        listeners := state.listeners.filter
          fun listener => !(behaviour.disposes component).contains listener.1 } := by
  unfold next
  dsimp only
  rw [found]

omit [DecidableEq Key] in
theorem mem_of_find {id other : ℕ} {component : Component}
    (found : state.mounted.find? (fun entry => entry.1 == id) = some (other, component)) :
    (id, component) ∈ state.mounted := by
  have member := List.mem_of_find?_eq_some found
  have same := List.find?_some found
  rw [← beq_iff_eq.mp same]
  exact member

theorem sound_mount (sound : Sound state) (component : Component) :
    Sound (next behaviour state (.mount component)) := by
  constructor
  · intro entry member
    rcases List.mem_append.mp member with earlier | new
    · exact Nat.lt_succ_of_lt (sound.below entry earlier)
    · rw [List.mem_singleton.mp new]
      exact Nat.lt_succ_self _
  · intro id first second firstMember secondMember
    have fresh : ∀ held, (state.nextId, held) ∉ state.mounted := by
      intro held member
      exact absurd (sound.below _ member) (Nat.lt_irrefl _)
    rcases List.mem_append.mp firstMember with earlier | new
    · rcases List.mem_append.mp secondMember with earlier' | new'
      · exact sound.unique id first second earlier earlier'
      · cases List.mem_singleton.mp new'
        exact absurd earlier (fresh first)
    · cases List.mem_singleton.mp new
      rcases List.mem_append.mp secondMember with earlier' | new'
      · exact absurd earlier' (fresh second)
      · cases List.mem_singleton.mp new'
        rfl

theorem sound_next (sound : Sound state) (event : Event Component Key) :
    Sound (next behaviour state event) := by
  cases event with
  | mount component => exact sound_mount sound component
  | emit key => exact sound
  | remove id =>
      cases found : state.mounted.find? fun entry => entry.1 == id with
      | none =>
          rw [next_remove_of_none found]
          exact sound
      | some entry =>
          obtain ⟨other, component⟩ := entry
          rw [next_remove_of_some found]
          constructor
          · intro entry member
            exact sound.below entry (List.mem_filter.mp member).1
          · intro id first second firstMember secondMember
            exact sound.unique id first second (List.mem_filter.mp firstMember).1
              (List.mem_filter.mp secondMember).1

theorem served_mount (served : Served behaviour state) (component : Component) :
    Served behaviour (next behaviour state (.mount component)) := by
  intro key id
  change (key, id) ∈ state.listeners ++ _ ↔
    ∃ held, (id, held) ∈ state.mounted ++ [(state.nextId, component)] ∧ _
  rw [List.mem_append, served key id]
  constructor
  · intro listens
    rcases listens with earlier | new
    · obtain ⟨held, member, subscribed⟩ := earlier
      exact ⟨held, List.mem_append_left _ member, subscribed⟩
    · obtain ⟨subscribed, member, same⟩ := List.mem_map.mp new
      cases same
      exact ⟨component, List.mem_append_right _ List.mem_cons_self, member⟩
  · intro listening
    obtain ⟨held, member, subscribed⟩ := listening
    rcases List.mem_append.mp member with earlier | new
    · exact Or.inl ⟨held, earlier, subscribed⟩
    · cases List.mem_singleton.mp new
      exact Or.inr (List.mem_map.mpr ⟨key, subscribed, rfl⟩)

theorem mem_filter_disposes {component : Component} {key : Key} {id : ℕ} :
    (key, id) ∈ state.listeners.filter
        (fun listener => !(behaviour.disposes component).contains listener.1) ↔
      (key, id) ∈ state.listeners ∧ key ∉ behaviour.disposes component := by
  rw [List.mem_filter, Bool.not_eq_true', List.contains_eq_mem, decide_eq_false_iff_not]

omit [DecidableEq Key] in
theorem mem_filter_mounted {id other : ℕ} {component : Component} :
    (other, component) ∈ state.mounted.filter (fun entry => entry.1 != id) ↔
      (other, component) ∈ state.mounted ∧ other ≠ id := by
  rw [List.mem_filter, bne_iff_ne]

theorem served_remove_iff (sound : Sound state) (served : Served behaviour state) (id : ℕ) :
    Served behaviour (next behaviour state (.remove id)) ↔
      Separate behaviour state (.remove id) := by
  cases found : state.mounted.find? fun entry => entry.1 == id with
  | none =>
      rw [next_remove_of_none found]
      refine iff_of_true served ?_
      intro component member
      have absent := List.find?_eq_none.mp found _ member
      exact absurd (beq_self_eq_true id) absent
  | some entry =>
      obtain ⟨same, component⟩ := entry
      have present := mem_of_find found
      rw [next_remove_of_some found]
      constructor
      · intro after held heldMember
        rw [sound.unique id held component heldMember present]
        refine ⟨?_, ?_⟩
        · intro key subscribed
          by_contra kept
          have listening := (served key id).mpr ⟨component, present, subscribed⟩
          obtain ⟨_, member, _⟩ := (after key id).mp (mem_filter_disposes.mpr ⟨listening, kept⟩)
          exact (mem_filter_mounted.mp member).2 rfl
        · intro other another member distinct key subscribed
          have listening := (after key other).mpr
            ⟨another, mem_filter_mounted.mpr ⟨member, distinct⟩, subscribed⟩
          exact (mem_filter_disposes.mp listening).2
      · intro separate key other
        obtain ⟨own, others⟩ := separate component present
        change (key, other) ∈ state.listeners.filter _ ↔
          ∃ held, (other, held) ∈ state.mounted.filter _ ∧ _
        rw [mem_filter_disposes, served key other]
        constructor
        · intro both
          obtain ⟨⟨another, member, subscribed⟩, kept⟩ := both
          refine ⟨another, mem_filter_mounted.mpr ⟨member, ?_⟩, subscribed⟩
          intro equal
          rw [equal] at member
          rw [sound.unique id another component member present] at subscribed
          exact kept (own key subscribed)
        · intro listening
          obtain ⟨another, member, subscribed⟩ := listening
          obtain ⟨mounted, distinct⟩ := mem_filter_mounted.mp member
          have kept := others other another mounted distinct key subscribed
          exact ⟨⟨another, mounted, subscribed⟩, kept⟩

theorem served_next_iff (event : Event Component Key) (sound : Sound state)
    (served : Served behaviour state) :
    Served behaviour (next behaviour state event) ↔ Separate behaviour state event := by
  cases event with
  | mount component => exact iff_of_true (served_mount served component) trivial
  | remove id => exact served_remove_iff sound served id
  | emit key => exact iff_of_true served trivial

/-- Where everybody is served, an event runs the handlers of the mounted subscribers. -/
theorem mem_outputs_emit (served : Served behaviour state) (key : Key) (id : ℕ) :
    id ∈ outputs state (.emit key) ↔
      ∃ component, (id, component) ∈ state.mounted ∧ key ∈ behaviour.subscribes component := by
  rw [← served key id]
  unfold outputs
  dsimp only
  rw [List.mem_map]
  constructor
  · intro listening
    obtain ⟨⟨heard, owner⟩, member, same⟩ := listening
    obtain ⟨inside, equal⟩ := List.mem_filter.mp member
    rw [← same, ← beq_iff_eq.mp equal]
    exact inside
  · intro listening
    exact ⟨(key, id), List.mem_filter.mpr ⟨listening, beq_self_eq_true key⟩, rfl⟩

end Step

theorem served_start {Component Key : Type*} (behaviour : Behaviour Component Key) :
    Served behaviour {} := by
  intro key id
  refine iff_of_false List.not_mem_nil ?_
  intro impossible
  obtain ⟨_, member, _⟩ := impossible
  exact absurd member List.not_mem_nil

theorem sound_start {Component Key : Type*} : Sound ({} : State Component Key) where
  below := fun _ member => absurd member List.not_mem_nil
  unique := fun _ _ _ member => absurd member List.not_mem_nil

/-- Everybody is served throughout a run exactly when every removal is separate. -/
theorem every_served_iff {Component Key : Type*} [DecidableEq Key]
    (behaviour : Behaviour Component Key) (events : List (Event Component Key)) :
    (machine behaviour).Every
        (fun state event => Served behaviour ((machine behaviour).next state event)) {} events ↔
      (machine behaviour).Every (Separate behaviour) {} events :=
  (machine behaviour).every_next_iff_of_sound Sound (Served behaviour)
    (fun _ event sound => sound_next sound event)
    (fun _ event sound served => served_next_iff event sound served)
    sound_start (served_start behaviour)

end FiksOpp.KeyedListeners
