/-
The coordinates of a post-job request.

A fix is kept in the preferences and in `appStore`.  Address lookups write the
preferences only; what reads the position directly writes both; a cold start leaves the
preferences.  `CreateServiceScreen` merges the two copies, component by component, with 0
for a missing one; `CreatePostRequestScreen` reads the store.
-/

import FiksOpp.Foundations.EventRun
import Mathlib.Algebra.Order.Field.Rat

namespace FiksOpp.PostJobLocation

open EventRun

structure Fix where
  latitude : ℚ := 0
  longitude : ℚ := 0
  deriving DecidableEq, Repr

/-- The last two flags: the check of a screen has passed and its request is still to go
out.  `established` is what the actions were about, for comparison only. -/
structure State where
  store : Fix := {}
  prefs : Fix := {}
  serviceChecked : Bool := false
  postChecked : Bool := false
  established : Option Fix := none
  deriving DecidableEq, Repr

inductive Action where
  /-- `buildFullAddressFromLatLong` for a map pick, the map's first position or the current
  location; it throws before it writes where no placemark is found. -/
  | addressLookup (fix : Fix) (found : Bool)
  /-- `getLocation` of the list of posted jobs. -/
  | listPosition (fix : Fix)
  | coldStart
  | logout
  /-- The post-job branch of `checkValidation`, with what the GPS would answer. -/
  | checkValidation (gps : Option Fix)
  /-- `onSuccess` of `_submitService`. -/
  | submitService
  | createPostJobClick
  /-- `savePostJob`, after the user's mail has been checked. -/
  | savePostJob
  deriving DecidableEq, Repr

/-- What a step does towards the backend: a pair that is sent, or a stored pair that is
not accepted. -/
inductive Outcome where
  | sent (pair : Fix)
  | refused
  deriving DecidableEq, Repr

namespace State

def coordsLat (state : State) : ℚ :=
  if state.store.latitude ≠ 0 then state.store.latitude else state.prefs.latitude

def coordsLng (state : State) : ℚ :=
  if state.store.longitude ≠ 0 then state.store.longitude else state.prefs.longitude

def coords (state : State) : Fix :=
  { latitude := state.coordsLat, longitude := state.coordsLng }

def hasStoredCoords (state : State) : Bool :=
  state.coordsLat != 0 && state.coordsLng != 0

def setLatitude (state : State) (value : ℚ) : State :=
  { state with
    store := { state.store with latitude := value }
    prefs := { state.prefs with latitude := value } }

def setLongitude (state : State) (value : ℚ) : State :=
  { state with
    store := { state.store with longitude := value }
    prefs := { state.prefs with longitude := value } }

def establish (state : State) (fix : Fix) : State :=
  { (state.setLatitude fix.latitude).setLongitude fix.longitude with established := some fix }

def syncStoreCoords (state : State) : State :=
  let pLat := state.prefs.latitude
  let pLng := state.prefs.longitude
  if pLat = 0 ∨ pLng = 0 then state
  else
    let withLat := if state.store.latitude = 0 then state.setLatitude pLat else state
    if withLat.store.longitude = 0 then withLat.setLongitude pLng else withLat

/-- `_ensurePostJobLocation`; the check passes with a stored pair or a new fix. -/
def ensurePostJobLocation (state : State) (gps : Option Fix) : State :=
  let synced := state.syncStoreCoords
  if synced.hasStoredCoords then { synced with serviceChecked := true }
  else
    match gps with
    | some fix => { synced.establish fix with serviceChecked := true }
    | none => synced

def hasValidLocation (state : State) : Bool :=
  state.store.latitude != 0 && state.store.longitude != 0

end State

def next (state : State) : Action → State
  | .addressLookup fix found =>
      if found then { state with prefs := fix, established := some fix } else state
  | .listPosition fix => state.establish fix
  | .coldStart => { prefs := state.prefs, established := state.established }
  | .logout => {}
  | .checkValidation gps => state.ensurePostJobLocation gps
  | .submitService => { state with serviceChecked := false }
  | .createPostJobClick => { state with postChecked := state.hasValidLocation }
  | .savePostJob => { state with postChecked := false }

def outputs (state : State) : Action → List Outcome
  | .checkValidation _ => if state.syncStoreCoords.hasStoredCoords then [] else [.refused]
  | .submitService => if state.serviceChecked then [.sent state.coords] else []
  | .createPostJobClick => if state.hasValidLocation then [] else [.refused]
  | .savePostJob => if state.postChecked then [.sent state.store] else []
  | _ => []

def machine : Machine State Action Outcome where
  next := next
  outputs := outputs

/-- What is sent is the latest established pair, and such a pair is accepted. -/
def Right (state : State) : Outcome → Prop
  | .sent pair => state.established = some pair
  | .refused => state.established = none

def RightStep (state : State) (action : Action) : Prop :=
  ∀ outcome ∈ outputs state action, Right state outcome

/-- A component in memory is that of the established fix, or 0, which is passed over. -/
def Component (stored established : ℚ) : Prop :=
  stored = 0 ∨ stored = established

/-- The state a step needs to be right. -/
def CopiesAgree (state : State) : Action → Prop
  | .checkValidation _ =>
      ∀ fix, state.established = some fix →
        (state.store.latitude ≠ 0 ∨ fix.latitude ≠ 0) ∧
          (state.store.longitude ≠ 0 ∨ fix.longitude ≠ 0)
  | .submitService =>
      state.serviceChecked = true → ∀ fix, state.established = some fix →
        Component state.store.latitude fix.latitude ∧
          Component state.store.longitude fix.longitude
  | .createPostJobClick =>
      ∀ fix, state.established = some fix →
        state.store.latitude ≠ 0 ∧ state.store.longitude ≠ 0
  | .savePostJob => state.postChecked = true → state.established = some state.store
  | _ => True

/-- The preferences hold the established fix; before there is one, memory is empty. -/
structure Sound (state : State) : Prop where
  prefs : state.prefs = state.established.getD {}
  empty : state.established = none → state.store = {}
  checked : state.serviceChecked = true → state.established ≠ none

theorem sound_start : Sound {} where
  prefs := rfl
  empty := fun _ => rfl
  checked := fun impossible => absurd impossible Bool.false_ne_true

theorem coordsLat_ne_zero_iff (state : State) :
    state.coordsLat ≠ 0 ↔ state.store.latitude ≠ 0 ∨ state.prefs.latitude ≠ 0 := by
  unfold State.coordsLat
  by_cases stored : state.store.latitude ≠ 0
  · rw [if_pos stored]
    exact iff_of_true stored (Or.inl stored)
  · rw [if_neg stored]
    exact (or_iff_right stored).symm

theorem coordsLng_ne_zero_iff (state : State) :
    state.coordsLng ≠ 0 ↔ state.store.longitude ≠ 0 ∨ state.prefs.longitude ≠ 0 := by
  unfold State.coordsLng
  by_cases stored : state.store.longitude ≠ 0
  · rw [if_pos stored]
    exact iff_of_true stored (Or.inl stored)
  · rw [if_neg stored]
    exact (or_iff_right stored).symm

theorem hasStoredCoords_iff (state : State) :
    state.hasStoredCoords = true ↔
      (state.store.latitude ≠ 0 ∨ state.prefs.latitude ≠ 0) ∧
        (state.store.longitude ≠ 0 ∨ state.prefs.longitude ≠ 0) := by
  unfold State.hasStoredCoords
  rw [Bool.and_eq_true, bne_iff_ne, bne_iff_ne, coordsLat_ne_zero_iff, coordsLng_ne_zero_iff]

theorem hasValidLocation_iff (state : State) :
    state.hasValidLocation = true ↔
      state.store.latitude ≠ 0 ∧ state.store.longitude ≠ 0 := by
  unfold State.hasValidLocation
  rw [Bool.and_eq_true, bne_iff_ne, bne_iff_ne]

/-- The synchronization fills empty components with what is read for them anyway. -/
structure Synced (before after : State) : Prop where
  prefs : after.prefs = before.prefs
  established : after.established = before.established
  serviceChecked : after.serviceChecked = before.serviceChecked
  stored : after.hasStoredCoords = before.hasStoredCoords
  empty : before.prefs = {} → after.store = before.store

theorem synced_setLatitude {state : State} (saved : state.prefs.latitude ≠ 0) :
    Synced state (state.setLatitude state.prefs.latitude) := by
  refine ⟨rfl, rfl, rfl, ?_, ?_⟩
  · rw [Bool.eq_iff_iff, hasStoredCoords_iff, hasStoredCoords_iff]
    exact and_congr_left fun _ => iff_of_true (Or.inl saved) (Or.inr saved)
  · intro empty
    rw [empty] at saved
    exact absurd rfl saved

theorem synced_setLongitude {state : State} (saved : state.prefs.longitude ≠ 0) :
    Synced state (state.setLongitude state.prefs.longitude) := by
  refine ⟨rfl, rfl, rfl, ?_, ?_⟩
  · rw [Bool.eq_iff_iff, hasStoredCoords_iff, hasStoredCoords_iff]
    exact and_congr_right fun _ => iff_of_true (Or.inl saved) (Or.inr saved)
  · intro empty
    rw [empty] at saved
    exact absurd rfl saved

theorem Synced.trans {first second third : State} (left : Synced first second)
    (right : Synced second third) : Synced first third where
  prefs := right.prefs.trans left.prefs
  established := right.established.trans left.established
  serviceChecked := right.serviceChecked.trans left.serviceChecked
  stored := right.stored.trans left.stored
  empty := fun empty => (right.empty (left.prefs.trans empty)).trans (left.empty empty)

theorem synced_refl (state : State) : Synced state state :=
  ⟨rfl, rfl, rfl, rfl, fun _ => rfl⟩

theorem synced_syncStoreCoords (state : State) : Synced state state.syncStoreCoords := by
  unfold State.syncStoreCoords
  dsimp only
  by_cases missing : state.prefs.latitude = 0 ∨ state.prefs.longitude = 0
  · rw [if_pos missing]
    exact synced_refl state
  · rw [if_neg missing]
    obtain ⟨savedLat, savedLng⟩ := not_or.mp missing
    have withLat : Synced state
        (if state.store.latitude = 0 then state.setLatitude state.prefs.latitude else state) := by
      split
      · exact synced_setLatitude savedLat
      · exact synced_refl state
    generalize (if state.store.latitude = 0 then state.setLatitude state.prefs.latitude
      else state) = middle at withLat ⊢
    split
    · refine withLat.trans ?_
      rw [← withLat.prefs] at savedLng ⊢
      exact synced_setLongitude savedLng
    · exact withLat

theorem hasStoredCoords_eq_false {state : State} (sound : Sound state)
    (none_yet : state.established = none) : state.hasStoredCoords = false := by
  have prefs : state.prefs = {} := by
    rw [sound.prefs, none_yet]
    rfl
  unfold State.hasStoredCoords State.coordsLat
  rw [sound.empty none_yet, prefs]
  rfl

/-! ### One step -/

theorem sound_establish {state : State} (fix : Fix) : Sound (state.establish fix) where
  prefs := rfl
  empty := fun none_yet => absurd none_yet (Option.some_ne_none fix)
  checked := fun _ => Option.some_ne_none fix

theorem sound_ensurePostJobLocation {state : State} (sound : Sound state) (gps : Option Fix) :
    Sound (state.ensurePostJobLocation gps) := by
  have synced := synced_syncStoreCoords state
  have prefs : state.syncStoreCoords.prefs = state.syncStoreCoords.established.getD {} := by
    rw [synced.prefs, synced.established]
    exact sound.prefs
  have empty : state.syncStoreCoords.established = none → state.syncStoreCoords.store = {} := by
    intro none_yet
    rw [synced.established] at none_yet
    have noPrefs := sound.prefs
    rw [none_yet] at noPrefs
    rw [synced.empty noPrefs]
    exact sound.empty none_yet
  unfold State.ensurePostJobLocation
  dsimp only
  cases stored : state.syncStoreCoords.hasStoredCoords with
  | true =>
      rw [if_pos rfl]
      refine ⟨prefs, empty, ?_⟩
      intro _ none_yet
      rw [synced.stored, hasStoredCoords_eq_false sound
        (synced.established.symm.trans none_yet)] at stored
      cases stored
  | false =>
      rw [if_neg Bool.false_ne_true]
      cases gps with
      | none =>
          refine ⟨prefs, empty, ?_⟩
          intro checked
          rw [synced.established]
          exact sound.checked (synced.serviceChecked.symm.trans checked)
      | some fix =>
          have fixed := @sound_establish state.syncStoreCoords fix
          exact ⟨fixed.prefs, fixed.empty, fun _ => Option.some_ne_none fix⟩

theorem next_sound (state : State) (action : Action) (sound : Sound state) :
    Sound (next state action) := by
  cases action with
  | addressLookup fix found =>
      cases found with
      | false => exact sound
      | true =>
          have some_fix : some fix ≠ none := Option.some_ne_none fix
          exact ⟨rfl, fun none_yet => absurd none_yet some_fix, fun _ => some_fix⟩
  | listPosition fix => exact sound_establish fix
  | coldStart =>
      exact ⟨sound.prefs, fun _ => rfl, fun impossible => absurd impossible Bool.false_ne_true⟩
  | logout => exact sound_start
  | checkValidation gps => exact sound_ensurePostJobLocation sound gps
  | submitService =>
      exact ⟨sound.prefs, sound.empty, fun impossible => absurd impossible Bool.false_ne_true⟩
  | createPostJobClick => exact ⟨sound.prefs, sound.empty, sound.checked⟩
  | savePostJob => exact ⟨sound.prefs, sound.empty, sound.checked⟩

theorem refused_iff {state : State} (accepted : Bool) :
    (∀ outcome ∈ (if accepted then [] else [Outcome.refused]), Right state outcome) ↔
      (accepted = true ∨ state.established = none) := by
  cases accepted with
  | true => exact iff_of_true (fun _ impossible => absurd impossible List.not_mem_nil) (Or.inl rfl)
  | false =>
      rw [if_neg Bool.false_ne_true, List.forall_mem_singleton]
      exact (or_iff_right Bool.false_ne_true).symm

theorem sent_iff {state : State} (ready : Bool) (pair : Fix) :
    (∀ outcome ∈ (if ready then [Outcome.sent pair] else []), Right state outcome) ↔
      (ready = true → state.established = some pair) := by
  cases ready with
  | true =>
      rw [if_pos rfl, List.forall_mem_singleton]
      exact ⟨fun right _ => right, fun right => right rfl⟩
  | false =>
      refine iff_of_true ?_ (fun impossible => absurd impossible Bool.false_ne_true)
      intro _ impossible
      exact absurd impossible List.not_mem_nil

theorem established_coords_iff {state : State} (sound : Sound state) {fix : Fix}
    (established : state.established = some fix) :
    some fix = some state.coords ↔
      Component state.store.latitude fix.latitude ∧
        Component state.store.longitude fix.longitude := by
  have prefs : state.prefs = fix := by
    rw [sound.prefs, established]
    rfl
  have merged : ∀ stored saved : ℚ,
      saved = (if stored ≠ 0 then stored else saved) ↔ Component stored saved := by
    intro stored saved
    unfold Component
    by_cases missing : stored = 0
    · rw [if_neg (not_not_intro missing)]
      exact iff_of_true rfl (Or.inl missing)
    · rw [if_pos missing, or_iff_right missing]
      exact eq_comm
  rw [← merged, ← merged, Option.some_inj]
  unfold State.coords State.coordsLat State.coordsLng
  rw [prefs]
  constructor
  · intro same
    exact ⟨congrArg Fix.latitude same, congrArg Fix.longitude same⟩
  · intro both
    cases fix
    exact congrArg₂ Fix.mk both.1 both.2

theorem rightStep_iff (state : State) (action : Action) (sound : Sound state) :
    RightStep state action ↔ CopiesAgree state action := by
  have nothing : (∀ outcome ∈ ([] : List Outcome), Right state outcome) ↔ True :=
    iff_of_true (fun _ impossible => absurd impossible List.not_mem_nil) trivial
  cases action with
  | addressLookup fix found => exact nothing
  | listPosition fix => exact nothing
  | coldStart => exact nothing
  | logout => exact nothing
  | checkValidation gps =>
      unfold RightStep CopiesAgree outputs
      dsimp only
      rw [refused_iff, (synced_syncStoreCoords state).stored, hasStoredCoords_iff, sound.prefs]
      cases state.established with
      | none => exact iff_of_true (Or.inr rfl) (fun _ impossible => by cases impossible)
      | some fix =>
          simp only [Option.getD_some, reduceCtorEq, or_false, Option.some.injEq, forall_eq']
  | submitService =>
      unfold RightStep CopiesAgree outputs
      dsimp only
      rw [sent_iff]
      apply imp_congr_right
      intro checked
      cases established : state.established with
      | none => exact absurd established (sound.checked checked)
      | some fix =>
          rw [established_coords_iff sound established]
          simp only [Option.some.injEq, forall_eq']
  | createPostJobClick =>
      unfold RightStep CopiesAgree outputs
      dsimp only
      rw [refused_iff, hasValidLocation_iff]
      cases state.established with
      | none => exact iff_of_true (Or.inr rfl) (fun _ impossible => by cases impossible)
      | some fix => simp only [reduceCtorEq, or_false, Option.some.injEq, forall_eq']
  | savePostJob =>
      unfold RightStep CopiesAgree outputs
      exact sent_iff _ _

/-- In every run from a fresh installation, what is sent is the latest established pair
and such a pair is never refused exactly when, at each check and each request, the copy
in memory allows it. -/
theorem postJobLocation_iff (actions : List Action) :
    machine.Every RightStep {} actions ↔ machine.Every CopiesAgree {} actions :=
  machine.every_congr Sound next_sound rightStep_iff sound_start

/-- A position that the list has read, and a map pick after it. -/
theorem mapPick_after_position :
    machine.trace {}
        [.listPosition { latitude := 60, longitude := 11 },
          .addressLookup { latitude := 58, longitude := 6 } true,
          .checkValidation none, .submitService] =
      [.sent { latitude := 60, longitude := 11 }] ∧
    ¬ ∀ actions, machine.Every RightStep {} actions := by
  constructor
  · decide +kernel
  · intro always
    have right := (always
      [.listPosition { latitude := 60, longitude := 11 },
        .addressLookup { latitude := 58, longitude := 6 } true,
        .checkValidation none, .submitService]).2.2.2.1
    have sent := right (.sent { latitude := 60, longitude := 11 }) (by decide +kernel)
    revert sent
    change ¬ (some _ = some _)
    decide +kernel

end FiksOpp.PostJobLocation
