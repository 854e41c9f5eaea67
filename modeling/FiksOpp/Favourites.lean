/-
The hearts: taps that put a service or a provider on the server's wish list or take it off.

A tap writes `isFavourite` before the request is answered, and writes it once more if the
request fails.  Nine widgets do so, and they do not agree on the values they write: the
same flag means a favourite in one and the opposite in another.
-/

import FiksOpp.Foundations.EventRun
import Mathlib.Data.Rat.Defs
import Mathlib.Tactic.NormNum

namespace FiksOpp.Favourites

open EventRun

/-- When a tap removes, when the heart is filled, and what is written to `isFavourite`. -/
structure Heart where
  removes : Option ℚ → Bool
  filled : Option ℚ → Bool
  onRemove : ℚ
  removeFailed : ℚ
  onAdd : ℚ
  addFailed : ℚ

/-- `isFavourite == 1` is a favourite. -/
def onTapFavourite : Heart where
  removes flag := flag = some 1
  filled flag := flag = some 1
  onRemove := 0
  removeFailed := 1
  onAdd := 1
  addFailed := 0

/-- `isFavourite == 0` is a favourite. -/
def providerServiceComponent : Heart where
  removes flag := flag = some 0
  filled flag := flag = some 0
  onRemove := 1
  removeFailed := 0
  onAdd := 0
  addFailed := 1

/-- The flags are written as where 0 is a favourite, the heart is filled where 1 is one. -/
def serviceDashboardComponent1 : Heart where
  removes flag := flag ≠ some 0
  filled flag := flag = some 1
  onRemove := 1
  removeFailed := 0
  onAdd := 0
  addFailed := 1

/-- A removal that fails writes what was written before it was asked for. -/
def serviceComponent : Heart where
  removes flag := flag ≠ some 0
  filled flag := flag = some 1
  onRemove := 1
  removeFailed := 1
  onAdd := 0
  addFailed := 1

inductive Widget where
  | serviceDetailHeaderComponent
  | favouriteProviderComponent
  | userInfoWidget
  | providerServiceComponent
  | serviceComponent
  | serviceDashboardComponent1
  | serviceDashboardComponent2
  | serviceDashboardComponent3
  | serviceDashboardComponent4
  deriving DecidableEq, Repr

def Widget.heart : Widget → Heart
  | .serviceDetailHeaderComponent => onTapFavourite
  | .favouriteProviderComponent => onTapFavourite
  | .userInfoWidget => onTapFavourite
  | .providerServiceComponent => Favourites.providerServiceComponent
  | .serviceComponent => Favourites.serviceComponent
  | .serviceDashboardComponent1 => Favourites.serviceDashboardComponent1
  | .serviceDashboardComponent2 => Favourites.serviceDashboardComponent1
  | .serviceDashboardComponent3 => Favourites.serviceDashboardComponent1
  | .serviceDashboardComponent4 => Favourites.serviceComponent

/-- A request in flight; once the server has served it, whether it reports success. -/
structure Request where
  removes : Bool
  reported : Option Bool
  deriving DecidableEq, Repr

structure State where
  isFavourite : Option ℚ
  /-- Whether the record is on the server's wish list. -/
  listed : Bool
  inFlight : List Request
  deriving DecidableEq, Repr

inductive Event where
  | tap
  /-- Requests are served in any order, and a request that was applied may be reported
  as failed. -/
  | serve (index : ℕ) (applied reported : Bool)
  | answer (index : ℕ)
  deriving DecidableEq, Repr

namespace Heart

variable (heart : Heart)

def written (removes : Bool) : ℚ :=
  if removes then heart.onRemove else heart.onAdd

def writtenBack (removes : Bool) : ℚ :=
  if removes then heart.removeFailed else heart.addFailed

def next (state : State) : Event → State
  | .tap =>
      { state with
        isFavourite := some (heart.written (heart.removes state.isFavourite))
        inFlight := state.inFlight ++
          [{ removes := heart.removes state.isFavourite, reported := none }] }
  | .serve index applied reported =>
      match state.inFlight[index]? with
      | some { removes := removes, reported := none } =>
          { state with
            listed := if applied then !removes else state.listed
            inFlight := state.inFlight.set index
              { removes := removes, reported := some reported } }
      | _ => state
  | .answer index =>
      match state.inFlight[index]? with
      | some { removes := removes, reported := some reported } =>
          { state with
            isFavourite :=
              if reported then state.isFavourite else some (heart.writtenBack removes)
            inFlight := state.inFlight.eraseIdx index }
      | _ => state

def machine : Machine State Event Unit where
  next := heart.next
  outputs _ _ := []

def loaded (isFavourite : Option ℚ) : State :=
  { isFavourite := isFavourite, listed := heart.filled isFavourite, inFlight := [] }

def Agrees (state : State) : Prop :=
  heart.filled state.isFavourite = state.listed

end Heart

/-- The heart is tapped with nothing in flight, and reports are true. -/
def OneAtATime (state : State) : Event → Prop
  | .tap => state.inFlight = []
  | .serve _ applied reported => reported = applied
  | .answer _ => True

/-- Requests are applied in the order of the taps, and all succeed. -/
def InOrder (state : State) : Event → Prop
  | .tap => True
  | .serve index applied reported =>
      applied = true ∧ reported = true ∧
        ∀ request ∈ state.inFlight.take index, request.reported ≠ none
  | .answer _ => True

instance (state : State) : ∀ event, Decidable (InOrder state event)
  | .tap => .isTrue trivial
  | .serve index applied reported =>
      inferInstanceAs (Decidable (applied = true ∧ reported = true ∧
        ∀ request ∈ state.inFlight.take index, request.reported ≠ none))
  | .answer _ => .isTrue trivial

namespace Heart

variable (heart : Heart)

/-- With one request at a time, the heart shows what the server has whenever nothing is in
flight. -/
def KeepsAgreement : Prop :=
  ∀ isFavourite events,
    heart.machine.Every OneAtATime (heart.loaded isFavourite) events →
      (heart.machine.run (heart.loaded isFavourite) events).inFlight = [] →
        heart.Agrees (heart.machine.run (heart.loaded isFavourite) events)

/-- What is written empties the heart on a removal and fills it on an addition, and what is
written back shows what was shown before. -/
def Sound : Prop :=
  ∀ flag, heart.filled (some (heart.written (heart.removes flag))) = !heart.removes flag ∧
    heart.filled (some (heart.writtenBack (heart.removes flag))) = heart.filled flag

variable {heart}

/-! ### One request at a time -/

/-- While a request is in flight, the heart shows its outcome and the server what it was
before, or what the request made of it. -/
def Settled (heart : Heart) (state : State) : Prop :=
  match state.inFlight with
  | [] => heart.Agrees state
  | [request] =>
      heart.filled state.isFavourite = !request.removes ∧
        match request.reported with
        | some true => state.listed = !request.removes
        | _ => heart.filled (some (heart.writtenBack request.removes)) = state.listed
  | _ => False

theorem settled_next (sound : heart.Sound) {state : State} (settled : heart.Settled state)
    {event : Event} (alone : OneAtATime state event) : heart.Settled (heart.next state event) := by
  obtain ⟨flag, listed, inFlight⟩ := state
  cases event with
  | tap =>
      change inFlight = [] at alone
      subst alone
      obtain ⟨shown, back⟩ := sound flag
      exact ⟨shown, back.trans settled⟩
  | serve index applied reported =>
      change reported = applied at alone
      subst alone
      match inFlight, settled with
      | [], settled => exact settled
      | [request], settled =>
          obtain ⟨removes, before⟩ := request
          cases index with
          | succ index => exact settled
          | zero =>
              cases before with
              | some _ => exact settled
              | none =>
                  cases reported with
                  | false => exact settled
                  | true => exact ⟨settled.1, rfl⟩
  | answer index =>
      match inFlight, settled with
      | [], settled => exact settled
      | [request], settled =>
          obtain ⟨removes, before⟩ := request
          cases index with
          | succ index => exact settled
          | zero =>
              cases before with
              | none => exact settled
              | some reported =>
                  cases reported with
                  | false => exact settled.2
                  | true => exact settled.1.trans settled.2.symm

theorem keepsAgreement_of_sound (sound : heart.Sound) : heart.KeepsAgreement := by
  intro flag events alone quiet
  have settled : heart.Settled (heart.machine.run (heart.loaded flag) events) :=
    Machine.invariant_run heart.Settled
      (fun state event settled alone => settled_next sound settled alone) rfl alone
  unfold Settled at settled
  rw [quiet] at settled
  exact settled

def answeredTap (succeeds : Bool) : List Event :=
  [.tap, .serve 0 succeeds succeeds, .answer 0]

theorem answeredTap_alone (flag : Option ℚ) (succeeds : Bool) :
    heart.machine.Every OneAtATime (heart.loaded flag) (answeredTap succeeds) :=
  ⟨rfl, rfl, trivial, trivial⟩

theorem keepsAgreement_iff_sound : heart.KeepsAgreement ↔ heart.Sound := by
  constructor
  · intro keeps flag
    have added := keeps flag (answeredTap true) (answeredTap_alone flag true) rfl
    have failed := keeps flag (answeredTap false) (answeredTap_alone flag false) rfl
    exact ⟨added, failed⟩
  · exact keepsAgreement_of_sound

def unserved (requests : List Request) : List Request :=
  requests.filter fun request => request.reported.isNone

theorem unserved_append (first second : List Request) :
    unserved (first ++ second) = unserved first ++ unserved second :=
  List.filter_append ..

theorem unserved_eq_nil {requests : List Request}
    (served : ∀ request ∈ requests, request.reported ≠ none) : unserved requests = [] := by
  unfold unserved
  rw [List.filter_eq_nil_iff]
  intro request member isNone
  exact served request member (Option.isNone_iff_eq_none.mp isNone)

theorem split_at {requests : List Request} {index : ℕ} {request : Request}
    (here : requests[index]? = some request) :
    requests = requests.take index ++ request :: requests.drop (index + 1) := by
  obtain ⟨inside, same⟩ := List.getElem?_eq_some_iff.mp here
  rw [← same, List.getElem_cons_drop, List.take_append_drop]

theorem unserved_set {requests : List Request} {index : ℕ} {removes : Bool}
    (here : requests[index]? = some { removes := removes, reported := none })
    (earlier : ∀ request ∈ requests.take index, request.reported ≠ none) (reported : Bool) :
    unserved requests = { removes := removes, reported := none } ::
      unserved (requests.set index { removes := removes, reported := some reported }) := by
  obtain ⟨inside, _⟩ := List.getElem?_eq_some_iff.mp here
  have rest : unserved (requests.set index { removes := removes, reported := some reported }) =
      unserved (requests.drop (index + 1)) := by
    rw [List.set_eq_take_append_cons_drop, if_pos inside, unserved_append, unserved_eq_nil earlier]
    rfl
  have whole := congrArg unserved (split_at here)
  rw [unserved_append, unserved_eq_nil earlier] at whole
  rw [rest, whole]
  rfl

theorem unserved_eraseIdx {requests : List Request} {index : ℕ} {removes reported : Bool}
    (here : requests[index]? = some { removes := removes, reported := some reported }) :
    unserved (requests.eraseIdx index) = unserved requests := by
  have whole := congrArg unserved (split_at here)
  rw [unserved_append] at whole
  rw [List.eraseIdx_eq_take_drop_succ, unserved_append, whole]
  rfl

/-- The heart shows what the last unserved request asks for; without one, what the server
has.  Nothing has failed. -/
structure Ahead (heart : Heart) (state : State) : Prop where
  nothingFailed : ∀ request ∈ state.inFlight, request.reported ≠ some false
  shown : heart.filled state.isFavourite =
    match (unserved state.inFlight).getLast? with
    | none => state.listed
    | some request => !request.removes

theorem ahead_loaded (flag : Option ℚ) : heart.Ahead (heart.loaded flag) where
  nothingFailed _ member := absurd member List.not_mem_nil
  shown := rfl

theorem ahead_next (sound : heart.Sound) {state : State} (ahead : heart.Ahead state)
    {event : Event} (inOrder : InOrder state event) : heart.Ahead (heart.next state event) := by
  obtain ⟨flag, listed, inFlight⟩ := state
  obtain ⟨nothingFailed, shown⟩ := ahead
  dsimp only at nothingFailed shown
  cases event with
  | tap =>
      constructor
      · intro request member
        rcases List.mem_append.mp member with before | new
        · exact nothingFailed request before
        · rw [List.mem_singleton.mp new]
          exact fun impossible => nomatch impossible
      · change heart.filled (some (heart.written (heart.removes flag))) = _
        rw [(sound flag).1]
        change _ = match (unserved (inFlight ++ [_])).getLast? with
          | none => listed
          | some request => !request.removes
        rw [unserved_append, List.getLast?_append]
        rfl
  | serve index applied reported =>
      obtain ⟨rfl, rfl, earlier⟩ := inOrder
      unfold Heart.next
      dsimp only at earlier ⊢
      split
      · rename_i removes here
        have first := unserved_set here earlier true
        constructor
        · intro request member
          rcases List.mem_or_eq_of_mem_set member with before | new
          · exact nothingFailed request before
          · rw [new]
            exact fun impossible => nomatch impossible
        · dsimp only
          rw [shown, first, List.getLast?_cons]
          cases last : (unserved (inFlight.set index
              { removes := removes, reported := some true })).getLast? with
          | none => rfl
          | some request => rfl
      · exact ⟨nothingFailed, shown⟩
  | answer index =>
      unfold Heart.next
      dsimp only
      split
      · rename_i removes reported here
        have success : reported = true := by
          cases reported with
          | true => rfl
          | false => exact absurd rfl (nothingFailed _ (List.mem_of_getElem? here))
        subst success
        constructor
        · intro request member
          exact nothingFailed request (List.mem_of_mem_eraseIdx member)
        · dsimp only
          rw [unserved_eraseIdx here]
          exact shown
      · exact ⟨nothingFailed, shown⟩

/-- However taps and answers overlap, a heart that keeps agreement with one request at a time
shows what the server has as soon as all requests are served, if they are applied in the order
of the taps and none fails. -/
theorem agrees_of_inOrder (heart : Heart) (keeps : heart.KeepsAgreement) (flag : Option ℚ)
    (events : List Event) (inOrder : heart.machine.Every InOrder (heart.loaded flag) events)
    (served : ∀ request ∈ (heart.machine.run (heart.loaded flag) events).inFlight,
      request.reported ≠ none) :
    heart.Agrees (heart.machine.run (heart.loaded flag) events) := by
  have sound := keepsAgreement_iff_sound.mp keeps
  have ahead : heart.Ahead (heart.machine.run (heart.loaded flag) events) :=
    Machine.invariant_run heart.Ahead
      (fun state event ahead inOrder => ahead_next sound ahead inOrder) (ahead_loaded flag) inOrder
  have shown := ahead.shown
  rw [unserved_eq_nil served] at shown
  exact shown

end Heart

theorem sound_onTapFavourite : onTapFavourite.Sound := by
  intro flag
  by_cases favourite : flag = some 1
  · subst favourite
    decide
  · have removes : onTapFavourite.removes flag = false := decide_eq_false favourite
    have filled : onTapFavourite.filled flag = false := decide_eq_false favourite
    rw [removes, filled]
    decide

theorem sound_providerServiceComponent : providerServiceComponent.Sound := by
  intro flag
  by_cases favourite : flag = some 0
  · subst favourite
    decide
  · have removes : providerServiceComponent.removes flag = false := decide_eq_false favourite
    have filled : providerServiceComponent.filled flag = false := decide_eq_false favourite
    rw [removes, filled]
    decide

theorem not_sound_of_filled {heart : Heart} (removes : heart.removes (some 1) = true)
    (filled : heart.filled (some heart.onRemove) = true) : ¬ heart.Sound := by
  intro sound
  have emptied := (sound (some 1)).1
  rw [removes] at emptied
  change heart.filled (some heart.onRemove) = false at emptied
  rw [filled] at emptied
  cases emptied

/-- With one request at a time, four of the nine hearts show what the server has whenever
nothing is in flight, from every flag they are loaded with; the five of the service cards
do not. -/
theorem keepsAgreement_iff (widget : Widget) :
    widget.heart.KeepsAgreement ↔
      widget ∈ [Widget.serviceDetailHeaderComponent, .favouriteProviderComponent,
        .userInfoWidget, .providerServiceComponent] := by
  rw [Heart.keepsAgreement_iff_sound]
  cases widget with
  | serviceDetailHeaderComponent => exact iff_of_true sound_onTapFavourite (by decide)
  | favouriteProviderComponent => exact iff_of_true sound_onTapFavourite (by decide)
  | userInfoWidget => exact iff_of_true sound_onTapFavourite (by decide)
  | providerServiceComponent => exact iff_of_true sound_providerServiceComponent (by decide)
  | serviceComponent => exact iff_of_false (not_sound_of_filled rfl rfl) (by decide)
  | serviceDashboardComponent1 => exact iff_of_false (not_sound_of_filled rfl rfl) (by decide)
  | serviceDashboardComponent2 => exact iff_of_false (not_sound_of_filled rfl rfl) (by decide)
  | serviceDashboardComponent3 => exact iff_of_false (not_sound_of_filled rfl rfl) (by decide)
  | serviceDashboardComponent4 => exact iff_of_false (not_sound_of_filled rfl rfl) (by decide)

/-- Two quick taps that are served in order before either is answered. -/
theorem two_quick_taps_agree :
    onTapFavourite.Agrees (onTapFavourite.machine.run (onTapFavourite.loaded (some 0))
      [.tap, .tap, .serve 0 true true, .serve 1 true true, .answer 1, .answer 0]) :=
  Heart.agrees_of_inOrder onTapFavourite (Heart.keepsAgreement_of_sound sound_onTapFavourite)
    (some 0) [.tap, .tap, .serve 0 true true, .serve 1 true true, .answer 1, .answer 0]
    (by decide) (by decide)

end FiksOpp.Favourites
