/-
Password reset links on their way to the screen.

A link comes through the subscription, and the one that started the app also through
the stored initial link.  Its push waits for a frame and then 400 ms; the splash screen,
when it ends, replaces the whole stack.
-/

import FiksOpp.Constants
import FiksOpp.Foundations.EventRun
import Mathlib.Data.List.Infix

namespace FiksOpp.DeepLinks

open EventRun

structure Uri where
  path : String
  /-- Decoded; of a repeated name the last value. -/
  queryParameters : List (String × String)
  deriving DecidableEq, Repr

def Uri.parameter (uri : Uri) (name : String) : Option String :=
  uri.queryParameters.lookup name

def contains (text part : String) : Bool :=
  decide (part.toList <:+: text.toList)

def isPasswordResetLink (uri : Uri) : Bool :=
  let path := uri.path.toLower
  if contains path "reset-password" || contains path "password/reset" ||
      contains path "forgot-password" then
    true
  else
    (uri.parameter "token").isSome || (uri.parameter "reset_token").isSome

def tokenOf (uri : Uri) : String :=
  (((uri.parameter "token").map trim).or ((uri.parameter "reset_token").map trim)).getD ""

structure ResetPush where
  token : String
  email : Option String
  deriving DecidableEq, Repr

def pushFor (uri : Uri) : Option ResetPush :=
  if isPasswordResetLink uri && !(tokenOf uri).isEmpty then
    some { token := tokenOf uri, email := (uri.parameter "email").map trim }
  else
    none

inductive Route where
  | splashScreen
  | maintenanceModeScreen
  | walkThroughScreen
  | dashboardScreen (initialTabIndex : ℕ)
  | setPasswordFromResetScreen (resetToken : String) (prefilledEmail : Option String)
  deriving DecidableEq, Repr

inductive Phase where
  | starting
  | splash
  | done
  deriving DecidableEq, Repr

structure State where
  initialUri : Option Uri
  uriStream : List Uri
  frameCallbacks : List ResetPush := []
  timers : List ResetPush := []
  /-- The top of the stack comes first; there is none before the app is mounted. -/
  navigator : Option (List Route) := none
  phase : Phase := .starting

/-- The stream delivers the link of a cold start as well. -/
def start (initialUri : Option Uri) : State :=
  { initialUri := initialUri, uriStream := initialUri.toList }

def handleUri (state : State) (uri : Uri) : State :=
  match pushFor uri with
  | none => state
  | some push => { state with frameCallbacks := state.frameCallbacks ++ [push] }

def push (state : State) (reset : ResetPush) : State :=
  match state.navigator with
  | none => state
  | some stack =>
      { state with
        navigator := some (.setPasswordFromResetScreen reset.token reset.email :: stack) }

def consumeInitialUriIfAny (state : State) : State :=
  let uri := state.initialUri
  let state := { state with initialUri := none }
  match uri with
  | none => state
  | some uri => handleUri state uri

def destination (maintenanceModeStatus isFirstTime : Bool) : Route :=
  if maintenanceModeStatus then .maintenanceModeScreen
  else if isFirstTime then .walkThroughScreen
  else .dashboardScreen 0

def navigateFromSplashAfterConfig (state : State) (maintenanceModeStatus isFirstTime : Bool) :
    State :=
  if state.phase = .splash then
    consumeInitialUriIfAny
      { state with
        navigator := state.navigator.map fun _ => [destination maintenanceModeStatus isFirstTime]
        phase := .done }
  else
    state

inductive Event where
  | runApp
  | incoming (uri : Uri)
  /-- The stream hands its next link to the subscription. -/
  | deliver
  | frame
  /-- The oldest delay of 400 ms is over. -/
  | elapse
  | leaveSplash (maintenanceModeStatus isFirstTime : Bool)

def next (state : State) : Event → State
  | .runApp =>
      if state.phase = .starting then
        { state with navigator := some [.splashScreen], phase := .splash }
      else
        state
  | .incoming uri => { state with uriStream := state.uriStream ++ [uri] }
  | .deliver =>
      if state.phase = .starting then
        state
      else
        match state.uriStream with
        | [] => state
        | uri :: rest => handleUri { state with uriStream := rest } uri
  | .frame =>
      { state with frameCallbacks := [], timers := state.timers ++ state.frameCallbacks }
  | .elapse =>
      match state.timers with
      | [] => state
      | reset :: rest => push { state with timers := rest } reset
  | .leaveSplash maintenanceModeStatus isFirstTime =>
      navigateFromSplashAfterConfig state maintenanceModeStatus isFirstTime

def machine : Machine State Event Unit where
  next := next
  outputs := fun _ _ => []

def Route.resetToken : Route → Option String
  | .setPasswordFromResetScreen resetToken _ => some resetToken
  | _ => none

def resetTokens (state : State) : List String :=
  (state.navigator.getD []).filterMap Route.resetToken

def validToken (uri : Uri) : Option String :=
  (pushFor uri).map ResetPush.token

def Event.link : Event → Option Uri
  | .incoming uri => some uri
  | _ => none

def links (initialUri : Option Uri) (events : List Event) : List Uri :=
  initialUri.toList ++ events.filterMap Event.link

/-- The splash screen is over, and no link and no push is on its way. -/
structure Settled (state : State) : Prop where
  done : state.phase = .done
  delivered : state.uriStream = []
  framed : state.frameCallbacks = []
  elapsed : state.timers = []

def EachLinkOnce (initialUri : Option Uri) (events : List Event) (state : State) : Prop :=
  ∀ token, (resetTokens state).count token =
    ((links initialUri events).filterMap validToken).count token

/-- The splash screen throws away the screen of the initial link, which it pushes again,
and no other. -/
def DropsOnlyInitial (state : State) : Event → Prop
  | .leaveSplash _ _ =>
      state.phase = .splash → resetTokens state = state.initialUri.toList.filterMap validToken
  | _ => True

/-! ### Where a token is -/

def held (token : String) (state : State) : ℕ :=
  (resetTokens state).count token +
    ((state.timers ++ state.frameCallbacks).map ResetPush.token).count token +
    (state.uriStream.filterMap validToken).count token

def gain (token : String) (event : Event) : ℕ :=
  (event.link.toList.filterMap validToken).count token

/-- Before the app is mounted nothing is pushed, and afterwards there is a navigator. -/
structure Sound (state : State) : Prop where
  unmounted : state.phase = .starting →
    state.navigator = none ∧ state.timers = [] ∧ state.frameCallbacks = []
  mounted : state.phase ≠ .starting → state.navigator.isSome

theorem sound_start (initialUri : Option Uri) : Sound (start initialUri) where
  unmounted := fun _ => ⟨rfl, rfl, rfl⟩
  mounted := fun different => absurd rfl different

theorem handleUri_of_none {uri : Uri} (state : State) (nothing : pushFor uri = none) :
    handleUri state uri = state := by
  unfold handleUri
  rw [nothing]

theorem handleUri_of_some {uri : Uri} {reset : ResetPush} (state : State)
    (valid : pushFor uri = some reset) :
    handleUri state uri =
      { state with frameCallbacks := state.frameCallbacks ++ [reset] } := by
  unfold handleUri
  rw [valid]

theorem handleUri_keeps (state : State) (uri : Uri) :
    (handleUri state uri).phase = state.phase ∧
      (handleUri state uri).navigator = state.navigator := by
  cases valid : pushFor uri with
  | none =>
      rw [handleUri_of_none state valid]
      exact ⟨rfl, rfl⟩
  | some reset =>
      rw [handleUri_of_some state valid]
      exact ⟨rfl, rfl⟩

theorem held_handleUri (token : String) (state : State) (uri : Uri) :
    held token (handleUri state uri) =
      held token state + ([uri].filterMap validToken).count token := by
  cases valid : pushFor uri with
  | none =>
      have nothing : validToken uri = none := by
        unfold validToken
        rw [valid]
        rfl
      rw [handleUri_of_none state valid, List.filterMap_cons_none nothing]
      rfl
  | some reset =>
      have carried : validToken uri = some reset.token := by
        unfold validToken
        rw [valid]
        rfl
      rw [handleUri_of_some state valid, List.filterMap_cons_some carried]
      unfold held
      simp only [List.map_append, List.count_append, List.map_cons, List.map_nil,
        List.filterMap_nil]
      change (resetTokens state).count token + _ + _ = _
      omega

theorem push_of_some (state : State) {stack : List Route} (reset : ResetPush)
    (ready : state.navigator = some stack) :
    push state reset =
      { state with
        navigator := some (.setPasswordFromResetScreen reset.token reset.email :: stack) } := by
  unfold push
  rw [ready]

theorem resetTokens_of_some {state : State} {stack : List Route}
    (ready : state.navigator = some stack) :
    resetTokens state = stack.filterMap Route.resetToken := by
  unfold resetTokens
  rw [ready]
  rfl

theorem count_push (token : String) (state : State) (reset : ResetPush)
    (ready : state.navigator.isSome) :
    (resetTokens (push state reset)).count token =
      (resetTokens state).count token + [reset.token].count token := by
  obtain ⟨stack, present⟩ := Option.isSome_iff_exists.mp ready
  rw [push_of_some state reset present, resetTokens_of_some present, Nat.add_comm,
    ← List.count_append]
  rfl

theorem consumeInitialUriIfAny_keeps (state : State) :
    (consumeInitialUriIfAny state).phase = state.phase ∧
      (consumeInitialUriIfAny state).navigator = state.navigator := by
  unfold consumeInitialUriIfAny
  dsimp only
  cases state.initialUri with
  | none => exact ⟨rfl, rfl⟩
  | some uri => exact handleUri_keeps _ uri

theorem held_consumeInitialUriIfAny (token : String) (state : State) :
    held token (consumeInitialUriIfAny state) =
      held token state + (state.initialUri.toList.filterMap validToken).count token := by
  unfold consumeInitialUriIfAny
  dsimp only
  cases state.initialUri with
  | none => rfl
  | some uri => exact held_handleUri token { state with initialUri := none } uri

theorem navigate_of_splash {state : State} {stack : List Route} (here : state.phase = .splash)
    (present : state.navigator = some stack) (maintenanceModeStatus isFirstTime : Bool) :
    navigateFromSplashAfterConfig state maintenanceModeStatus isFirstTime =
      consumeInitialUriIfAny
        { state with
          navigator := some [destination maintenanceModeStatus isFirstTime], phase := .done } := by
  unfold navigateFromSplashAfterConfig
  rw [if_pos here, present]
  rfl

theorem navigate_of_away {state : State} (away : state.phase ≠ .splash)
    (maintenanceModeStatus isFirstTime : Bool) :
    navigateFromSplashAfterConfig state maintenanceModeStatus isFirstTime = state := by
  unfold navigateFromSplashAfterConfig
  rw [if_neg away]

theorem runApp_of_starting {state : State} (here : state.phase = .starting) :
    next state .runApp =
      { state with navigator := some [.splashScreen], phase := .splash } := by
  unfold next
  dsimp only
  rw [if_pos here]

theorem runApp_of_away {state : State} (away : state.phase ≠ .starting) :
    next state .runApp = state := by
  unfold next
  dsimp only
  rw [if_neg away]

theorem deliver_of_starting {state : State} (here : state.phase = .starting) :
    next state .deliver = state := by
  unfold next
  dsimp only
  rw [if_pos here]

theorem deliver_of_nil {state : State} (empty : state.uriStream = []) :
    next state .deliver = state := by
  unfold next
  dsimp only
  rw [empty]
  exact ite_self state

theorem deliver_of_cons {state : State} (away : state.phase ≠ .starting) {uri : Uri}
    {rest : List Uri} (more : state.uriStream = uri :: rest) :
    next state .deliver = handleUri { state with uriStream := rest } uri := by
  unfold next
  dsimp only
  rw [if_neg away, more]

theorem elapse_of_nil {state : State} (empty : state.timers = []) :
    next state .elapse = state := by
  unfold next
  dsimp only
  rw [empty]

theorem elapse_of_cons {state : State} {reset : ResetPush} {rest : List ResetPush}
    (more : state.timers = reset :: rest) :
    next state .elapse = push { state with timers := rest } reset := by
  unfold next
  dsimp only
  rw [more]

theorem sound_of_mounted {state after : State} (away : state.phase ≠ .starting)
    (phase : after.phase = state.phase) (ready : after.navigator.isSome) : Sound after where
  unmounted := fun here => absurd (phase.symm.trans here) away
  mounted := fun _ => ready

def Leaves (state : State) : Event → Prop
  | .leaveSplash _ _ => state.phase = .splash
  | _ => False

/-- What every other step does: it keeps to the phase once it is past the first, and a
token is where it was or has just come in. -/
theorem next_of_stays {state : State} {event : Event} (sound : Sound state)
    (stays : ¬ Leaves state event) :
    Sound (next state event) ∧
      ((next state event).phase = .done ↔ state.phase = .done) ∧
      ∀ token, held token (next state event) = held token state + gain token event := by
  cases event with
  | runApp =>
      by_cases here : state.phase = .starting
      · obtain ⟨absent, _⟩ := sound.unmounted here
        have before : resetTokens state = [] := by
          unfold resetTokens
          rw [absent]
          rfl
        rw [runApp_of_starting here]
        refine ⟨⟨(fun impossible => nomatch impossible), fun _ => rfl⟩, ?_, ?_⟩
        · rw [here]
          exact iff_of_false (fun impossible => nomatch impossible)
            (fun impossible => nomatch impossible)
        · intro token
          unfold held
          rw [before]
          rfl
      · rw [runApp_of_away here]
        exact ⟨sound, Iff.rfl, fun _ => rfl⟩
  | incoming uri =>
      refine ⟨⟨sound.unmounted, sound.mounted⟩, Iff.rfl, ?_⟩
      intro token
      unfold held
      change _ + _ + ((state.uriStream ++ [uri]).filterMap validToken).count token = _
      rw [List.filterMap_append, List.count_append]
      exact (Nat.add_assoc _ _ _).symm
  | deliver =>
      by_cases here : state.phase = .starting
      · rw [deliver_of_starting here]
        exact ⟨sound, Iff.rfl, fun _ => rfl⟩
      · cases queue : state.uriStream with
        | nil =>
            rw [deliver_of_nil queue]
            exact ⟨sound, Iff.rfl, fun _ => rfl⟩
        | cons uri rest =>
            obtain ⟨phase, navigator⟩ := handleUri_keeps { state with uriStream := rest } uri
            rw [deliver_of_cons here queue]
            refine ⟨sound_of_mounted here phase ?_, ?_, ?_⟩
            · rw [navigator]
              exact sound.mounted here
            · rw [phase]
            · intro token
              have split : (state.uriStream.filterMap validToken).count token =
                  ([uri].filterMap validToken).count token +
                    (rest.filterMap validToken).count token := by
                rw [queue, ← List.count_append, ← List.filterMap_append]
                rfl
              rw [held_handleUri]
              unfold held
              rw [split]
              change (resetTokens state).count token +
                ((state.timers ++ state.frameCallbacks).map ResetPush.token).count token +
                (rest.filterMap validToken).count token + _ = _ + _ + _ + 0
              omega
  | frame =>
      refine ⟨⟨?_, sound.mounted⟩, Iff.rfl, ?_⟩
      · intro here
        obtain ⟨absent, timers, callbacks⟩ := sound.unmounted here
        refine ⟨absent, ?_, rfl⟩
        change state.timers ++ state.frameCallbacks = []
        rw [timers, callbacks]
        rfl
      · intro token
        unfold held
        change _ + (((state.timers ++ state.frameCallbacks) ++ []).map _).count token + _ = _
        rw [List.append_nil]
        rfl
  | elapse =>
      cases timers : state.timers with
      | nil =>
          rw [elapse_of_nil timers]
          exact ⟨sound, Iff.rfl, fun _ => rfl⟩
      | cons reset rest =>
          have here : state.phase ≠ .starting := by
            intro unmounted
            obtain ⟨_, none, _⟩ := sound.unmounted unmounted
            rw [timers] at none
            cases none
          have ready := sound.mounted here
          obtain ⟨stack, present⟩ := Option.isSome_iff_exists.mp ready
          have pushes := push_of_some { state with timers := rest } reset present
          rw [elapse_of_cons timers]
          refine ⟨?_, ?_, ?_⟩
          · rw [pushes]
            exact sound_of_mounted here rfl rfl
          · rw [pushes]
          · intro token
            have pushed := count_push token { state with timers := rest } reset ready
            have split : ((state.timers ++ state.frameCallbacks).map ResetPush.token).count token =
                [reset.token].count token +
                  ((rest ++ state.frameCallbacks).map ResetPush.token).count token := by
              rw [timers, ← List.count_append]
              rfl
            unfold held
            rw [pushed, split, pushes]
            change (resetTokens state).count token + _ +
              ((rest ++ state.frameCallbacks).map ResetPush.token).count token +
              (state.uriStream.filterMap validToken).count token = _ + _ + _ + 0
            omega
  | leaveSplash maintenanceModeStatus isFirstTime =>
      have same := navigate_of_away stays maintenanceModeStatus isFirstTime
      change Sound (navigateFromSplashAfterConfig _ _ _) ∧
        ((navigateFromSplashAfterConfig _ _ _).phase = _ ↔ _) ∧
        ∀ token, held token (navigateFromSplashAfterConfig _ _ _) = _
      rw [same]
      exact ⟨sound, Iff.rfl, fun _ => rfl⟩

theorem resetToken_destination (maintenanceModeStatus isFirstTime : Bool) :
    (destination maintenanceModeStatus isFirstTime).resetToken = none := by
  cases maintenanceModeStatus with
  | true => rfl
  | false => cases isFirstTime <;> rfl

/-- The splash screen takes the screens on the stack with it and sends its own link off. -/
theorem navigate_leaves {state : State} (sound : Sound state) (here : state.phase = .splash)
    (maintenanceModeStatus isFirstTime : Bool) :
    Sound (navigateFromSplashAfterConfig state maintenanceModeStatus isFirstTime) ∧
      (navigateFromSplashAfterConfig state maintenanceModeStatus isFirstTime).phase = .done ∧
      ∀ token,
        held token (navigateFromSplashAfterConfig state maintenanceModeStatus isFirstTime) +
            (resetTokens state).count token =
          held token state + (state.initialUri.toList.filterMap validToken).count token := by
  have ready := sound.mounted (by rw [here]; decide)
  obtain ⟨stack, present⟩ := Option.isSome_iff_exists.mp ready
  rw [navigate_of_splash here present]
  obtain ⟨phase, navigator⟩ := consumeInitialUriIfAny_keeps
    { state with
      navigator := some [destination maintenanceModeStatus isFirstTime], phase := .done }
  refine ⟨⟨?_, ?_⟩, phase, ?_⟩
  · intro unmounted
    cases phase.symm.trans unmounted
  · intro _
    rw [navigator]
    rfl
  · intro token
    have cleared : resetTokens
        { state with
          navigator := some [destination maintenanceModeStatus isFirstTime], phase := .done } =
        [] :=
      List.filterMap_cons_none (resetToken_destination _ _)
    rw [held_consumeInitialUriIfAny]
    unfold held
    rw [cleared, List.count_nil]
    dsimp only
    omega

theorem leaves_next {state : State} {event : Event} (sound : Sound state)
    (leaves : Leaves state event) :
    Sound (next state event) ∧ (next state event).phase = .done ∧
      ∀ token, held token (next state event) + (resetTokens state).count token =
        held token state + gain token event +
          (state.initialUri.toList.filterMap validToken).count token := by
  cases event with
  | leaveSplash maintenanceModeStatus isFirstTime =>
      exact navigate_leaves sound leaves maintenanceModeStatus isFirstTime
  | _ => exact leaves.elim

/-! ### Whole runs -/

theorem not_leaves_of_done {state : State} (done : state.phase = .done) (event : Event) :
    ¬ Leaves state event := by
  intro leaves
  cases event with
  | leaveSplash maintenanceModeStatus isFirstTime => cases done.symm.trans leaves
  | _ => exact leaves

theorem dropsOnlyInitial_iff (state : State) (event : Event) :
    DropsOnlyInitial state event ↔
      (Leaves state event →
        resetTokens state = state.initialUri.toList.filterMap validToken) := by
  cases event with
  | leaveSplash maintenanceModeStatus isFirstTime => exact Iff.rfl
  | _ => exact iff_of_true trivial False.elim

theorem every_of_done {state : State} (sound : Sound state) (done : state.phase = .done)
    (events : List Event) : machine.Every DropsOnlyInitial state events := by
  induction events generalizing state with
  | nil => trivial
  | cons event rest ih =>
      have stays := not_leaves_of_done done event
      obtain ⟨soundly, phase, _⟩ := next_of_stays sound stays
      refine ⟨(dropsOnlyInitial_iff state event).mpr fun leaves => absurd leaves stays, ?_⟩
      exact ih soundly (phase.mpr done)

theorem held_run_of_done {state : State} (sound : Sound state) (done : state.phase = .done)
    (events : List Event) (token : String) :
    held token (machine.run state events) =
      held token state + (events.map (gain token)).sum := by
  refine machine.weight_run (fun state => Sound state ∧ state.phase = .done) (held token)
    (gain token) ?_ ?_ ⟨sound, done⟩
  · intro state event both
    obtain ⟨soundly, phase, _⟩ := next_of_stays both.1 (not_leaves_of_done both.2 event)
    exact ⟨soundly, phase.mpr both.2⟩
  · intro state event both
    obtain ⟨_, _, counts⟩ := next_of_stays both.1 (not_leaves_of_done both.2 event)
    exact counts token

theorem held_of_settled {state : State} (settled : Settled state) (token : String) :
    held token state = (resetTokens state).count token := by
  unfold held
  rw [settled.delivered, settled.framed, settled.elapsed]
  rfl

theorem eq_filterMap_toList_iff {α β : Type*} [DecidableEq β] (items : List β)
    (option : Option α) (value : α → Option β) :
    items = option.toList.filterMap value ↔
      ∀ item, items.count item = (option.toList.filterMap value).count item := by
  constructor
  · intro same item
    rw [same]
  · intro counts
    have permuted := List.perm_iff_count.mpr counts
    cases option with
    | none => exact permuted.eq_nil
    | some given =>
        change items.Perm ([given].filterMap value) at permuted
        change items = [given].filterMap value
        cases found : value given with
        | none =>
            rw [List.filterMap_cons_none found] at permuted ⊢
            exact permuted.eq_nil
        | some kept =>
            rw [List.filterMap_cons_some found] at permuted ⊢
            exact List.perm_singleton.mp permuted

/-- Until the splash screen goes everything is kept; after that everything is, too. -/
theorem every_drops_iff {state : State} (sound : Sound state) (before : state.phase ≠ .done)
    (events : List Event) (settled : Settled (machine.run state events)) :
    (∀ token, (resetTokens (machine.run state events)).count token =
        held token state + (events.map (gain token)).sum) ↔
      machine.Every DropsOnlyInitial state events := by
  induction events generalizing state with
  | nil => exact absurd settled.done before
  | cons event rest ih =>
      by_cases leaves : Leaves state event
      · obtain ⟨soundly, done, counts⟩ := leaves_next sound leaves
        have later := every_of_done soundly done rest
        have total := held_run_of_done soundly done rest
        change (∀ token, (resetTokens (machine.run (next state event) rest)).count token = _) ↔
          DropsOnlyInitial state event ∧ machine.Every DropsOnlyInitial (next state event) rest
        rw [and_iff_left later, dropsOnlyInitial_iff, imp_iff_right leaves,
          eq_filterMap_toList_iff]
        apply forall_congr'
        intro token
        have kept := held_of_settled settled token
        have run := total token
        have step := counts token
        change held token (machine.run (next state event) rest) =
          (resetTokens (machine.run (next state event) rest)).count token at kept
        rw [List.map_cons, List.sum_cons]
        omega
      · obtain ⟨soundly, phase, counts⟩ := next_of_stays sound leaves
        have later := ih soundly (fun done => before (phase.mp done)) settled
        change _ ↔
          DropsOnlyInitial state event ∧ machine.Every DropsOnlyInitial (next state event) rest
        rw [and_iff_right ((dropsOnlyInitial_iff state event).mpr
          fun impossible => absurd impossible leaves), ← later]
        apply forall_congr'
        intro token
        rw [counts token, List.map_cons, List.sum_cons, Nat.add_assoc]
        exact Iff.rfl

theorem count_links (initialUri : Option Uri) (events : List Event) (token : String) :
    ((links initialUri events).filterMap validToken).count token =
      held token (start initialUri) + (events.map (gain token)).sum := by
  have later : ((events.filterMap Event.link).filterMap validToken).count token =
      (events.map (gain token)).sum := by
    induction events with
    | nil => rfl
    | cons event rest ih =>
        rw [List.map_cons, List.sum_cons, ← ih]
        unfold gain
        cases link : event.link with
        | none =>
            rw [List.filterMap_cons_none link]
            exact (Nat.zero_add _).symm
        | some uri =>
            rw [List.filterMap_cons_some link, ← List.count_append, ← List.filterMap_append]
            rfl
  have first : held token (start initialUri) =
      (initialUri.toList.filterMap validToken).count token := by
    change 0 + 0 + _ = _
    rw [Nat.zero_add]
    rfl
  unfold links
  rw [List.filterMap_append, List.count_append, later, first]

/-- Once the splash screen is over and nothing is on its way, every valid link has its
screen, exactly when the splash screen took along the screen of the initial link and no
other. -/
theorem deepLinks_iff (initialUri : Option Uri) (events : List Event)
    (settled : Settled (machine.run (start initialUri) events)) :
    EachLinkOnce initialUri events (machine.run (start initialUri) events) ↔
      machine.Every DropsOnlyInitial (start initialUri) events := by
  have before : (start initialUri).phase ≠ .done := by
    intro impossible
    cases impossible
  rw [← every_drops_iff (sound_start initialUri) before events settled]
  apply forall_congr'
  intro token
  rw [count_links]

/-- The push of the stream runs during the splash screen, that of the stored link after. -/
theorem deepLinks_iff_example :
    EachLinkOnce (some ⟨"/password/reset", [("token", "abc")]⟩)
      [.runApp, .deliver, .frame, .elapse, .leaveSplash false false, .frame, .elapse]
      (machine.run (start (some ⟨"/password/reset", [("token", "abc")]⟩))
        [.runApp, .deliver, .frame, .elapse, .leaveSplash false false, .frame, .elapse]) :=
  (deepLinks_iff (some ⟨"/password/reset", [("token", "abc")]⟩)
    [.runApp, .deliver, .frame, .elapse, .leaveSplash false false, .frame, .elapse]
    ⟨by decide +kernel, by decide +kernel, by decide +kernel, by decide +kernel⟩).mpr
    ⟨trivial, trivial, trivial, trivial, fun _ => by decide +kernel, trivial, trivial, trivial⟩

/-- A quick splash screen is over before the link's first push, and the screen opens twice. -/
theorem quick_splash_shows_twice :
    ¬ ∀ initialUri events, Settled (machine.run (start initialUri) events) →
      EachLinkOnce initialUri events (machine.run (start initialUri) events) := by
  intro once
  have counts := once (some ⟨"/password/reset", [("token", "abc")]⟩)
    [.runApp, .leaveSplash false false, .deliver, .frame, .elapse, .elapse]
    ⟨by decide +kernel, by decide +kernel, by decide +kernel, by decide +kernel⟩ "abc"
  revert counts
  decide +kernel

end FiksOpp.DeepLinks
