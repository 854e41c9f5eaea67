/-
Sending a code and hearing that it failed, on the sign-up and the sign-in screen.

Firebase may report one failure twice.  A screen remembers the last failure it has shown
since the code was sent, and keeps back an internal error that follows it too soon.  The
clock is read twice for a failure: when it is judged and when it is remembered.
-/

import FiksOpp.Foundations.EventRun
import FiksOpp.PhoneNumbers

namespace FiksOpp.PhoneAuth

open EventRun

/-- A `FirebaseAuthException`, with the two readings of the clock. -/
structure Failure where
  code : String
  checked : ℤ
  recorded : ℤ
  deriving DecidableEq, Repr

def window : ℤ := 5000000

def shouldSuppressRedundantPhoneAuthFailure (current : Failure) (previousCode : Option String)
    (previousFailureTime : Option ℤ) : Bool :=
  match previousFailureTime, previousCode with
  | some time, some code =>
      if current.code ≠ "internal-error" then false
      else if window ≤ current.checked - time then false
      else if code = "too-many-requests" ∨ code = "quota-exceeded" then true
      else code = "internal-error"
  | _, _ => false

structure SendState where
  country : Country
  text : String := ""
  isLoading : Bool := false
  verifyInFlight : Bool := false
  lastFailureTime : Option ℤ := none
  lastFailureCode : Option String := none
  /-- Calls of `canReachIdentityToolkitHost` that have not answered. -/
  reaching : ℕ := 0
  deriving DecidableEq, Repr

inductive SendEvent where
  | edited (country : Country) (text : String)
  | sendCode
  | hostAnswers (reachable : Bool)
  | verificationFailed (failure : Failure)
  /-- `codeSent`, the end of `verificationCompleted`, or an exception. -/
  | settled
  /-- Other code sets the flag of the app store. -/
  | setLoading (value : Bool)
  deriving DecidableEq, Repr

inductive Effect where
  | verifyPhoneNumber (phoneNumber : String)
  | toast (failure : Failure)
  deriving DecidableEq, Repr

namespace SendState

/-- The guards before the await; the sign-in screen tests its flag only after it. -/
def sendCode (screen : SendScreen) (isOTPLogin : Bool) (state : SendState) : SendState :=
  if screen.accepts state.country state.text = false then state
  else
    match screen with
    | .signUp =>
        if isOTPLogin || state.isLoading || state.verifyInFlight then state
        else { state with reaching := state.reaching + 1 }
    | .otpLogin => { state with reaching := state.reaching + 1 }

def verifies (screen : SendScreen) (state : SendState) (reachable : Bool) : Bool :=
  state.reaching ≠ 0 && reachable && !(screen = .otpLogin && state.verifyInFlight)

def hostAnswers (screen : SendScreen) (state : SendState) (reachable : Bool) : SendState :=
  if state.verifies screen reachable then
    { state with
      reaching := state.reaching - 1
      verifyInFlight := true
      lastFailureTime := none
      lastFailureCode := none
      isLoading := true }
  else { state with reaching := state.reaching - 1 }

def suppresses (state : SendState) (failure : Failure) : Bool :=
  shouldSuppressRedundantPhoneAuthFailure failure state.lastFailureCode state.lastFailureTime

def verificationFailed (state : SendState) (failure : Failure) : SendState :=
  let settled := { state with isLoading := false, verifyInFlight := false }
  if state.suppresses failure then settled
  else
    { settled with
      lastFailureTime := some failure.recorded
      lastFailureCode := some failure.code }

def next (screen : SendScreen) (isOTPLogin : Bool) (state : SendState) : SendEvent → SendState
  | .edited country text => { state with country := country, text := text }
  | .sendCode => state.sendCode screen isOTPLogin
  | .hostAnswers reachable => state.hostAnswers screen reachable
  | .verificationFailed failure => state.verificationFailed failure
  | .settled => { state with isLoading := false, verifyInFlight := false }
  | .setLoading value => { state with isLoading := value }

def outputs (screen : SendScreen) (state : SendState) : SendEvent → List Effect
  | .hostAnswers reachable =>
      if state.verifies screen reachable then
        [.verifyPhoneNumber (phoneNumber state.country state.text)]
      else []
  | .verificationFailed failure => if state.suppresses failure then [] else [.toast failure]
  | _ => []

end SendState

structure Handled where
  failure : Failure
  shown : Bool
  deriving DecidableEq, Repr

/-- The screen, the failures since the code was last sent, the latest first, and the last
reading of the clock. -/
structure History where
  state : SendState
  failures : List Handled := []
  clock : ℤ
  deriving DecidableEq, Repr

namespace History

def next (screen : SendScreen) (isOTPLogin : Bool) (history : History) (event : SendEvent) :
    History :=
  let state := history.state.next screen isOTPLogin event
  match event with
  | .hostAnswers reachable =>
      if history.state.verifies screen reachable then
        { history with state := state, failures := [] }
      else { history with state := state }
  | .verificationFailed failure =>
      { state := state
        failures :=
          { failure := failure, shown := !history.state.suppresses failure } ::
            history.failures
        clock := failure.recorded }
  | _ => { history with state := state }

end History

def sendMachine (screen : SendScreen) (isOTPLogin : Bool) :
    Machine History SendEvent Effect where
  next := History.next screen isOTPLogin
  outputs := fun history event => history.state.outputs screen event

def Chronological (history : History) : SendEvent → Prop
  | .verificationFailed failure =>
      history.clock ≤ failure.checked ∧ failure.checked ≤ failure.recorded
  | _ => True

/-- An internal error too soon after a failure that says it all. -/
def Redundant (failure earlier : Failure) : Prop :=
  failure.code = "internal-error" ∧
    earlier.code ∈ ["internal-error", "too-many-requests", "quota-exceeded"] ∧
      failure.checked - earlier.recorded < window

def lastShown (failures : List Handled) : Option Failure :=
  (failures.find? fun handled => handled.shown).map fun handled => handled.failure

/-- The first failure is shown; one is kept back only as redundant beside a shown one; and
a shown one is not redundant beside the one shown before it. -/
structure Announced (failures : List Handled) (failure : Failure) (shown : Bool) : Prop where
  first : failures = [] → shown = true
  suppressed : shown = false →
    ∃ earlier ∈ failures, earlier.shown = true ∧ earlier.failure.recorded ≤ failure.checked ∧
      Redundant failure earlier.failure
  consecutive : shown = true →
    ∀ earlier, lastShown failures = some earlier → ¬ Redundant failure earlier

def AnnouncedWell (history : History) : SendEvent → Prop
  | .verificationFailed failure =>
      Announced history.failures failure (!history.state.suppresses failure)
  | _ => True

/-- The claim about any two shown failures, not only those that follow one another. -/
def NeverRedundant (history : History) : SendEvent → Prop
  | .verificationFailed failure =>
      history.state.suppresses failure = false →
        ∀ earlier ∈ history.failures, earlier.shown = true → ¬ Redundant failure earlier.failure
  | _ => True

/-! ### One step -/

theorem suppress_iff (current earlier : Failure) :
    shouldSuppressRedundantPhoneAuthFailure current (some earlier.code)
        (some earlier.recorded) = true ↔
      Redundant current earlier := by
  unfold shouldSuppressRedundantPhoneAuthFailure Redundant
  by_cases internal : current.code = "internal-error"
  · by_cases old : window ≤ current.checked - earlier.recorded
    · simp [internal, old, Int.not_lt.mpr old]
    · by_cases limited : earlier.code = "too-many-requests" ∨ earlier.code = "quota-exceeded"
      · simp [internal, old, limited, Int.not_le.mp old]
      · have others := not_or.mp limited
        simp [internal, old, others.1, others.2, Int.not_le.mp old]
  · simp [internal]

structure Remembers (history : History) : Prop where
  time : history.state.lastFailureTime =
    (lastShown history.failures).map fun failure => failure.recorded
  code : history.state.lastFailureCode =
    (lastShown history.failures).map fun failure => failure.code
  told : history.failures ≠ [] → lastShown history.failures ≠ none
  past : ∀ handled ∈ history.failures, handled.failure.recorded ≤ history.clock

theorem lastShown_mem {failures : List Handled} {failure : Failure}
    (last : lastShown failures = some failure) :
    ∃ handled ∈ failures, handled.shown = true ∧ handled.failure = failure := by
  unfold lastShown at last
  obtain ⟨handled, found, same⟩ := Option.map_eq_some_iff.mp last
  exact ⟨handled, List.mem_of_find?_eq_some found, List.find?_some found, same⟩

theorem Remembers.suppresses_iff {history : History} (remembers : Remembers history)
    (failure : Failure) :
    history.state.suppresses failure = true ↔
      ∃ earlier, lastShown history.failures = some earlier ∧ Redundant failure earlier := by
  unfold SendState.suppresses
  rw [remembers.time, remembers.code]
  cases lastShown history.failures with
  | none => exact iff_of_false (by simp [shouldSuppressRedundantPhoneAuthFailure]) (by simp)
  | some earlier =>
      rw [Option.map_some, Option.map_some, suppress_iff]
      constructor
      · intro redundant
        exact ⟨earlier, rfl, redundant⟩
      · rintro ⟨other, same, redundant⟩
        cases same
        exact redundant

theorem Remembers.announced {history : History} (remembers : Remembers history)
    {failure : Failure} (later : history.clock ≤ failure.checked) :
    Announced history.failures failure (!history.state.suppresses failure) := by
  constructor
  · intro none_
    rw [Bool.not_eq_true', ← Bool.not_eq_true, remembers.suppresses_iff, none_]
    rintro ⟨earlier, impossible, _⟩
    cases impossible
  · intro suppressed
    rw [Bool.not_eq_false', remembers.suppresses_iff] at suppressed
    obtain ⟨earlier, last, redundant⟩ := suppressed
    obtain ⟨handled, member, shown, same⟩ := lastShown_mem last
    subst same
    have before := remembers.past handled member
    exact ⟨handled, member, shown, by omega, redundant⟩
  · intro shown earlier last redundant
    rw [Bool.not_eq_true', ← Bool.not_eq_true, remembers.suppresses_iff] at shown
    exact shown ⟨earlier, last, redundant⟩

theorem Remembers.of_same {history other : History} (remembers : Remembers history)
    (time : other.state.lastFailureTime = history.state.lastFailureTime)
    (code : other.state.lastFailureCode = history.state.lastFailureCode)
    (failures : other.failures = history.failures) (clock : other.clock = history.clock) :
    Remembers other := by
  constructor
  · rw [time, failures]
    exact remembers.time
  · rw [code, failures]
    exact remembers.code
  · rw [failures]
    exact remembers.told
  · rw [failures, clock]
    exact remembers.past

theorem Remembers.of_sent {history : History} (time : history.state.lastFailureTime = none)
    (code : history.state.lastFailureCode = none) (failures : history.failures = []) :
    Remembers history := by
  constructor
  · rw [time, failures]
    rfl
  · rw [code, failures]
    rfl
  · intro some_
    exact absurd failures some_
  · rw [failures]
    exact fun handled member => absurd member List.not_mem_nil

theorem next_suppressed {history : History} {failure : Failure}
    (suppresses : history.state.suppresses failure = true) (screen : SendScreen)
    (isOTPLogin : Bool) :
    history.next screen isOTPLogin (.verificationFailed failure) =
      { state := { history.state with isLoading := false, verifyInFlight := false }
        failures := { failure := failure, shown := false } :: history.failures
        clock := failure.recorded } := by
  simp [History.next, SendState.next, SendState.verificationFailed, suppresses]

theorem next_shown {history : History} {failure : Failure}
    (shows : history.state.suppresses failure = false) (screen : SendScreen)
    (isOTPLogin : Bool) :
    history.next screen isOTPLogin (.verificationFailed failure) =
      { state :=
          { history.state with
            isLoading := false
            verifyInFlight := false
            lastFailureTime := some failure.recorded
            lastFailureCode := some failure.code }
        failures := { failure := failure, shown := true } :: history.failures
        clock := failure.recorded } := by
  simp [History.next, SendState.next, SendState.verificationFailed, shows]

theorem Remembers.past_cons {history : History} (remembers : Remembers history)
    {failure : Failure} (later : history.clock ≤ failure.checked)
    (forward : failure.checked ≤ failure.recorded) (shown : Bool) :
    ∀ handled ∈ { failure := failure, shown := shown } :: history.failures,
      handled.failure.recorded ≤ failure.recorded := by
  intro handled member
  rcases List.mem_cons.mp member with now | before
  · subst now
    exact Int.le_refl _
  · have bounded := remembers.past handled before
    omega

theorem remembers_verificationFailed {history : History} (remembers : Remembers history)
    {failure : Failure} (later : history.clock ≤ failure.checked)
    (forward : failure.checked ≤ failure.recorded) (screen : SendScreen) (isOTPLogin : Bool) :
    Remembers (history.next screen isOTPLogin (.verificationFailed failure)) := by
  cases suppresses : history.state.suppresses failure with
  | true =>
      rw [next_suppressed suppresses]
      refine ⟨remembers.time, remembers.code, fun _ => ?_, ?_⟩
      · obtain ⟨earlier, last, _⟩ := (remembers.suppresses_iff failure).mp suppresses
        change lastShown history.failures ≠ none
        rw [last]
        exact Option.some_ne_none earlier
      · exact remembers.past_cons later forward false
  | false =>
      rw [next_shown suppresses]
      refine ⟨rfl, rfl, fun _ => Option.some_ne_none failure, ?_⟩
      exact remembers.past_cons later forward true

theorem remembers_hostAnswers {history : History} (remembers : Remembers history)
    (screen : SendScreen) (isOTPLogin reachable : Bool) :
    Remembers (history.next screen isOTPLogin (.hostAnswers reachable)) := by
  cases verifies : history.state.verifies screen reachable with
  | true =>
      apply Remembers.of_sent
      · simp [History.next, SendState.next, SendState.hostAnswers, verifies]
      · simp [History.next, SendState.next, SendState.hostAnswers, verifies]
      · simp [History.next, verifies]
  | false =>
      apply remembers.of_same
      · simp [History.next, SendState.next, SendState.hostAnswers, verifies]
      · simp [History.next, SendState.next, SendState.hostAnswers, verifies]
      · simp [History.next, verifies]
      · simp [History.next, verifies]

theorem fields_sendCode (screen : SendScreen) (isOTPLogin : Bool) (state : SendState) :
    (state.sendCode screen isOTPLogin).lastFailureTime = state.lastFailureTime ∧
      (state.sendCode screen isOTPLogin).lastFailureCode = state.lastFailureCode := by
  unfold SendState.sendCode
  split
  · exact ⟨rfl, rfl⟩
  · cases screen with
    | otpLogin => exact ⟨rfl, rfl⟩
    | signUp =>
        change (if _ then _ else _ : SendState).lastFailureTime = _ ∧
          (if _ then _ else _ : SendState).lastFailureCode = _
        split
        · exact ⟨rfl, rfl⟩
        · exact ⟨rfl, rfl⟩

theorem next_announces (screen : SendScreen) (isOTPLogin : Bool) {history : History}
    (remembers : Remembers history) (event : SendEvent)
    (chronological : Chronological history event) :
    Remembers (history.next screen isOTPLogin event) ∧ AnnouncedWell history event := by
  cases event with
  | edited country text => exact ⟨remembers.of_same rfl rfl rfl rfl, trivial⟩
  | sendCode =>
      obtain ⟨time, code⟩ := fields_sendCode screen isOTPLogin history.state
      exact ⟨remembers.of_same time code rfl rfl, trivial⟩
  | hostAnswers reachable =>
      exact ⟨remembers_hostAnswers remembers screen isOTPLogin reachable, trivial⟩
  | verificationFailed failure =>
      obtain ⟨later, forward⟩ := chronological
      exact ⟨remembers_verificationFailed remembers later forward screen isOTPLogin,
        remembers.announced later⟩
  | settled => exact ⟨remembers.of_same rfl rfl rfl rfl, trivial⟩
  | setLoading value => exact ⟨remembers.of_same rfl rfl rfl rfl, trivial⟩

def openedAt (country : Country) (clock : ℤ) : History :=
  { state := { country := country }, clock := clock }

/-- On both screens, over every run whose clock never goes back, the first failure after
each sending is shown, only an internal error is kept back, and that within the window of a
shown failure that says it all; no failure is shown within the window of the one shown
before it. -/
theorem failures_announced (screen : SendScreen) (isOTPLogin : Bool) (country : Country)
    (clock : ℤ) (events : List SendEvent)
    (chronological : (sendMachine screen isOTPLogin).Every Chronological
      (openedAt country clock) events) :
    (sendMachine screen isOTPLogin).Every AnnouncedWell (openedAt country clock) events :=
  Machine.every_of_invariant Remembers
    (fun _ event remembers meets => next_announces screen isOTPLogin remembers event meets)
    (.of_sent rfl rfl rfl) chronological

/-- An internal error one second after the failure of a rate limit is kept back. -/
theorem failures_announced_example :
    (sendMachine .otpLogin false).Every AnnouncedWell (openedAt pakistan 0)
      [.edited pakistan "3174869556", .sendCode, .hostAnswers true,
        .verificationFailed
          { code := "too-many-requests", checked := 1000000, recorded := 1000000 },
        .verificationFailed
          { code := "internal-error", checked := 2000000, recorded := 2000000 }] := by
  apply failures_announced
  refine ⟨trivial, trivial, trivial, ⟨?_, ?_⟩, ⟨?_, ?_⟩, trivial⟩
  · decide
  · decide
  · decide
  · decide

/-- Only the last shown failure is remembered: after a rate limit and a lost connection an
internal error is shown, two seconds after the rate limit. -/
theorem failure_between_hides_rate_limit :
    ¬ ∀ (screen : SendScreen) (isOTPLogin : Bool) (country : Country) (clock : ℤ)
        (events : List SendEvent),
      (sendMachine screen isOTPLogin).Every Chronological (openedAt country clock) events →
        (sendMachine screen isOTPLogin).Every NeverRedundant (openedAt country clock)
          events := by
  intro always
  have shown := (always .otpLogin false pakistan 0
    [.edited pakistan "3174869556", .sendCode, .hostAnswers true,
      .verificationFailed { code := "too-many-requests", checked := 0, recorded := 0 },
      .verificationFailed
        { code := "network-request-failed", checked := 1000000, recorded := 1000000 },
      .verificationFailed { code := "internal-error", checked := 2000000, recorded := 2000000 }]
    ⟨trivial, trivial, trivial, ⟨by decide, by decide⟩, ⟨by decide, by decide⟩,
      ⟨by decide, by decide⟩, trivial⟩).2.2.2.2.2.1
  refine shown (by decide)
    { failure := { code := "too-many-requests", checked := 0, recorded := 0 }, shown := true }
    (by decide) rfl ?_
  exact ⟨rfl, by decide, by decide⟩

end FiksOpp.PhoneAuth
