/-
The sign-up screen: taps, the checks and sign-ins they wait for, and the requests for a
phone code and for the account.

Every `await` ends a step and what comes back is an event of its own, so that taps and
answers may come in any order.  The code by phone is switched off by a constant; its part
is here as the screen has it.
-/

import FiksOpp.Foundations.EventRun

namespace FiksOpp.SignUp

open EventRun

def kSignupRequireFirebasePhoneOtp : Bool := false

inductive Caller where
  | registerUser
  | registerWithOTP
  | completePendingSignup
  deriving DecidableEq, Repr

inductive Credential where
  | verificationCompleted
  | confirmSignupOtp
  deriving DecidableEq, Repr

inductive Request where
  | verifyPhoneNumber
  | createUser
  deriving DecidableEq, Repr

inductive CreateAnswer where
  | created
  /-- The account is there, but reading the answer throws. -/
  | createdWithoutUserData
  | duplicateAccount
  | failed
  deriving DecidableEq, Repr

structure SignUpScreen where
  isOTPLogin : Bool
  tokenForOTPCredentials : Bool := false
  isLoading : Bool := false
  mounted : Bool := true
  /-- Taps that wait for `_validatePhoneRegionWithLocation`. -/
  regionChecks : ℕ := 0
  /-- Calls of `registerWithOTP` that wait for Firebase. -/
  linking : ℕ := 0
  /-- Calls of `_sendSignupOtp` that wait for `canReachIdentityToolkitHost`. -/
  reaching : ℕ := 0
  signupPhoneVerifyInFlight : Bool := false
  /-- Phone verifications that have been sent, and those not answered. -/
  verifications : ℕ := 0
  verifying : ℕ := 0
  signupOtpCodeSent : Bool := false
  otpScreenOpen : Bool := false
  signingIn : List Credential := []
  pendingSignupData : Bool := false
  isCreatingUserAfterOtp : Bool := false
  creating : List Caller := []
  /-- A `createUser` request has succeeded. -/
  created : Bool := false
  deriving DecidableEq, Repr

inductive SignUpEvent where
  | tap (formValid isAcceptedTc : Bool)
  | regionChecked (passes numberAccepted : Bool)
  | linked
  | hostAnswers (reachable : Bool)
  | verificationCompleted (isAndroid : Bool)
  | verificationFailed
  | codeSent (hasVerificationId : Bool)
  | confirm (codeComplete : Bool)
  | otpScreenClosed (verified : Bool)
  | signedIn (credential : Credential) (hasUid : Bool)
  | signInFailed (credential : Credential)
  | answered (caller : Caller) (answer : CreateAnswer)
  | mobileChanged
  | countryChanged
  /-- Other code sets the flag of the app store. -/
  | setLoading (value : Bool)
  | dispose
  deriving DecidableEq, Repr

/-- A handler runs up to its next `await`. -/
abbrev Handled := SignUpScreen × List Request

namespace SignUpScreen

def createUsers (screen : SignUpScreen) (caller : Caller) : Handled :=
  ({ screen with creating := screen.creating ++ [caller] }, [.createUser])

/-- `registerUser` and `registerWithOTP` up to the region check. -/
def tap (screen : SignUpScreen) (formValid isAcceptedTc : Bool) : SignUpScreen :=
  if screen.mounted && !screen.isLoading && formValid && isAcceptedTc then
    { screen with regionChecks := screen.regionChecks + 1 }
  else screen

def sendSignupOtp (screen : SignUpScreen) (numberAccepted : Bool) : SignUpScreen :=
  if screen.isOTPLogin || !numberAccepted || screen.isLoading ||
      screen.signupPhoneVerifyInFlight then screen
  else { screen with reaching := screen.reaching + 1 }

def registerUser (screen : SignUpScreen) (numberAccepted : Bool) : Handled :=
  let screen := { screen with pendingSignupData := true }
  if !kSignupRequireFirebasePhoneOtp then
    { screen with isLoading := true }.createUsers .registerUser
  else (screen.sendSignupOtp numberAccepted, [])

def registerWithOTP (screen : SignUpScreen) : Handled :=
  let screen := { screen with isLoading := true }
  if screen.tokenForOTPCredentials then ({ screen with linking := screen.linking + 1 }, [])
  else screen.createUsers .registerWithOTP

def regionChecked (screen : SignUpScreen) (passes numberAccepted : Bool) : Handled :=
  if screen.regionChecks = 0 then (screen, [])
  else
    let screen := { screen with regionChecks := screen.regionChecks - 1 }
    if !passes then (screen, [])
    else if screen.isOTPLogin then screen.registerWithOTP
    else screen.registerUser numberAccepted

def linked (screen : SignUpScreen) : Handled :=
  if screen.linking = 0 then (screen, [])
  else { screen with linking := screen.linking - 1 }.createUsers .registerWithOTP

/-- The flags were tested before the host was asked for, and are not tested again. -/
def hostAnswers (screen : SignUpScreen) (reachable : Bool) : Handled :=
  if screen.reaching = 0 then (screen, [])
  else
    let screen := { screen with reaching := screen.reaching - 1 }
    if !reachable then (screen, [])
    else
      ({ screen with
          signupPhoneVerifyInFlight := true
          isLoading := true
          verifications := screen.verifications + 1
          verifying := screen.verifying + 1 },
        [.verifyPhoneNumber])

def release (screen : SignUpScreen) : SignUpScreen :=
  { screen with signupPhoneVerifyInFlight := false, isLoading := false }

def completePendingSignupIfReady (screen : SignUpScreen) : Handled :=
  if screen.isCreatingUserAfterOtp then (screen, [])
  else if !screen.pendingSignupData then ({ screen with isLoading := false }, [])
  else
    { screen with
      isCreatingUserAfterOtp := true
      pendingSignupData := false
      isLoading := true }.createUsers .completePendingSignup

def verificationCompleted (screen : SignUpScreen) (isAndroid : Bool) : SignUpScreen :=
  if screen.verifications = 0 then screen
  else
    let screen := { screen with verifying := screen.verifying - 1 }
    if !screen.mounted || screen.isOTPLogin then screen
    else if isAndroid then
      { screen with signingIn := screen.signingIn ++ [.verificationCompleted] }
    else screen.release

def verificationFailed (screen : SignUpScreen) : SignUpScreen :=
  if screen.verifications = 0 then screen
  else { screen with verifying := screen.verifying - 1 }.release

def codeSent (screen : SignUpScreen) (hasVerificationId : Bool) : SignUpScreen :=
  if screen.verifications = 0 then screen
  else
    let screen := { screen with verifying := screen.verifying - 1 }.release
    if hasVerificationId then { screen with signupOtpCodeSent := true, otpScreenOpen := true }
    else screen

def confirmSignupOtp (screen : SignUpScreen) (codeComplete : Bool) : SignUpScreen :=
  if !screen.otpScreenOpen || screen.isOTPLogin || !codeComplete || screen.isLoading then screen
  else
    { screen with isLoading := true, signingIn := screen.signingIn ++ [.confirmSignupOtp] }

def otpScreenClosed (screen : SignUpScreen) (verified : Bool) : SignUpScreen :=
  { screen with
    otpScreenOpen := false
    signupOtpCodeSent := screen.signupOtpCodeSent && (verified || !screen.mounted) }

def signedIn (screen : SignUpScreen) (credential : Credential) (hasUid : Bool) : Handled :=
  if credential ∉ screen.signingIn then (screen, [])
  else
    let screen := { screen with signingIn := screen.signingIn.erase credential }
    match credential with
    | .verificationCompleted =>
        if !screen.mounted then (screen, [])
        else if !hasUid then (screen.release, [])
        else screen.release.completePendingSignupIfReady
    | .confirmSignupOtp =>
        if !screen.mounted then (screen, [])
        else if !hasUid then ({ screen with isLoading := false }, [])
        else screen.completePendingSignupIfReady

def signInFailed (screen : SignUpScreen) (credential : Credential) : SignUpScreen :=
  if credential ∉ screen.signingIn then screen
  else
    let screen := { screen with signingIn := screen.signingIn.erase credential }
    match credential with
    | .verificationCompleted => if screen.mounted then screen.release else screen
    | .confirmSignupOtp => { screen with isLoading := false }

/-- What `createUsers` returns; a screen that leads to the sign-in is gone. -/
def createUsersEnds (screen : SignUpScreen) : CreateAnswer → SignUpScreen × Bool
  | .created => ({ screen with isLoading := false, mounted := false, created := true }, true)
  | .createdWithoutUserData => ({ screen with isLoading := false, created := true }, false)
  | .duplicateAccount => ({ screen with isLoading := false, mounted := false }, screen.mounted)
  | .failed => ({ screen with isLoading := false }, false)

def answered (screen : SignUpScreen) (caller : Caller) (answer : CreateAnswer) :
    SignUpScreen :=
  if caller ∉ screen.creating then screen
  else
    let ended := { screen with creating := screen.creating.erase caller }.createUsersEnds answer
    match caller with
    | .registerUser =>
        if ended.2 then { ended.1 with pendingSignupData := false } else ended.1
    | .registerWithOTP => ended.1
    | .completePendingSignup =>
        if ended.2 then { ended.1 with isCreatingUserAfterOtp := false }
        else
          { ended.1 with
            pendingSignupData := true
            signupOtpCodeSent := ended.1.signupOtpCodeSent && !ended.1.mounted
            isLoading := false
            isCreatingUserAfterOtp := false }

def resetSignupPhoneVerification (screen : SignUpScreen) : SignUpScreen :=
  { screen with
    signupOtpCodeSent := false
    pendingSignupData := false
    isCreatingUserAfterOtp := false }

def mobileChanged (screen : SignUpScreen) : SignUpScreen :=
  if screen.isOTPLogin || !screen.signupOtpCodeSent then screen
  else screen.resetSignupPhoneVerification

def countryChanged (screen : SignUpScreen) : SignUpScreen :=
  if screen.isOTPLogin then screen else screen.resetSignupPhoneVerification

def handle (screen : SignUpScreen) : SignUpEvent → Handled
  | .tap formValid isAcceptedTc => (screen.tap formValid isAcceptedTc, [])
  | .regionChecked passes numberAccepted => screen.regionChecked passes numberAccepted
  | .linked => screen.linked
  | .hostAnswers reachable => screen.hostAnswers reachable
  | .verificationCompleted isAndroid => (screen.verificationCompleted isAndroid, [])
  | .verificationFailed => (screen.verificationFailed, [])
  | .codeSent hasVerificationId => (screen.codeSent hasVerificationId, [])
  | .confirm codeComplete => (screen.confirmSignupOtp codeComplete, [])
  | .otpScreenClosed verified => (screen.otpScreenClosed verified, [])
  | .signedIn credential hasUid => screen.signedIn credential hasUid
  | .signInFailed credential => (screen.signInFailed credential, [])
  | .answered caller answer => (screen.answered caller answer, [])
  | .mobileChanged => (screen.mobileChanged, [])
  | .countryChanged => (screen.countryChanged, [])
  | .setLoading value => ({ screen with isLoading := value }, [])
  | .dispose => ({ screen with mounted := false }, [])

end SignUpScreen

def machine : Machine SignUpScreen SignUpEvent Request where
  next := fun screen event => (screen.handle event).1
  outputs := fun screen event => (screen.handle event).2

/-- At most one request of each kind is open, and none asks for an account a second
time. -/
structure SubmitsOnce (screen : SignUpScreen) (event : SignUpEvent) : Prop where
  verifying : (machine.next screen event).verifying ≤ 1
  creating : (machine.next screen event).creating.length ≤ 1
  once : .createUser ∈ machine.outputs screen event → screen.created = false

/-- The account is asked for, when a check or a sign-in has come back, only while no such
request is open and none has succeeded. -/
def AsksAlone (screen : SignUpScreen) : SignUpEvent → Prop
  | .regionChecked passes _ =>
      screen.regionChecks ≠ 0 → passes = true →
        screen.isOTPLogin = false ∨ screen.tokenForOTPCredentials = false →
          screen.creating = [] ∧ screen.created = false
  | .linked => screen.linking ≠ 0 → screen.creating = [] ∧ screen.created = false
  | _ => True

/-! ### One step -/

/-- What good runs keep: nothing of the code by phone, and one open request at most. -/
structure Calm (screen : SignUpScreen) : Prop where
  reaching : screen.reaching = 0
  verifications : screen.verifications = 0
  verifying : screen.verifying = 0
  signingIn : screen.signingIn = []
  otpScreenOpen : screen.otpScreenOpen = false
  single : screen.creating.length ≤ 1

def Settles (screen : SignUpScreen) (event : SignUpEvent) (condition : Prop) : Prop :=
  (SubmitsOnce screen event ↔ condition) ∧
    (SubmitsOnce screen event → Calm (machine.next screen event))

theorem settles_of_calm {screen next : SignUpScreen} {event : SignUpEvent} {condition : Prop}
    (handled : screen.handle event = (next, [])) (calm : Calm next) (holds : condition) :
    Settles screen event condition := by
  have reached : machine.next screen event = next := congrArg Prod.fst handled
  have silent : machine.outputs screen event = [] := congrArg Prod.snd handled
  have once : SubmitsOnce screen event := by
    constructor
    · rw [reached, calm.verifying]
      exact Nat.zero_le 1
    · rw [reached]
      exact calm.single
    · intro sent
      rw [silent] at sent
      exact absurd sent List.not_mem_nil
  refine ⟨iff_of_true once holds, fun _ => ?_⟩
  rw [reached]
  exact calm

theorem settles_of_createUsers {screen base : SignUpScreen} {event : SignUpEvent}
    {caller : Caller} (handled : screen.handle event = base.createUsers caller)
    (calm : Calm base) (same : base.creating = screen.creating) :
    Settles screen event (screen.creating = [] ∧ screen.created = false) := by
  have reached : machine.next screen event =
      { base with creating := base.creating ++ [caller] } := congrArg Prod.fst handled
  have sends : machine.outputs screen event = [.createUser] := congrArg Prod.snd handled
  have counted : (machine.next screen event).creating.length = screen.creating.length + 1 := by
    rw [reached]
    change (base.creating ++ [caller]).length = _
    rw [List.length_append, same, List.length_singleton]
  have single : (machine.next screen event).creating.length ≤ 1 ↔ screen.creating = [] := by
    rw [counted, ← List.length_eq_zero_iff]
    omega
  have quiet : (machine.next screen event).verifying = 0 := by
    rw [reached]
    exact calm.verifying
  constructor
  · constructor
    · rintro ⟨_, one, once⟩
      exact ⟨single.mp one, once (by rw [sends]; exact List.mem_singleton_self _)⟩
    · rintro ⟨idle, fresh⟩
      exact ⟨by rw [quiet]; exact Nat.zero_le 1, single.mpr idle, fun _ => fresh⟩
  · intro once
    have one := once.creating
    rw [reached] at one ⊢
    exact ⟨calm.reaching, calm.verifications, calm.verifying, calm.signingIn,
      calm.otpScreenOpen, one⟩

theorem Settles.congr {screen : SignUpScreen} {event : SignUpEvent} {condition other : Prop}
    (settles : Settles screen event condition) (same : condition ↔ other) :
    Settles screen event other :=
  ⟨settles.1.trans same, settles.2⟩

theorem calm_tap {screen : SignUpScreen} (calm : Calm screen) (formValid isAcceptedTc : Bool) :
    Calm (screen.tap formValid isAcceptedTc) := by
  unfold SignUpScreen.tap
  split
  · exact { calm with }
  · exact calm

theorem calm_mobileChanged {screen : SignUpScreen} (calm : Calm screen) :
    Calm screen.mobileChanged := by
  unfold SignUpScreen.mobileChanged
  split
  · exact calm
  · exact { calm with }

theorem calm_countryChanged {screen : SignUpScreen} (calm : Calm screen) :
    Calm screen.countryChanged := by
  unfold SignUpScreen.countryChanged
  split
  · exact calm
  · exact { calm with }

theorem calm_createUsersEnds {screen : SignUpScreen} (calm : Calm screen)
    (answer : CreateAnswer) : Calm (screen.createUsersEnds answer).1 := by
  cases answer with
  | created => exact { calm with }
  | createdWithoutUserData => exact { calm with }
  | duplicateAccount => exact { calm with }
  | failed => exact { calm with }

theorem calm_answered {screen : SignUpScreen} (calm : Calm screen) (caller : Caller)
    (answer : CreateAnswer) : Calm (screen.answered caller answer) := by
  unfold SignUpScreen.answered
  split
  · exact calm
  have erased : Calm { screen with creating := screen.creating.erase caller } :=
    { calm with single := Nat.le_trans List.length_erase_le calm.single }
  have ended := calm_createUsersEnds erased answer
  cases caller with
  | registerUser =>
      dsimp only
      split
      · exact { ended with }
      · exact ended
  | registerWithOTP => exact ended
  | completePendingSignup =>
      dsimp only
      split
      · exact { ended with }
      · exact { ended with }

theorem handle_phone {screen : SignUpScreen} (calm : Calm screen) :
    (∀ reachable, screen.handle (.hostAnswers reachable) = (screen, [])) ∧
      (∀ isAndroid, screen.handle (.verificationCompleted isAndroid) = (screen, [])) ∧
      screen.handle .verificationFailed = (screen, []) ∧
      (∀ hasVerificationId, screen.handle (.codeSent hasVerificationId) = (screen, [])) ∧
      (∀ codeComplete, screen.handle (.confirm codeComplete) = (screen, [])) ∧
      (∀ credential hasUid, screen.handle (.signedIn credential hasUid) = (screen, [])) ∧
      ∀ credential, screen.handle (.signInFailed credential) = (screen, []) := by
  refine ⟨?_, ?_, ?_, ?_, ?_, ?_, ?_⟩
  · intro reachable
    simp [SignUpScreen.handle, SignUpScreen.hostAnswers, calm.reaching]
  · intro isAndroid
    simp [SignUpScreen.handle, SignUpScreen.verificationCompleted, calm.verifications]
  · simp [SignUpScreen.handle, SignUpScreen.verificationFailed, calm.verifications]
  · intro hasVerificationId
    simp [SignUpScreen.handle, SignUpScreen.codeSent, calm.verifications]
  · intro codeComplete
    simp [SignUpScreen.handle, SignUpScreen.confirmSignupOtp, calm.otpScreenOpen]
  · intro credential hasUid
    simp [SignUpScreen.handle, SignUpScreen.signedIn, calm.signingIn]
  · intro credential
    simp [SignUpScreen.handle, SignUpScreen.signInFailed, calm.signingIn]

theorem regionChecked_settles {screen : SignUpScreen} (calm : Calm screen)
    (passes numberAccepted : Bool) :
    Settles screen (.regionChecked passes numberAccepted)
      (AsksAlone screen (.regionChecked passes numberAccepted)) := by
  by_cases waiting : screen.regionChecks = 0
  · refine settles_of_calm ?_ calm fun some_ => absurd waiting some_
    simp [SignUpScreen.handle, SignUpScreen.regionChecked, waiting]
  have checked : Calm { screen with regionChecks := screen.regionChecks - 1 } := { calm with }
  cases passes with
  | false =>
      refine settles_of_calm ?_ checked fun _ impossible => by cases impossible
      simp [SignUpScreen.handle, SignUpScreen.regionChecked, waiting]
  | true =>
      cases otpLogin : screen.isOTPLogin with
      | false =>
          refine (@settles_of_createUsers screen
            { screen with
              regionChecks := screen.regionChecks - 1
              pendingSignupData := true
              isLoading := true }
            _ .registerUser ?_ { calm with } rfl).congr ?_
          · simp [SignUpScreen.handle, SignUpScreen.regionChecked, waiting, otpLogin,
              SignUpScreen.registerUser, kSignupRequireFirebasePhoneOtp]
          · exact ⟨fun alone _ _ _ => alone, fun alone => alone waiting rfl (Or.inl otpLogin)⟩
      | true =>
          cases token : screen.tokenForOTPCredentials with
          | false =>
              refine (@settles_of_createUsers screen
                { screen with regionChecks := screen.regionChecks - 1, isLoading := true }
                _ .registerWithOTP ?_ { calm with } rfl).congr ?_
              · simp [SignUpScreen.handle, SignUpScreen.regionChecked, waiting, otpLogin,
                  SignUpScreen.registerWithOTP, token]
              · exact ⟨fun alone _ _ _ => alone,
                  fun alone => alone waiting rfl (Or.inr token)⟩
          | true =>
              refine @settles_of_calm screen
                { screen with
                  regionChecks := screen.regionChecks - 1
                  isLoading := true
                  linking := screen.linking + 1 }
                _ _ ?_ { calm with } ?_
              · simp [SignUpScreen.handle, SignUpScreen.regionChecked, waiting, otpLogin,
                  SignUpScreen.registerWithOTP, token]
              · rintro _ _ (direct | direct)
                · rw [otpLogin] at direct
                  cases direct
                · rw [token] at direct
                  cases direct

theorem linked_settles {screen : SignUpScreen} (calm : Calm screen) :
    Settles screen .linked (AsksAlone screen .linked) := by
  by_cases waiting : screen.linking = 0
  · refine settles_of_calm ?_ calm fun some_ => absurd waiting some_
    simp [SignUpScreen.handle, SignUpScreen.linked, waiting]
  · refine (@settles_of_createUsers screen { screen with linking := screen.linking - 1 }
      _ .registerWithOTP ?_ { calm with } rfl).congr ?_
    · simp [SignUpScreen.handle, SignUpScreen.linked, waiting]
    · exact ⟨fun alone _ => alone, fun alone => alone waiting⟩

theorem handle_settles {screen : SignUpScreen} (calm : Calm screen) (event : SignUpEvent) :
    Settles screen event (AsksAlone screen event) := by
  obtain ⟨host, completed, failed, sent, confirm, signedIn, signInFailed⟩ := handle_phone calm
  cases event with
  | tap formValid isAcceptedTc =>
      exact settles_of_calm rfl (calm_tap calm formValid isAcceptedTc) trivial
  | regionChecked passes numberAccepted =>
      exact regionChecked_settles calm passes numberAccepted
  | linked => exact linked_settles calm
  | hostAnswers reachable => exact settles_of_calm (host reachable) calm trivial
  | verificationCompleted isAndroid =>
      exact settles_of_calm (completed isAndroid) calm trivial
  | verificationFailed => exact settles_of_calm failed calm trivial
  | codeSent hasVerificationId => exact settles_of_calm (sent hasVerificationId) calm trivial
  | confirm codeComplete => exact settles_of_calm (confirm codeComplete) calm trivial
  | otpScreenClosed verified =>
      have closed : Calm (screen.otpScreenClosed verified) := { calm with otpScreenOpen := rfl }
      exact settles_of_calm rfl closed trivial
  | signedIn credential hasUid =>
      exact settles_of_calm (signedIn credential hasUid) calm trivial
  | signInFailed credential => exact settles_of_calm (signInFailed credential) calm trivial
  | answered caller answer =>
      exact settles_of_calm rfl (calm_answered calm caller answer) trivial
  | mobileChanged => exact settles_of_calm rfl (calm_mobileChanged calm) trivial
  | countryChanged => exact settles_of_calm rfl (calm_countryChanged calm) trivial
  | setLoading value =>
      have same : Calm { screen with isLoading := value } := { calm with }
      exact settles_of_calm rfl same trivial
  | dispose =>
      have same : Calm { screen with mounted := false } := { calm with }
      exact settles_of_calm rfl same trivial

def opened (isOTPLogin tokenForOTPCredentials : Bool) : SignUpScreen where
  isOTPLogin := isOTPLogin
  tokenForOTPCredentials := tokenForOTPCredentials

theorem calm_opened (isOTPLogin tokenForOTPCredentials : Bool) :
    Calm (opened isOTPLogin tokenForOTPCredentials) :=
  ⟨rfl, rfl, rfl, rfl, rfl, Nat.zero_le 1⟩

/-- For any taps and any order of answers the form is submitted once exactly while each
check and each sign-in that comes back finds no open `createUser` request and none that
has succeeded. -/
theorem signUp_iff (isOTPLogin tokenForOTPCredentials : Bool) (events : List SignUpEvent) :
    machine.Every SubmitsOnce (opened isOTPLogin tokenForOTPCredentials) events ↔
      machine.Every AsksAlone (opened isOTPLogin tokenForOTPCredentials) events :=
  machine.every_iff_of_step Calm (fun _ event calm => handle_settles calm event)
    (calm_opened _ _)

/-- Two quick taps: the flag is only set after the check of the region. -/
theorem double_tap_asks_twice :
    ¬ ∀ (isOTPLogin tokenForOTPCredentials : Bool) (events : List SignUpEvent),
      machine.Every SubmitsOnce (opened isOTPLogin tokenForOTPCredentials) events := by
  intro always
  have twice := (always false false
    [.tap true true, .tap true true, .regionChecked true true,
      .regionChecked true true]).2.2.2.1
  exact absurd twice.creating (by decide)

end FiksOpp.SignUp
