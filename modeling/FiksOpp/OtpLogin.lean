/-
Signing in with a code by phone, `OtpLoginScreen`.

Firebase verifies the number of the call that sent the code; the back end is told the number
that stands in the field when the code has been accepted.  The field stays open until a code
has been sent, so the two are the same only as long as nobody types meanwhile.

A call of `verifyPhoneNumber` calls back no more once it has failed, verified the number by
itself or given up waiting for the message.
-/

import FiksOpp.Foundations.EventRun
import FiksOpp.PhoneNumbers

namespace FiksOpp.OtpLogin

open EventRun
open PhoneAuth

structure Verification where
  country : Country
  /-- The text of the field, trimmed. -/
  localNumber : String
  deriving DecidableEq, Repr

def Verification.phoneNumber (verification : Verification) : String :=
  firebasePhoneAuthE164 verification.country.phoneCode verification.localNumber

/-- A credential of a call, by the code the user types or by the call itself. -/
structure PhoneAuthCredential where
  verification : Verification
  isAutomatic : Bool
  deriving DecidableEq, Repr

/-- The request of `_completeBackendOtpLogin`, and the credential it is sent for. -/
structure LoginRequest where
  username : String
  password : String
  credential : PhoneAuthCredential
  deriving DecidableEq, Repr

structure OtpLoginScreen where
  mounted : Bool := true
  numberController : String := ""
  selectedCountry : Country
  /-- Calls of `sendOTP` that wait for `canReachIdentityToolkitHost`. -/
  reaching : ℕ := 0
  otpVerifyInFlight : Bool := false
  /-- The calls of `verifyPhoneNumber` that may call back. -/
  verifications : List Verification := []
  /-- The call the id is of; none where it is empty. -/
  verificationId : Option Verification := none
  isCodeSent : Bool := false
  /-- Credentials that `signInWithCredential` has been given. -/
  signingIn : List PhoneAuthCredential := []
  loggingIn : List LoginRequest := []
  deriving DecidableEq, Repr

inductive OtpEvent where
  | typed (text : String)
  | countrySelected (country : Country)
  /-- The button or the keyboard; `formValid` is the answer of the field's own check. -/
  | sendOTP (formValid : Bool)
  | hostAnswers (reachable : Bool)
  /-- `verifyPhoneNumber` throws or calls `verificationFailed`. -/
  | verificationFailed (index : ℕ)
  | verificationCompleted (index : ℕ)
  | codeSent (index : ℕ) (hasId : Bool)
  | codeAutoRetrievalTimeout (index : ℕ) (hasId : Bool)
  | submitOtp (codeComplete : Bool)
  | signedIn (index : ℕ) (succeeds : Bool)
  /-- Whatever the back end answers, the screen is left. -/
  | loggedIn (index : ℕ)
  | dispose
  deriving DecidableEq, Repr

namespace OtpLoginScreen

/-- The field is there as long as no code has been sent. -/
def typed (screen : OtpLoginScreen) (text : String) : OtpLoginScreen :=
  if screen.mounted && !screen.isCodeSent then { screen with numberController := text }
  else screen

def sendOTP (screen : OtpLoginScreen) (formValid : Bool) : OtpLoginScreen :=
  if screen.mounted && !screen.isCodeSent && formValid &&
      SendScreen.otpLogin.accepts screen.selectedCountry screen.numberController then
    { screen with reaching := screen.reaching + 1 }
  else screen

/-- The number is read after the wait, and was checked before it. -/
def hostAnswers (screen : OtpLoginScreen) (reachable : Bool) : OtpLoginScreen :=
  if screen.reaching = 0 then screen
  else
    let screen := { screen with reaching := screen.reaching - 1 }
    if !reachable || screen.otpVerifyInFlight then screen
    else
      let verification : Verification :=
        { country := screen.selectedCountry
          localNumber := trim screen.numberController }
      { screen with
        otpVerifyInFlight := true
        verifications := screen.verifications ++ [verification] }

def verificationFailed (screen : OtpLoginScreen) (index : ℕ) : OtpLoginScreen :=
  match screen.verifications[index]? with
  | none => screen
  | some _ =>
      { screen with
        verifications := screen.verifications.eraseIdx index
        otpVerifyInFlight := false }

def verificationCompleted (screen : OtpLoginScreen) (index : ℕ) : OtpLoginScreen :=
  match screen.verifications[index]? with
  | none => screen
  | some verification =>
      let screen := { screen with verifications := screen.verifications.eraseIdx index }
      if !screen.mounted then screen
      else
        { screen with
          signingIn :=
            screen.signingIn ++ [{ verification := verification, isAutomatic := true }] }

def codeSent (screen : OtpLoginScreen) (index : ℕ) (hasId : Bool) : OtpLoginScreen :=
  match screen.verifications[index]? with
  | none => screen
  | some verification =>
      { screen with
        otpVerifyInFlight := false
        verificationId := if hasId then some verification else none
        isCodeSent := screen.isCodeSent || hasId }

def codeAutoRetrievalTimeout (screen : OtpLoginScreen) (index : ℕ) (hasId : Bool) :
    OtpLoginScreen :=
  match screen.verifications[index]? with
  | none => screen
  | some verification =>
      let screen := { screen with verifications := screen.verifications.eraseIdx index }
      if screen.verificationId.isNone && hasId then
        { screen with verificationId := some verification, isCodeSent := true }
      else screen

/-- The code belongs to the id that came last; Firebase refuses one without an id. -/
def submitOtp (screen : OtpLoginScreen) (codeComplete : Bool) : OtpLoginScreen :=
  match screen.verificationId with
  | none => screen
  | some verification =>
      if screen.mounted && screen.isCodeSent && codeComplete then
        { screen with
          signingIn :=
            screen.signingIn ++ [{ verification := verification, isAutomatic := false }] }
      else screen

/-- The `finally` of `verificationCompleted`. -/
def release (screen : OtpLoginScreen) (credential : PhoneAuthCredential) : OtpLoginScreen :=
  if credential.isAutomatic then { screen with otpVerifyInFlight := false } else screen

def loginRequest (screen : OtpLoginScreen) (credential : PhoneAuthCredential) : LoginRequest :=
  { username := trim screen.numberController
    password := trim screen.numberController
    credential := credential }

def signedIn (screen : OtpLoginScreen) (index : ℕ) (succeeds : Bool) :
    OtpLoginScreen × List LoginRequest :=
  match screen.signingIn[index]? with
  | none => (screen, [])
  | some credential =>
      let screen := { screen with signingIn := screen.signingIn.eraseIdx index }
      if !succeeds || !screen.mounted then (screen.release credential, [])
      else
        let request := screen.loginRequest credential
        ({ screen with loggingIn := screen.loggingIn ++ [request] }, [request])

def loggedIn (screen : OtpLoginScreen) (index : ℕ) : OtpLoginScreen :=
  match screen.loggingIn[index]? with
  | none => screen
  | some request =>
      { screen with
        loggingIn := screen.loggingIn.eraseIdx index
        mounted := false }.release request.credential

def next (screen : OtpLoginScreen) : OtpEvent → OtpLoginScreen
  | .typed text => screen.typed text
  | .countrySelected country => { screen with selectedCountry := country }
  | .sendOTP formValid => screen.sendOTP formValid
  | .hostAnswers reachable => screen.hostAnswers reachable
  | .verificationFailed index => screen.verificationFailed index
  | .verificationCompleted index => screen.verificationCompleted index
  | .codeSent index hasId => screen.codeSent index hasId
  | .codeAutoRetrievalTimeout index hasId => screen.codeAutoRetrievalTimeout index hasId
  | .submitOtp codeComplete => screen.submitOtp codeComplete
  | .signedIn index succeeds => (screen.signedIn index succeeds).1
  | .loggedIn index => screen.loggedIn index
  | .dispose => { screen with mounted := false }

def outputs (screen : OtpLoginScreen) : OtpEvent → List LoginRequest
  | .signedIn index succeeds => (screen.signedIn index succeeds).2
  | _ => []

end OtpLoginScreen

def machine : Machine OtpLoginScreen OtpEvent LoginRequest :=
  { next := OtpLoginScreen.next
    outputs := OtpLoginScreen.outputs }

/-- A number that can still be the one that is signed in with: of a call that may call back, of
the code that has come, or of a credential that Firebase looks at. -/
def Pending (screen : OtpLoginScreen) (verification : Verification) : Prop :=
  verification ∈ screen.verifications ∨ screen.verificationId = some verification ∨
    ∃ credential ∈ screen.signingIn, credential.verification = verification

def ForField (screen : OtpLoginScreen) : Prop :=
  ∀ verification, Pending screen verification →
    verification.localNumber = trim screen.numberController

/-- The number is not changed while one that stood there is being verified. -/
def Waits (screen : OtpLoginScreen) : OtpEvent → Prop
  | .typed text =>
      screen.mounted = true → screen.isCodeSent = false →
        (∃ verification, Pending screen verification) → trim text = trim screen.numberController
  | _ => True

/-! ### What a step does -/

namespace OtpLoginScreen

variable {screen : OtpLoginScreen} {verification : Verification}

theorem pending_release {credential : PhoneAuthCredential}
    (pending : Pending (screen.release credential) verification) :
    Pending screen verification := by
  unfold release at pending
  split at pending
  · exact pending
  · exact pending

theorem numberController_release (credential : PhoneAuthCredential) :
    (screen.release credential).numberController = screen.numberController := by
  unfold release
  split <;> rfl

theorem pending_hostAnswers {reachable : Bool}
    (pending : Pending (screen.hostAnswers reachable) verification) :
    Pending screen verification ∨
      verification.localNumber = trim screen.numberController := by
  unfold hostAnswers at pending
  split at pending
  · exact Or.inl pending
  · dsimp only at pending
    split at pending
    · exact Or.inl pending
    · rcases pending with called | rest
      · rcases List.mem_append.mp called with old | new
        · exact Or.inl (Or.inl old)
        · rw [List.mem_singleton.mp new]
          exact Or.inr rfl
      · exact Or.inl (Or.inr rest)

theorem pending_verificationFailed {index : ℕ}
    (pending : Pending (screen.verificationFailed index) verification) :
    Pending screen verification := by
  unfold verificationFailed at pending
  cases found : screen.verifications[index]? with
  | none =>
      rw [found] at pending
      exact pending
  | some call =>
      rw [found] at pending
      exact pending.imp_left List.mem_of_mem_eraseIdx

theorem pending_verificationCompleted {index : ℕ}
    (pending : Pending (screen.verificationCompleted index) verification) :
    Pending screen verification := by
  unfold verificationCompleted at pending
  cases found : screen.verifications[index]? with
  | none =>
      rw [found] at pending
      exact pending
  | some call =>
      rw [found] at pending
      dsimp only at pending
      split at pending
      · exact pending.imp_left List.mem_of_mem_eraseIdx
      · rcases pending with called | code | ⟨credential, member, own⟩
        · exact Or.inl (List.mem_of_mem_eraseIdx called)
        · exact Or.inr (Or.inl code)
        · rcases List.mem_append.mp member with old | new
          · exact Or.inr (Or.inr ⟨credential, old, own⟩)
          · rw [List.mem_singleton.mp new] at own
            rw [← own]
            exact Or.inl (List.mem_of_getElem? found)

theorem pending_codeSent {index : ℕ} {hasId : Bool}
    (pending : Pending (screen.codeSent index hasId) verification) :
    Pending screen verification := by
  unfold codeSent at pending
  cases found : screen.verifications[index]? with
  | none =>
      rw [found] at pending
      exact pending
  | some call =>
      rw [found] at pending
      rcases pending with called | code | signing
      · exact Or.inl called
      · cases hasId with
        | true =>
            cases code
            exact Or.inl (List.mem_of_getElem? found)
        | false => cases code
      · exact Or.inr (Or.inr signing)

theorem pending_codeAutoRetrievalTimeout {index : ℕ} {hasId : Bool}
    (pending : Pending (screen.codeAutoRetrievalTimeout index hasId) verification) :
    Pending screen verification := by
  unfold codeAutoRetrievalTimeout at pending
  cases found : screen.verifications[index]? with
  | none =>
      rw [found] at pending
      exact pending
  | some call =>
      rw [found] at pending
      dsimp only at pending
      split at pending
      · rcases pending with called | code | signing
        · exact Or.inl (List.mem_of_mem_eraseIdx called)
        · cases code
          exact Or.inl (List.mem_of_getElem? found)
        · exact Or.inr (Or.inr signing)
      · exact pending.imp_left List.mem_of_mem_eraseIdx

theorem pending_submitOtp {codeComplete : Bool}
    (pending : Pending (screen.submitOtp codeComplete) verification) :
    Pending screen verification := by
  unfold submitOtp at pending
  cases code : screen.verificationId with
  | none =>
      rw [code] at pending
      exact pending
  | some call =>
      rw [code] at pending
      dsimp only at pending
      split at pending
      · rcases pending with called | same | ⟨credential, member, own⟩
        · exact Or.inl called
        · exact Or.inr (Or.inl (code.trans same))
        · rcases List.mem_append.mp member with old | new
          · exact Or.inr (Or.inr ⟨credential, old, own⟩)
          · rw [List.mem_singleton.mp new] at own
            rw [← own]
            exact Or.inr (Or.inl code)
      · exact pending

theorem pending_signedIn {index : ℕ} {succeeds : Bool}
    (pending : Pending (screen.signedIn index succeeds).1 verification) :
    Pending screen verification := by
  unfold signedIn at pending
  cases found : screen.signingIn[index]? with
  | none =>
      rw [found] at pending
      exact pending
  | some credential =>
      rw [found] at pending
      have fewer : Pending { screen with signingIn := screen.signingIn.eraseIdx index }
          verification := by
        dsimp only at pending
        split at pending
        · exact pending_release pending
        · exact pending
      rcases fewer with called | code | ⟨other, member, own⟩
      · exact Or.inl called
      · exact Or.inr (Or.inl code)
      · exact Or.inr (Or.inr ⟨other, List.mem_of_mem_eraseIdx member, own⟩)

theorem pending_loggedIn {index : ℕ}
    (pending : Pending (screen.loggedIn index) verification) : Pending screen verification := by
  unfold loggedIn at pending
  cases found : screen.loggingIn[index]? with
  | none =>
      rw [found] at pending
      exact pending
  | some request =>
      rw [found] at pending
      have kept : Pending { screen with
          loggingIn := screen.loggingIn.eraseIdx index
          mounted := false } verification := pending_release pending
      exact kept

theorem numberController_next {event : OtpEvent} (other : ∀ text, event ≠ .typed text) :
    (screen.next event).numberController = screen.numberController := by
  cases event with
  | typed text => exact absurd rfl (other text)
  | countrySelected country => rfl
  | sendOTP formValid =>
      change (screen.sendOTP formValid).numberController = _
      unfold sendOTP
      split <;> rfl
  | hostAnswers reachable =>
      change (screen.hostAnswers reachable).numberController = _
      unfold hostAnswers
      split
      · rfl
      · dsimp only
        split <;> rfl
  | verificationFailed index =>
      change (screen.verificationFailed index).numberController = _
      unfold verificationFailed
      split <;> rfl
  | verificationCompleted index =>
      change (screen.verificationCompleted index).numberController = _
      unfold verificationCompleted
      split
      · rfl
      · dsimp only
        split <;> rfl
  | codeSent index hasId =>
      change (screen.codeSent index hasId).numberController = _
      unfold codeSent
      split <;> rfl
  | codeAutoRetrievalTimeout index hasId =>
      change (screen.codeAutoRetrievalTimeout index hasId).numberController = _
      unfold codeAutoRetrievalTimeout
      split
      · rfl
      · dsimp only
        split <;> rfl
  | submitOtp codeComplete =>
      change (screen.submitOtp codeComplete).numberController = _
      unfold submitOtp
      split
      · rfl
      · split <;> rfl
  | signedIn index succeeds =>
      change (screen.signedIn index succeeds).1.numberController = _
      unfold signedIn
      split
      · rfl
      · dsimp only
        split
        · exact numberController_release _
        · rfl
  | loggedIn index =>
      change (screen.loggedIn index).numberController = _
      unfold loggedIn
      split
      · rfl
      · exact numberController_release _
  | dispose => rfl

/-- A step other than typing brings no number under way but the one in the field. -/
theorem pending_next {event : OtpEvent} (other : ∀ text, event ≠ .typed text)
    (pending : Pending (screen.next event) verification) :
    Pending screen verification ∨ verification.localNumber = trim screen.numberController := by
  cases event with
  | typed text => exact absurd rfl (other text)
  | countrySelected country => exact Or.inl pending
  | sendOTP formValid =>
      change Pending (screen.sendOTP formValid) verification at pending
      unfold sendOTP at pending
      split at pending
      · exact Or.inl pending
      · exact Or.inl pending
  | hostAnswers reachable => exact pending_hostAnswers pending
  | verificationFailed index => exact Or.inl (pending_verificationFailed pending)
  | verificationCompleted index => exact Or.inl (pending_verificationCompleted pending)
  | codeSent index hasId => exact Or.inl (pending_codeSent pending)
  | codeAutoRetrievalTimeout index hasId => exact Or.inl (pending_codeAutoRetrievalTimeout pending)
  | submitOtp codeComplete => exact Or.inl (pending_submitOtp pending)
  | signedIn index succeeds => exact Or.inl (pending_signedIn pending)
  | loggedIn index => exact Or.inl (pending_loggedIn pending)
  | dispose => exact Or.inl pending

theorem mem_outputs {event : OtpEvent} {request : LoginRequest}
    (member : request ∈ screen.outputs event) :
    ∃ credential ∈ screen.signingIn, request = screen.loginRequest credential := by
  cases event with
  | signedIn index succeeds =>
      change request ∈ (screen.signedIn index succeeds).2 at member
      unfold signedIn at member
      cases found : screen.signingIn[index]? with
      | none =>
          rw [found] at member
          cases member
      | some credential =>
          rw [found] at member
          dsimp only at member
          split at member
          · cases member
          · rw [List.mem_singleton.mp member]
            exact ⟨credential, List.mem_of_getElem? found, rfl⟩
  | _ => cases member

end OtpLoginScreen

/-! ### Runs -/

open OtpLoginScreen

theorem forField_typed_iff {screen : OtpLoginScreen} (fits : ForField screen) (text : String) :
    ForField (screen.typed text) ↔ Waits screen (.typed text) := by
  unfold typed
  split
  · rename_i shown
    rw [Bool.and_eq_true, Bool.not_eq_true'] at shown
    constructor
    · rintro moved - - ⟨verification, pending⟩
      exact (moved verification pending).symm.trans (fits verification pending)
    · intro waits verification pending
      exact (fits verification pending).trans
        (waits shown.1 shown.2 ⟨verification, pending⟩).symm
  · rename_i hidden
    refine iff_of_true fits ?_
    intro mounted unsent
    rw [mounted, unsent] at hidden
    exact absurd rfl hidden

theorem forField_next_iff (screen : OtpLoginScreen) (event : OtpEvent)
    (fits : ForField screen) : ForField (screen.next event) ↔ Waits screen event := by
  by_cases typing : ∃ text, event = .typed text
  · obtain ⟨text, rfl⟩ := typing
    exact forField_typed_iff fits text
  · have other : ∀ text, event ≠ .typed text := fun text same => typing ⟨text, same⟩
    refine iff_of_true ?_ ?_
    · intro verification pending
      rw [numberController_next other]
      exact (pending_next other pending).elim (fits verification) id
    · cases event with
      | typed text => exact absurd rfl (other text)
      | _ => trivial

/-- In every order of typing, taps, answers and callbacks, with any number of calls under way:
all that is being verified is the number in the field, in every state, exactly when the number
is never changed while one is being verified; and then every request to the back end names the
number whose code was accepted. -/
theorem otp_login_names_verified (country : Country) (events : List OtpEvent) :
    (machine.Every (fun screen event => ForField (screen.next event))
        { selectedCountry := country } events ↔
      machine.Every Waits { selectedCountry := country } events) ∧
    (machine.Every Waits { selectedCountry := country } events →
      ∀ request ∈ machine.trace { selectedCountry := country } events,
        request.username = request.credential.verification.localNumber ∧
          request.credential.verification.phoneNumber =
            firebasePhoneAuthE164 request.credential.verification.country.phoneCode
              request.username) := by
  have opened : ForField { selectedCountry := country } := by
    rintro verification (called | code | ⟨credential, member, -⟩)
    · cases called
    · cases code
    · cases member
  constructor
  · exact machine.every_next_iff ForField forField_next_iff opened
  · intro waits
    rw [machine.forall_trace_iff]
    apply machine.every_of_invariant ForField ?_ opened waits
    intro screen event fits here
    refine ⟨(forField_next_iff screen event fits).mpr here, ?_⟩
    intro request member
    obtain ⟨credential, signing, rfl⟩ := mem_outputs member
    have same : credential.verification.localNumber = trim screen.numberController :=
      fits credential.verification (Or.inr (Or.inr ⟨credential, signing, rfl⟩))
    refine ⟨same.symm, ?_⟩
    change firebasePhoneAuthE164 _ credential.verification.localNumber = _
    rw [same]
    rfl

/-- A number typed while the message is on its way is the one that is signed in with. -/
theorem typed_meanwhile_is_named {country : Country} {text : String}
    (accepted : SendScreen.otpLogin.accepts country text = true) (other : String) :
    machine.trace { selectedCountry := country }
        [.typed text, .sendOTP true, .hostAnswers true, .typed other, .codeSent 0 true,
          .submitOtp true, .signedIn 0 true] =
      [{ username := trim other
         password := trim other
         credential :=
           { verification := { country := country, localNumber := trim text }
             isAutomatic := false } }] := by
  have types : machine.next { selectedCountry := country } (.typed text) =
      { selectedCountry := country, numberController := text } := rfl
  have taps : machine.next { selectedCountry := country, numberController := text }
      (.sendOTP true) =
        { selectedCountry := country, numberController := text, reaching := 1 } := by
    change OtpLoginScreen.sendOTP _ true = _
    unfold sendOTP
    rw [accepted]
    rfl
  rw [Machine.trace, types, Machine.trace, taps]
  rfl

end FiksOpp.OtpLogin
