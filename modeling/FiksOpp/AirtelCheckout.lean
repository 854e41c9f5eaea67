/-
A Submit of the Airtel dialog against every server.

The dialog asks for a token, then for the collection, then up to thirty times for the
status, each time with a fresh token; all of it goes through one HTTP helper.
-/

import FiksOpp.GatewayAttempts

namespace FiksOpp.Gateway

def AIRTEL_COUNTRY_CODE : String := "MW"

structure ExtraKeys where
  accessToken : String
  country : String
  currency : String
  deriving DecidableEq, Repr

inductive HelperError where
  /-- `extraKeys!` of nothing. -/
  | nullCheck
  | errorInternetNotAvailable
  deriving DecidableEq, Repr

/-- The helper, up to the answer of the server. -/
def airtelPayBuildHttpResponse {α : Type*} (isNetworkAvailable : Bool)
    (extraKeys : Option ExtraKeys) (response : α) : Except HelperError α :=
  if isNetworkAvailable then
    match extraKeys with
    | none => .error .nullCheck
    | some _ => .ok response
  else .error .errorInternetNotAvailable

inductive Endpoint where
  | token (call : ℕ)
  | payment
  | status (call : ℕ)
  deriving DecidableEq, Repr

structure Server where
  isNetworkAvailable : Endpoint → Bool
  token : ℕ → String
  payment : AirtelPaymentResponse
  status : ℕ → AirtelPaymentResponse

namespace Server

variable (server : Server) (store : AppConfigurationStore)

def extraKeys (accessToken : String) : ExtraKeys :=
  { accessToken := accessToken
    country := AIRTEL_COUNTRY_CODE
    currency := paymentGatewayCurrencyCode store }

/-- The only caller of the helper that leaves `extraKeys` out. -/
def authorizeAirtelClient (call : ℕ) : Except HelperError String :=
  airtelPayBuildHttpResponse (server.isNetworkAvailable (.token call)) none (server.token call)

def paymentAirtelClient (accessToken : String) : Except HelperError AirtelPaymentResponse :=
  airtelPayBuildHttpResponse (server.isNetworkAvailable .payment)
    (some (extraKeys store accessToken)) server.payment

def statusRequest (call : ℕ) : Except HelperError AirtelPaymentResponse :=
  (server.authorizeAirtelClient (call + 1)).bind fun accessToken =>
    airtelPayBuildHttpResponse (server.isNetworkAvailable (.status call))
      (some (extraKeys store accessToken)) (server.status call)

def session (uuid : String) : AirtelSession where
  uuid := uuid
  formValid := true
  authorised := (server.authorizeAirtelClient 0).isOk
  payment := ((server.authorizeAirtelClient 0).bind (server.paymentAirtelClient store)).toOption
  statusAnswers := fun call => (server.statusRequest store call).toOption

end Server

def AirtelSession.statusRequests (session : AirtelSession) : ℕ :=
  if session.formValid && session.authorised &&
      session.payment.any fun value => value.hasCode .inProcess then
    (checkAirtelPaymentStatus session.statusAnswers 30 0).1.length
  else 0

/-- A success among the first answers, and only IN_PROCESS before it. -/
def SucceedsWithin (status : ℕ → AirtelPaymentResponse) (limit : ℕ) : Prop :=
  ∃ call, call < limit ∧ (status call).hasCode .success = true ∧
    ∀ earlier, earlier < call → (status earlier).hasCode .inProcess = true

structure ChecksOut {κ : Type*} (status : ℕ → AirtelPaymentResponse) (session : AirtelSession)
    (onComplete : κ) (reaction : Reaction κ) : Prop where
  bounded : session.statusRequests ≤ 30
  completes : (∃ payload, reaction = .invoke onComplete payload) ↔ SucceedsWithin status 30
  returns : ∀ error, reaction ≠ .throws error

theorem succeedsWithin_succ_iff (status : ℕ → AirtelPaymentResponse) (limit : ℕ) :
    SucceedsWithin status (limit + 1) ↔
      (status 0).hasCode .success = true ∨
        ((status 0).hasCode .inProcess = true ∧
          SucceedsWithin (fun call => status (call + 1)) limit) := by
  constructor
  · rintro ⟨call, within, success, waiting⟩
    cases call with
    | zero => exact Or.inl success
    | succ call =>
        right
        refine ⟨waiting 0 (Nat.succ_pos call), call, by omega, success, ?_⟩
        intro earlier before
        exact waiting (earlier + 1) (by omega)
  · rintro (success | ⟨pending, call, within, success, waiting⟩)
    · exact ⟨0, Nat.succ_pos limit, success, fun earlier before => absurd before (by omega)⟩
    · refine ⟨call + 1, by omega, success, ?_⟩
      intro earlier before
      cases earlier with
      | zero => exact pending
      | succ earlier => exact waiting earlier (by omega)

/-- Where every status request is answered, the polling returns, and returns true exactly
for a success after nothing but IN_PROCESS. -/
theorem checkAirtelPaymentStatus_answered (status : ℕ → AirtelPaymentResponse)
    (maxApiCallCount asked : ℕ) :
    (checkAirtelPaymentStatus (fun call => some (status call)) maxApiCallCount asked).2 ≠ none ∧
      ((checkAirtelPaymentStatus (fun call => some (status call)) maxApiCallCount asked).2 =
          some true ↔
        SucceedsWithin (fun call => status (asked + call)) maxApiCallCount) := by
  have failed : some false ≠ some true :=
    fun impossible => Bool.false_ne_true (Option.some.inj impossible)
  induction maxApiCallCount generalizing asked with
  | zero =>
      refine ⟨Option.some_ne_none false, iff_of_false failed ?_⟩
      rintro ⟨call, within, _⟩
      exact absurd within (Nat.not_lt_zero call)
  | succ maxApiCallCount ih =>
      have shift : (fun call => status (asked + (call + 1))) =
          fun call => status (asked + 1 + call) := by
        funext call
        congr 1
        omega
      rw [succeedsWithin_succ_iff, Nat.add_zero, shift, checkAirtelPaymentStatus]
      dsimp only
      by_cases success : (status asked).hasCode .success = true
      · rw [if_pos success]
        exact ⟨Option.some_ne_none true, iff_of_true rfl (Or.inl success)⟩
      rw [if_neg success]
      by_cases waiting : (status asked).hasCode .inProcess = true
      · rw [if_pos waiting]
        obtain ⟨returns, completes⟩ := ih (asked + 1)
        refine ⟨returns, completes.trans ?_⟩
        simp [success, waiting]
      · rw [if_neg waiting]
        refine ⟨Option.some_ne_none false, iff_of_false failed ?_⟩
        simp [success, waiting]

theorem authorised_checksOut {κ : Type*} (status : ℕ → AirtelPaymentResponse)
    (payment : AirtelPaymentResponse) (pending : payment.hasCode .inProcess = true)
    (uuid : String) (bookingId : ℤ) (onComplete : κ) :
    let session : AirtelSession :=
      { uuid := uuid
        formValid := true
        authorised := true
        payment := some payment
        statusAnswers := fun call => some (status call) }
    ChecksOut status session onComplete
      (AirtelMoneyDialog.handleClick onComplete bookingId session) := by
  intro session
  have polled := checkAirtelPaymentStatus_answered status 30 0
  simp only [Nat.zero_add] at polled
  obtain ⟨returns, completes⟩ := polled
  obtain ⟨isSuccess, ended⟩ := Option.ne_none_iff_exists'.mp returns
  rw [ended, Option.some_inj] at completes
  have clicked : AirtelMoneyDialog.handleClick onComplete bookingId session =
      if isSuccess then
        .invoke onComplete [("transaction_id", some (session.transactionId bookingId))]
      else .quiet := by
    simp [AirtelMoneyDialog.handleClick, session, pending, ended]
  refine ⟨?_, ?_, ?_⟩
  · unfold AirtelSession.statusRequests
    split
    · exact checkAirtelPaymentStatus_length_le _ 30 0
    · exact Nat.zero_le 30
  · rw [clicked, ← completes]
    cases isSuccess with
    | false => simp
    | true => simp
  · intro error
    rw [clicked]
    cases isSuccess with
    | false => simp
    | true => simp

/-! ### The Submit -/

theorem isOk_authorizeAirtelClient (server : Server) (call : ℕ) :
    (server.authorizeAirtelClient call).isOk = false := by
  unfold Server.authorizeAirtelClient airtelPayBuildHttpResponse
  cases server.isNetworkAvailable (.token call) with
  | true => rfl
  | false => rfl

/-- Whatever the servers answer, a Submit with a valid form throws at its first token. -/
theorem submit_never_checksOut {κ : Type*} (server : Server) (store : AppConfigurationStore)
    (uuid : String) (bookingId : ℤ) (onComplete : κ) :
    ¬ ChecksOut server.status (server.session store uuid) onComplete
      (AirtelMoneyDialog.handleClick onComplete bookingId (server.session store uuid)) := by
  intro checksOut
  refine checksOut.returns (.gateway "authorizeAirtelClient") ?_
  have unauthorised : (server.session store uuid).authorised = false :=
    isOk_authorizeAirtelClient server 0
  unfold AirtelMoneyDialog.handleClick
  rw [unauthorised]
  rfl

/-- A token, a collection in process, and a success at the first status request. -/
theorem submit_throws_with_token :
    ¬ ∀ (server : Server) (store : AppConfigurationStore) (uuid : String) (bookingId : ℤ)
        (onComplete : Unit),
      (∀ endpoint, server.isNetworkAvailable endpoint = true) →
        server.payment.hasCode .inProcess = true →
          (∀ call, ∃ code, (server.status call).hasCode code = true) →
            ChecksOut server.status (server.session store uuid) onComplete
              (AirtelMoneyDialog.handleClick onComplete bookingId
                (server.session store uuid)) := by
  intro always
  have checksOut := always
    { isNetworkAvailable := fun _ => true
      token := fun _ => "token"
      payment := ⟨some ⟨some .inProcess⟩⟩
      status := fun _ => ⟨some ⟨some .success⟩⟩ }
    { currencyCode := "MWK", priceDecimalPoint := 2 } "uuid" 7 () (fun _ => rfl) rfl
    (fun _ => ⟨.success, rfl⟩)
  exact checksOut.returns (.gateway "authorizeAirtelClient") rfl

end FiksOpp.Gateway
