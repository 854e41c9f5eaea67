/-
Payment attempts: a running gateway service and the answers it receives.

A service is opened for one gateway with one callback; every answer of the
gateway may report a success and makes the service react.  The first sections
are generic in the callback, the last one is `PaymentScreen`, whose callback
calls `savePay`.
-/

import FiksOpp.GatewayServices
import FiksOpp.PaymentScreen

namespace FiksOpp.Gateway

open EventRun
open Payment

inductive OnlineGateway where
  | stripe
  | razor
  | flutterWave
  | cinetPay
  | sadadPayment
  | payPal
  | airtel
  | payStack
  | midtrans
  | phonePe
  deriving DecidableEq, Repr

def OnlineGateway.type : OnlineGateway → PaymentMethod
  | .stripe => .stripe
  | .razor => .razor
  | .flutterWave => .flutterWave
  | .cinetPay => .cinetPay
  | .sadadPayment => .sadadPayment
  | .payPal => .payPal
  | .airtel => .airtel
  | .payStack => .payStack
  | .midtrans => .midtrans
  | .phonePe => .phonePe

inductive Service (κ : Type*) where
  | stripe (service : StripeServiceNew κ)
  | razor (service : RazorPayServiceNew κ)
  | flutterWave (totalAmount : ℚ) (onComplete : κ)
  | cinetPay (service : CinetPayServicesNew κ)
  | sadadPayment (service : SadadServicesNew κ)
  | payPal (paymentSetting : PaymentSetting) (totalAmount : ℚ) (onComplete : κ)
  | airtel (amount : ℚ) (bookingId : ℤ) (onComplete : κ)
  | payStack (service : PayStackService κ)
  | midtrans (service : MidtransService κ)
  | phonePe (initialised : Bool) (service : PhonePeServices κ)

inductive Answer where
  | stripe (session : StripeSession)
  | razor (event : RazorPayEvent)
  | flutterWave (session : FlutterwaveSession)
  | cinetPay (event : CinetPayEvent)
  | sadadPayment (session : SadadSession)
  | payPal (event : PayPalEvent)
  | airtel (session : AirtelSession)
  | midtrans (finished : Option String)
  | phonePe (userId : ℤ) (tap : PhonePeTap)

/-- What a click knows beside the amount: configuration, the chosen setting,
the ids it passes on, and what the random source and the SDK answer. -/
structure ClickContext where
  store : AppConfigurationStore
  paymentSetting : PaymentSetting
  topUpWallet : String
  airtelBookingId : ℤ
  phonePeBookingId : ℤ
  serviceId : Option ℤ := none
  servicePrice : Option ℚ := none
  serviceName : Option String := none
  random : ℕ
  phonePeInitialised : Bool

def cinetPayCurrencies : List String := ["XOF", "XAF", "CDF", "GNF", "USD"]

def cinetPayAccepts (store : AppConfigurationStore) (totalAmount : ℚ) : Bool :=
  cinetPayCurrencies.contains store.currencyCode && !decide (totalAmount < 100) &&
    !decide (totalAmount > 1500000)

section Generic

variable {κ : Type*}

/-- The gateway branch of a click; `none` when the branch returns before it
creates a service. -/
def openService (click : ClickContext) (totalAmount : ℚ) (onComplete : κ) :
    OnlineGateway → Option (Service κ)
  | .stripe => some (.stripe (.new click.paymentSetting totalAmount onComplete))
  | .razor => some (.razor (.new click.paymentSetting totalAmount onComplete))
  | .flutterWave => some (.flutterWave totalAmount onComplete)
  | .cinetPay =>
      if cinetPayAccepts click.store totalAmount then
        some (.cinetPay (.new click.paymentSetting totalAmount onComplete click.random))
      else none
  | .sadadPayment =>
      some (.sadadPayment (.new click.paymentSetting totalAmount click.topUpWallet onComplete))
  | .payPal => some (.payPal click.paymentSetting totalAmount onComplete)
  | .airtel => some (.airtel totalAmount click.airtelBookingId onComplete)
  | .payStack => some (.payStack (.init totalAmount click.airtelBookingId onComplete))
  | .midtrans =>
      some (.midtrans ( MidtransService.initialize {} click.paymentSetting totalAmount
        click.serviceId click.servicePrice click.serviceName onComplete))
  | .phonePe =>
      some (.phonePe click.phonePeInitialised
        (.new click.paymentSetting totalAmount click.phonePeBookingId onComplete))

/-- An SDK that was not opened, or an answer of another gateway, has no handler. -/
def Service.react : Service κ → Answer → Service κ × Reaction κ
  | .stripe service, .stripe session => (.stripe service, service.stripePay session)
  | .razor service, .razor event =>
      (.razor service, if service.opens then service.handle event else .quiet)
  | .flutterWave totalAmount onComplete, .flutterWave session =>
      (.flutterWave totalAmount onComplete, FlutterWaveServiceNew.checkout onComplete session)
  | .cinetPay service, .cinetPay event => (.cinetPay service, service.handle event)
  | .sadadPayment service, .sadadPayment session =>
      (.sadadPayment service, service.payWithSadad session)
  | .payPal paymentSetting totalAmount onComplete, .payPal event =>
      (.payPal paymentSetting totalAmount onComplete,
        if PayPalService.opens paymentSetting then PayPalService.handle onComplete event
        else .quiet)
  | .airtel amount bookingId onComplete, .airtel session =>
      (.airtel amount bookingId onComplete,
        AirtelMoneyDialog.handleClick onComplete bookingId session)
  | .midtrans service, .midtrans finished =>
      (.midtrans service,
        match service.midtransPaymentCheckout with
        | .error error => .throws error
        | .ok _ => service.callback finished)
  | .phonePe initialised service, .phonePe userId tap =>
      if initialised then
        let handled := service.handlePayClick userId tap
        (.phonePe initialised handled.1, handled.2)
      else (.phonePe initialised service, .quiet)
  | service, _ => (service, .quiet)

/-- The transaction id of the success that an answer reports, if it does.  Only
a gateway that was really asked reports anything. -/
def Service.reported : Service κ → Answer → Option String
  | .stripe service, .stripe session =>
      if service.hasKeys && session.settingsApplied && session.sheetInitialised &&
          session.isMounted then
        match session.intent, session.sheet with
        | .created id clientSecret, .completed =>
            if (validateText clientSecret).isEmpty then none else some id
        | _, _ => none
      else none
  | .razor service, .razor (.paymentSuccess paymentId _ _) =>
      if service.opens then some paymentId else none
  | .flutterWave _ _, .flutterWave session =>
      session.charge.bind fun value =>
        if value.success.getD false then some (validateText value.transactionId) else none
  | .cinetPay service, .cinetPay (.waitResponse status) =>
      if status = some "ACCEPTED" then some service.transactionId else none
  | .sadadPayment service, .sadadPayment session =>
      if service.hasKeys && session.accessToken.isSome && session.shareUrl.isSome then
        session.webViewResult.filter (fun result => !result.isEmpty)
      else none
  | .payPal paymentSetting _ _, .payPal (.onSuccess _ id) =>
      if PayPalService.opens paymentSetting then some id else none
  | .airtel _ bookingId _, .airtel session =>
      if session.formValid && session.authorised then
        session.payment.bind fun value =>
          if value.hasCode .success ||
              (value.hasCode .inProcess &&
                (checkAirtelPaymentStatus session.statusAnswers 30 0).1.any
                  (fun res => res.hasCode .success)) then
            some (session.transactionId bookingId)
          else none
      else none
  | .midtrans service, .midtrans finished =>
      match service.midtransPaymentCheckout with
      | .error _ => none
      | .ok _ => finished
  | .phonePe initialised service, .phonePe userId tap =>
      if initialised && tap.transactionStatus == some "SUCCESS" then
        (service.prepare userId tap).body.map PhonePeBody.merchantTransactionId
      else none
  | _, _ => none

def forwards : OnlineGateway → Answer → Bool
  | .cinetPay, _ => false
  | .sadadPayment, _ => false
  | .flutterWave, .flutterWave session => session.verifyStatus == some "success"
  | .airtel, .airtel session => !session.payment.any (fun value => value.hasCode .success)
  | _, _ => true

/-! ### What one answer does -/

def Reaction.invocation : Reaction κ → Option (κ × Payload)
  | .invoke callback payload => some (callback, payload)
  | _ => none

def successPayload : Answer → String → Payload
  | .razor (.paymentSuccess _ orderId signature), txnId =>
      [("orderId", orderId), ("paymentId", some txnId), ("signature", signature)]
  | _, txnId => [("transaction_id", some txnId)]

/-- The service belongs to the gateway and holds the callback, unless its class
never stores one. -/
def Wired (callback : κ) : OnlineGateway → Service κ → Prop
  | .stripe, .stripe service => service.onComplete = some callback
  | .razor, .razor service => service.onComplete = some callback
  | .flutterWave, .flutterWave _ onComplete => onComplete = callback
  | .cinetPay, .cinetPay service => service.onComplete = none
  | .sadadPayment, .sadadPayment service => service.onComplete = none
  | .payPal, .payPal _ _ onComplete => onComplete = callback
  | .airtel, .airtel _ _ onComplete => onComplete = callback
  | .payStack, .payStack _ => True
  | .midtrans, .midtrans service => service.currentPaymentMethod = none
  | .phonePe, .phonePe _ service =>
      service.onComplete = some callback ∧
        ∀ body, service.body = some body → body.merchantTransactionId = service.txnId
  | _, _ => False

theorem openService_wired {click : ClickContext} {totalAmount : ℚ} {callback : κ}
    {gateway : OnlineGateway} {service : Service κ}
    (opened : openService click totalAmount callback gateway = some service) :
    Wired callback gateway service := by
  cases gateway with
  | cinetPay =>
      rw [openService] at opened
      split at opened
      · cases opened
        rfl
      · cases opened
  | payStack =>
      cases opened
      trivial
  | phonePe =>
      cases opened
      refine ⟨rfl, ?_⟩
      intro body missing
      cases missing
  | _ =>
      cases opened
      rfl

theorem prepare_onComplete (service : PhonePeServices κ) (userId : ℤ) (tap : PhonePeTap) :
    (service.prepare userId tap).onComplete = service.onComplete := by
  unfold PhonePeServices.prepare
  cases tap.payType with
  | none => rfl
  | some payType => exact createBodyAndCheckSum_onComplete service userId tap.random payType

/-- The body always carries the transaction id that a success is recorded with. -/
theorem prepare_coherent {service : PhonePeServices κ} (userId : ℤ) (tap : PhonePeTap)
    (coherent : ∀ body, service.body = some body →
      body.merchantTransactionId = service.txnId) :
    ∀ body, (service.prepare userId tap).body = some body →
      body.merchantTransactionId = (service.prepare userId tap).txnId := by
  intro body found
  unfold PhonePeServices.prepare at found ⊢
  cases chosen : tap.payType with
  | none =>
      rw [chosen] at found
      exact coherent body found
  | some payType =>
      rw [chosen] at found
      exact createBodyAndCheckSum_coherent found

theorem handlePayClick_service (service : PhonePeServices κ) (userId : ℤ) (tap : PhonePeTap) :
    (service.handlePayClick userId tap).1 = service.prepare userId tap := by
  unfold PhonePeServices.handlePayClick
  dsimp only
  split
  · rfl
  · split <;> rfl

theorem react_wired {callback : κ} {gateway : OnlineGateway} {service : Service κ}
    (wired : Wired callback gateway service) (answer : Answer) :
    Wired callback gateway (service.react answer).1 := by
  cases gateway <;> cases service <;> first | exact wired.elim | skip
  case phonePe.phonePe initialised service =>
    cases answer with
    | phonePe userId tap =>
        cases initialised with
        | false => exact wired
        | true =>
            obtain ⟨stored, coherent⟩ := wired
            change Wired callback .phonePe
              (.phonePe true (service.handlePayClick userId tap).1)
            rw [handlePayClick_service]
            exact ⟨(prepare_onComplete service userId tap).trans stored,
              prepare_coherent userId tap coherent⟩
    | _ => exact wired
  all_goals
    cases answer <;> exact wired

theorem stripe_invocation {callback : κ} {service : StripeServiceNew κ}
    (stored : service.onComplete = some callback) (session : StripeSession) :
    (service.stripePay session).invocation =
      ((Service.stripe service).reported (.stripe session)).map
        (fun txnId => (callback, [("transaction_id", some txnId)])) := by
  unfold StripeServiceNew.stripePay
  rw [Service.reported, stored]
  cases service.hasKeys with
  | false => rfl
  | true =>
      obtain ⟨settingsApplied, intent, sheetInitialised, isMounted, sheet⟩ := session
      cases settingsApplied with
      | false => rfl
      | true =>
          cases intent with
          | failed message => cases sheetInitialised <;> cases isMounted <;> rfl
          | created id clientSecret =>
              cases sheet with
              | stripeException message =>
                  dsimp only
                  cases (validateText clientSecret).isEmpty <;> cases sheetInitialised <;>
                    cases isMounted <;> rfl
              | completed =>
                  dsimp only
                  cases (validateText clientSecret).isEmpty <;> cases sheetInitialised <;>
                    cases isMounted <;> rfl

theorem sadad_invocation {service : SadadServicesNew κ} (missing : service.onComplete = none)
    (session : SadadSession) : (service.payWithSadad session).invocation = none := by
  unfold SadadServicesNew.payWithSadad
  cases service.hasKeys with
  | false => rfl
  | true =>
      cases session.accessToken with
      | none => rfl
      | some accessToken =>
          unfold SadadServicesNew.createInvoice
          rw [missing]
          cases session.shareUrl with
          | none => rfl
          | some shareUrl =>
              by_cases closed : (validateText session.webViewResult).isEmpty = true
              · dsimp only
                rw [if_pos closed]
                rfl
              · dsimp only
                rw [if_neg closed]
                rfl

theorem hasCode_inProcess_of_success {response : AirtelPaymentResponse}
    (success : response.hasCode .success = true) : response.hasCode .inProcess = false := by
  unfold AirtelPaymentResponse.hasCode at success ⊢
  cases found : response.status with
  | none =>
      rw [found] at success
      cases success
  | some status =>
      rw [found] at success
      change (status.responseCode == some .success) = true at success
      change (status.responseCode == some .inProcess) = false
      rw [eq_of_beq success]
      rfl

/-- The polling loop ends well exactly when one of the answers it was given is
a success, however many calls it has left. -/
theorem checkAirtelPaymentStatus_success_iff
    (answers : ℕ → Option AirtelPaymentResponse) (maxApiCallCount asked : ℕ) :
    (checkAirtelPaymentStatus answers maxApiCallCount asked).2 = some true ↔
      (checkAirtelPaymentStatus answers maxApiCallCount asked).1.any
        (fun res => res.hasCode .success) = true := by
  induction maxApiCallCount generalizing asked with
  | zero =>
      unfold checkAirtelPaymentStatus
      constructor
      · intro impossible
        cases impossible
      · intro impossible
        cases impossible
  | succ maxApiCallCount ih =>
      rw [checkAirtelPaymentStatus]
      cases given : answers asked with
      | none =>
          constructor
          · intro impossible
            cases impossible
          · intro impossible
            cases impossible
      | some res =>
          dsimp only
          by_cases success : res.hasCode .success = true
          · rw [if_pos success]
            simp only [List.any_cons, success, Bool.true_or]
          · rw [if_neg success]
            have failed : res.hasCode .success = false := Bool.not_eq_true _ ▸ success
            by_cases waiting : res.hasCode .inProcess = true
            · rw [if_pos waiting, List.any_cons, failed, Bool.false_or]
              exact ih (asked + 1)
            · rw [if_neg waiting]
              simp only [List.any_cons, failed, List.any_nil, Bool.or_self,
                Option.some.injEq, Bool.false_eq_true]

theorem checkAirtelPaymentStatus_length_le
    (answers : ℕ → Option AirtelPaymentResponse) (maxApiCallCount asked : ℕ) :
    (checkAirtelPaymentStatus answers maxApiCallCount asked).1.length ≤ maxApiCallCount := by
  induction maxApiCallCount generalizing asked with
  | zero => exact Nat.le_refl 0
  | succ maxApiCallCount ih =>
      rw [checkAirtelPaymentStatus]
      cases answers asked with
      | none => exact Nat.zero_le _
      | some res =>
          dsimp only
          have later := ih (asked + 1)
          split
          · simp only [List.length_singleton]
            omega
          · split
            · simp only [List.length_cons]
              omega
            · simp only [List.length_singleton]
              omega

theorem airtel_invocation (callback : κ) (amount : ℚ) (bookingId : ℤ)
    (session : AirtelSession) :
    (AirtelMoneyDialog.handleClick callback bookingId session).invocation =
      if forwards .airtel (.airtel session) then
        ((Service.airtel amount bookingId callback).reported (.airtel session)).map
          (fun txnId => (callback, [("transaction_id", some txnId)]))
      else none := by
  unfold AirtelMoneyDialog.handleClick
  rw [Service.reported, forwards]
  cases session.formValid with
  | false => exact (ite_self _).symm
  | true =>
      cases session.authorised with
      | false => exact (ite_self _).symm
      | true =>
          cases session.payment with
          | none => rfl
          | some value =>
              by_cases success : value.hasCode .success = true
              · have settled := hasCode_inProcess_of_success success
                simp only [Option.any_some, success, settled]
                rfl
              · have pending : value.hasCode .success = false := Bool.not_eq_true _ ▸ success
                have polled := checkAirtelPaymentStatus_success_iff session.statusAnswers 30 0
                simp only [Option.any_some, pending, Option.bind_some, Bool.not_false,
                  if_true, Bool.not_true, Bool.false_eq_true, if_false, Bool.and_self,
                  Bool.false_or]
                cases value.hasCode .inProcess with
                | false => rfl
                | true =>
                    rw [Bool.true_and]
                    by_cases found : (checkAirtelPaymentStatus session.statusAnswers 30 0).1.any
                        (fun res => res.hasCode .success) = true
                    · rw [polled.mpr found, found]
                      rfl
                    · have noSuccess := fun ended => found (polled.mp ended)
                      rw [Bool.not_eq_true] at found
                      rw [found]
                      cases ended : (checkAirtelPaymentStatus session.statusAnswers 30 0).2 with
                      | none => rfl
                      | some isSuccess =>
                          cases isSuccess with
                          | false => rfl
                          | true => exact absurd ended noSuccess

theorem phonePe_invocation {callback : κ} {service : PhonePeServices κ}
    (stored : service.onComplete = some callback)
    (coherent : ∀ body, service.body = some body →
      body.merchantTransactionId = service.txnId) (userId : ℤ) (tap : PhonePeTap) :
    (service.handlePayClick userId tap).2.invocation =
      ((Service.phonePe true service).reported (.phonePe userId tap)).map
        (fun txnId => (callback, [("transaction_id", some txnId)])) := by
  have sameBody := prepare_coherent userId tap coherent
  have kept := prepare_onComplete service userId tap
  unfold PhonePeServices.handlePayClick
  rw [Service.reported]
  dsimp only
  cases found : (service.prepare userId tap).body with
  | none =>
      rw [Option.map_none, ite_self]
      rfl
  | some body =>
      have same := sameBody body found
      by_cases success : tap.transactionStatus = some "SUCCESS"
      · rw [success, kept, stored, Option.map_some, same]
        rfl
      · have refused : (tap.transactionStatus == some "SUCCESS") = false :=
          beq_false_of_ne success
        rw [refused]
        dsimp only
        rw [if_neg success]
        rfl

theorem razor_invocation {callback : κ} {service : RazorPayServiceNew κ}
    (stored : service.onComplete = some callback) (event : RazorPayEvent) :
    ((Service.razor service).react (.razor event)).2.invocation =
      ((Service.razor service).reported (.razor event)).map
        (fun txnId => (callback, successPayload (.razor event) txnId)) := by
  rw [Service.react]
  cases opened : service.opens <;> cases event <;>
    simp [RazorPayServiceNew.handle, Service.reported, opened, stored, callLate,
      Reaction.invocation, successPayload]

theorem flutterWave_invocation (callback : κ) (totalAmount : ℚ) (session : FlutterwaveSession) :
    (FlutterWaveServiceNew.checkout callback session).invocation =
      if forwards .flutterWave (.flutterWave session) then
        ((Service.flutterWave totalAmount callback).reported (.flutterWave session)).map
          (fun txnId => (callback, successPayload (.flutterWave session) txnId))
      else none := by
  rw [forwards, Service.reported]
  unfold FlutterWaveServiceNew.checkout
  cases session.charge with
  | none => exact (ite_self _).symm
  | some value =>
      by_cases success : value.success.getD false = true
      · by_cases verified : session.verifyStatus = some "success"
        · simp [success, verified, Reaction.invocation, successPayload]
        · simp [success, verified, Reaction.invocation]
      · simp [success, Reaction.invocation]

theorem cinetPay_invocation {service : CinetPayServicesNew κ}
    (missing : service.onComplete = none) (event : CinetPayEvent) :
    (service.handle event).invocation = none := by
  cases event with
  | onError => rfl
  | waitResponse status =>
      unfold CinetPayServicesNew.handle
      rw [missing]
      dsimp only
      split
      · rfl
      · split <;> rfl

theorem payPal_invocation (callback : κ) (paymentSetting : PaymentSetting) (totalAmount : ℚ)
    (event : PayPalEvent) :
    ((Service.payPal paymentSetting totalAmount callback).react (.payPal event)).2.invocation =
      ((Service.payPal paymentSetting totalAmount callback).reported (.payPal event)).map
        (fun txnId => (callback, successPayload (.payPal event) txnId)) := by
  rw [Service.react]
  cases opened : PayPalService.opens paymentSetting <;> cases event <;>
    simp [PayPalService.handle, Service.reported, opened, Reaction.invocation, successPayload]

theorem midtrans_invocation {service : MidtransService κ}
    (unset : service.currentPaymentMethod = none) (finished : Option String) :
    ((Service.midtrans service).react (.midtrans finished)).2.invocation = none ∧
      (Service.midtrans service).reported (.midtrans finished) = none := by
  rw [Service.react, Service.reported]
  unfold MidtransService.midtransPaymentCheckout
  rw [unset]
  exact ⟨rfl, rfl⟩

/-- A wired service calls back for exactly the successes it forwards. -/
theorem react_invocation {callback : κ} {gateway : OnlineGateway} {service : Service κ}
    (wired : Wired callback gateway service) (answer : Answer) :
    (service.react answer).2.invocation =
      if forwards gateway answer then
        (service.reported answer).map (fun txnId => (callback, successPayload answer txnId))
      else none := by
  cases gateway <;> cases service <;> first | exact wired.elim | skip
  case stripe.stripe service =>
    cases answer with
    | stripe session => exact stripe_invocation wired session
    | _ => rfl
  case razor.razor service =>
    cases answer with
    | razor event => exact razor_invocation wired event
    | _ => rfl
  case flutterWave.flutterWave totalAmount onComplete =>
    obtain rfl : onComplete = callback := wired
    cases answer with
    | flutterWave session => exact flutterWave_invocation onComplete totalAmount session
    | _ => rfl
  case cinetPay.cinetPay service =>
    cases answer with
    | cinetPay event => exact cinetPay_invocation wired event
    | _ => rfl
  case sadadPayment.sadadPayment service =>
    cases answer with
    | sadadPayment session => exact sadad_invocation wired session
    | _ => rfl
  case payPal.payPal paymentSetting totalAmount onComplete =>
    obtain rfl : onComplete = callback := wired
    cases answer with
    | payPal event => exact payPal_invocation onComplete paymentSetting totalAmount event
    | _ => rfl
  case airtel.airtel amount bookingId onComplete =>
    obtain rfl : onComplete = callback := wired
    cases answer with
    | airtel session => exact airtel_invocation onComplete amount bookingId session
    | _ => rfl
  case payStack.payStack service =>
    cases answer <;> rfl
  case midtrans.midtrans service =>
    cases answer with
    | midtrans finished =>
        obtain ⟨silent, unreported⟩ := midtrans_invocation wired finished
        rw [silent, unreported]
        rfl
    | _ => rfl
  case phonePe.phonePe initialised service =>
    cases answer with
    | phonePe userId tap =>
        cases initialised with
        | false => rfl
        | true => exact phonePe_invocation wired.1 wired.2 userId tap
    | _ => rfl

/-! ### Whole attempts -/

structure Delivery (κ : Type*) where
  reported : Option String
  reaction : Reaction κ

def attemptMachine : Machine (Service κ) Answer (Delivery κ) :=
  { next := fun service answer => (service.react answer).1
    outputs := fun service answer =>
      [{ reported := service.reported answer, reaction := (service.react answer).2 }] }

end Generic

structure OnComplete where
  paymentMethod : PaymentMethod
  paymentStatus : ServicePaymentStatus
  key : String
  deriving DecidableEq, Repr

structure SavePayCall where
  txnId : String
  paymentMethod : PaymentMethod
  paymentStatus : ServicePaymentStatus
  deriving DecidableEq, Repr

/-- A missing transaction id is a type error, so `savePay` is not reached. -/
def OnComplete.call (onComplete : OnComplete) (payload : Payload) : Option SavePayCall :=
  (payload.read onComplete.key).map fun txnId =>
    { txnId := txnId
      paymentMethod := onComplete.paymentMethod
      paymentStatus := onComplete.paymentStatus }

def paymentKey : OnlineGateway → String
  | .razor => "paymentId"
  | _ => "transaction_id"

def paymentCallback (isForAdvancePayment : Bool) (gateway : OnlineGateway) : OnComplete :=
  { paymentMethod := gateway.type
    paymentStatus := if isForAdvancePayment then .advancePaid else .paid
    key := paymentKey gateway }

theorem paymentCallback_status (isForAdvancePayment : Bool) (gateway : OnlineGateway) :
    handleClickStatus isForAdvancePayment gateway.type =
      some (paymentCallback isForAdvancePayment gateway).paymentStatus := by
  cases gateway <;> rfl

def handleClick (advancePaymentAllowed : Bool) (click : ClickContext) (widget : PaymentScreen)
    (gateway : OnlineGateway) : Option (Service OnComplete) :=
  let booking := widget.bookings.bookingDetail
  openService
    { click with
      airtelBookingId := validate booking.id
      phonePeBookingId := validate booking.id
      serviceId := some (validate booking.serviceId)
      servicePrice := some (validate booking.amount)
      serviceName := some (validateText booking.serviceName) }
    (charged advancePaymentAllowed widget)
    (paymentCallback widget.isForAdvancePayment gateway) gateway

def Delivery.savePayCall (delivery : Delivery OnComplete) : Option SavePayCall :=
  delivery.reaction.invocation.bind fun invocation => invocation.1.call invocation.2

/-- Every answer of an attempt with what it led to; a click that creates no
service gets no answers. -/
def deliveries (advancePaymentAllowed : Bool) (click : ClickContext) (widget : PaymentScreen)
    (gateway : OnlineGateway) (answers : List Answer) : List (Delivery OnComplete) :=
  match handleClick advancePaymentAllowed click widget gateway with
  | none => []
  | some service => attemptMachine.trace service answers

def savePayCalls (advancePaymentAllowed : Bool) (click : ClickContext) (widget : PaymentScreen)
    (gateway : OnlineGateway) (answers : List Answer) : List SavePayCall :=
  (deliveries advancePaymentAllowed click widget gateway answers).filterMap
    Delivery.savePayCall

def reportedSuccesses (advancePaymentAllowed : Bool) (click : ClickContext)
    (widget : PaymentScreen) (gateway : OnlineGateway) (answers : List Answer) : List String :=
  (deliveries advancePaymentAllowed click widget gateway answers).filterMap Delivery.reported

/-- No answer of the attempt reports a success that its gateway does not forward. -/
def SuccessesForwarded (advancePaymentAllowed : Bool) (click : ClickContext)
    (widget : PaymentScreen) (gateway : OnlineGateway) (answers : List Answer) : Prop :=
  ∀ service, handleClick advancePaymentAllowed click widget gateway = some service →
    attemptMachine.Every
      (fun service answer => service.reported answer = none ∨ forwards gateway answer = true)
      service answers

theorem paymentCallback_call {callback : OnComplete} {gateway : OnlineGateway}
    {service : Service OnComplete} {answer : Answer} {txnId : String}
    (wired : Wired callback gateway service) (found : service.reported answer = some txnId)
    (isForAdvancePayment : Bool) :
    (paymentCallback isForAdvancePayment gateway).call (successPayload answer txnId) =
      some
        { txnId := txnId
          paymentMethod := gateway.type
          paymentStatus := if isForAdvancePayment then .advancePaid else .paid } := by
  cases gateway <;> cases service <;> first | exact wired.elim | skip
  case razor.razor service =>
    cases answer with
    | razor event =>
        cases event with
        | paymentSuccess paymentId orderId signature => rfl
        | paymentError message => cases found
        | externalWallet walletName => cases found
    | _ => cases found
  all_goals
    cases answer <;> first | rfl | cases found

theorem savePayCall_txnId {gateway : OnlineGateway} {service : Service OnComplete}
    {isForAdvancePayment : Bool}
    (wired : Wired (paymentCallback isForAdvancePayment gateway) gateway service)
    (answer : Answer) :
    (Delivery.savePayCall
        { reported := service.reported answer
          reaction := (service.react answer).2 }).map SavePayCall.txnId =
      if forwards gateway answer then service.reported answer else none := by
  unfold Delivery.savePayCall
  rw [react_invocation wired answer]
  cases forwards gateway answer with
  | false => rfl
  | true =>
      rw [if_pos rfl, if_pos rfl]
      cases found : service.reported answer with
      | none => rfl
      | some txnId =>
          rw [Option.map_some, Option.bind_some, paymentCallback_call wired found]
          rfl

theorem handleClick_wired {advancePaymentAllowed : Bool} {click : ClickContext}
    {widget : PaymentScreen} {gateway : OnlineGateway} {service : Service OnComplete}
    (opened : handleClick advancePaymentAllowed click widget gateway = some service) :
    Wired (paymentCallback widget.isForAdvancePayment gateway) gateway service :=
  openService_wired opened

/-- `savePay` is called once for each success that the gateway reports, with its
transaction id, and for nothing else, exactly when every reported success is
forwarded. -/
theorem savePayCalls_iff_successesForwarded (advancePaymentAllowed : Bool)
    (click : ClickContext) (widget : PaymentScreen) (gateway : OnlineGateway)
    (answers : List Answer) :
    (savePayCalls advancePaymentAllowed click widget gateway answers).map SavePayCall.txnId =
        reportedSuccesses advancePaymentAllowed click widget gateway answers ↔
      SuccessesForwarded advancePaymentAllowed click widget gateway answers := by
  unfold savePayCalls reportedSuccesses deliveries SuccessesForwarded
  cases opened : handleClick advancePaymentAllowed click widget gateway with
  | none =>
      constructor
      · intro _ service impossible
        cases impossible
      · intro _
        rfl
  | some first =>
      have wired := handleClick_wired opened
      have kept : ∀ (service : Service OnComplete) (answer : Answer),
          Wired (paymentCallback widget.isForAdvancePayment gateway) gateway service →
          Wired (paymentCallback widget.isForAdvancePayment gateway) gateway
            (attemptMachine.next service answer) :=
        fun service answer held => react_wired held answer
      have onlyReported : ∀ delivery ∈ attemptMachine.trace first answers, ∀ txnId,
          delivery.savePayCall.map SavePayCall.txnId = some txnId →
            delivery.reported = some txnId := by
        refine Machine.forall_trace_of_invariant _ kept ?_ wired
        intro service answer held delivery member txnId called
        rw [List.mem_singleton.mp member] at called ⊢
        rw [savePayCall_txnId held answer] at called
        split at called
        · exact called
        · cases called
      have steps : attemptMachine.Every
            (fun service answer => ∀ delivery ∈ attemptMachine.outputs service answer,
              delivery.savePayCall.map SavePayCall.txnId = delivery.reported) first answers ↔
          attemptMachine.Every
            (fun service answer =>
              service.reported answer = none ∨ forwards gateway answer = true)
            first answers := by
        refine Machine.every_congr _ kept ?_ wired
        intro service answer held
        change (∀ delivery ∈ [_], _) ↔ _
        rw [List.forall_mem_singleton, savePayCall_txnId held answer]
        cases forwards gateway answer with
        | true => simp only [if_true, or_true]
        | false =>
            simp only [Bool.false_eq_true, if_false, or_false]
            exact eq_comm
      rw [List.map_filterMap, EventRun.filterMap_eq_filterMap_iff _ _ onlyReported,
        Machine.forall_trace_iff, steps]
      constructor
      · intro forwarded service same
        cases same
        exact forwarded
      · intro forwarded
        exact forwarded first rfl

theorem cinetPay_accepted_counterexample :
    ¬ (savePayCalls true
            { store := { currencyCode := "XOF", priceDecimalPoint := 0 }
              paymentSetting := {}
              topUpWallet := ""
              airtelBookingId := 0
              phonePeBookingId := 0
              random := 7
              phonePeInitialised := false }
            { bookings := { bookingDetail := { id := some 3, totalAmount := some 500 } } }
            .cinetPay [.cinetPay (.waitResponse (some "ACCEPTED"))]).map SavePayCall.txnId =
        reportedSuccesses true
          { store := { currencyCode := "XOF", priceDecimalPoint := 0 }
            paymentSetting := {}
            topUpWallet := ""
            airtelBookingId := 0
            phonePeBookingId := 0
            random := 7
            phonePeInitialised := false }
          { bookings := { bookingDetail := { id := some 3, totalAmount := some 500 } } }
          .cinetPay [.cinetPay (.waitResponse (some "ACCEPTED"))] := by
  decide +kernel

/-- A Midtrans checkout throws before its SDK is opened, whatever was
configured. -/
theorem midtrans_never_opens {advancePaymentAllowed : Bool} {click : ClickContext}
    {widget : PaymentScreen} {service : Service OnComplete} (finished : Option String)
    (opened : handleClick advancePaymentAllowed click widget .midtrans = some service) :
    (service.react (.midtrans finished)).2 =
      .throws (.lateInitializationError "currentPaymentMethod") := by
  cases opened
  rfl

end FiksOpp.Gateway
