/-
The service classes of the online gateways.

Each class keeps its completion callback in a `late` field, an option here, and
is generic in that callback.  A handler says what it does with one answer of
its gateway: nothing, a call of the stored callback, or an exception.
-/

import FiksOpp.BookingModels
import FiksOpp.Foundations.DecimalRounding

namespace FiksOpp.Gateway

open DecimalRounding

/-- Credentials of one environment; the decoder fills the missing ones with the
empty text. -/
structure LiveValue where
  stripeUrl : String := ""
  stripeKey : String := ""
  stripePublickey : String := ""
  razorKey : String := ""
  payPalClientId : String := ""
  payPalSecretKey : String := ""
  sadadId : String := ""
  sadadKey : String := ""
  sadadDomain : String := ""
  midtransClientId : String := ""

structure PaymentSetting where
  isTest : Option ℤ := none
  testValue : LiveValue := {}
  liveValue : LiveValue := {}

def PaymentSetting.test (setting : PaymentSetting) : Bool :=
  setting.isTest == some 1

def PaymentSetting.active (setting : PaymentSetting) : LiveValue :=
  if setting.test then setting.testValue else setting.liveValue

structure AppConfigurationStore where
  currencyCode : String
  priceDecimalPoint : ℕ
  deriving DecidableEq, Repr

def DEFAULT_PAYMENT_CURRENCY_CODE : String := "nok"

def paymentGatewayCurrencyCode (store : AppConfigurationStore) : String :=
  let code := (trim store.currencyCode).toLower
  if code.isEmpty then DEFAULT_PAYMENT_CURRENCY_CODE else code

abbrev Payload := List (String × Option String)

def Payload.read (payload : Payload) (key : String) : Option String :=
  (payload.lookup key).join

inductive ServiceError where
  | accessDeniedContactYourAdmin
  | lateInitializationError (field : String)
  | gateway (message : String)
  deriving DecidableEq, Repr

inductive Reaction (κ : Type*) where
  | quiet
  | invoke (callback : κ) (payload : Payload)
  | throws (error : ServiceError)
  deriving DecidableEq, Repr

/-- Reading a `late` field that nothing assigned throws. -/
def callLate {κ : Type*} (onComplete : Option κ) (payload : Payload) : Reaction κ :=
  match onComplete with
  | some callback => .invoke callback payload
  | none => .throws (.lateInitializationError "onComplete")

inductive AmountUnit where
  | major
  | minor
  deriving DecidableEq, Repr

/-- The amount as the gateway is sent it.  A request without a currency is read
in the configured one. -/
structure ChargeRequest where
  amount : ℚ
  unit : AmountUnit
  currency : Option String
  deriving DecidableEq, Repr

section Services

variable {κ : Type*}

structure StripeServiceNew (κ : Type*) where
  paymentSetting : PaymentSetting
  totalAmount : ℚ
  onComplete : Option κ

def StripeServiceNew.new (paymentSetting : PaymentSetting) (totalAmount : ℚ) (onComplete : κ) :
    StripeServiceNew κ :=
  { paymentSetting := paymentSetting
    totalAmount := totalAmount
    onComplete := some onComplete }

def StripeServiceNew.chargeRequest (store : AppConfigurationStore)
    (service : StripeServiceNew κ) : ChargeRequest :=
  { amount := truncate (service.totalAmount * 100)
    unit := .minor
    currency := some (paymentGatewayCurrencyCode store) }

inductive PaymentIntentAnswer where
  | created (id : String) (clientSecret : Option String)
  | failed (message : String)
  deriving DecidableEq, Repr

inductive SheetResult where
  | completed
  | stripeException (message : String)
  deriving DecidableEq, Repr

/-- What the network, the SDK and the screen answer while `stripePay` runs; an
answer that is never asked for is not read. -/
structure StripeSession where
  settingsApplied : Bool
  intent : PaymentIntentAnswer
  sheetInitialised : Bool
  isMounted : Bool
  sheet : SheetResult
  deriving DecidableEq, Repr

def StripeServiceNew.hasKeys (service : StripeServiceNew κ) : Bool :=
  let keys := service.paymentSetting.active
  !(keys.stripeKey.isEmpty || keys.stripeUrl.isEmpty || keys.stripePublickey.isEmpty)

def StripeServiceNew.stripePay (service : StripeServiceNew κ) (session : StripeSession) :
    Reaction κ :=
  if !service.hasKeys then
    .throws .accessDeniedContactYourAdmin
  else if !session.settingsApplied then
    .throws (.gateway "applySettings")
  else
    match session.intent with
    | .failed message => .throws (.gateway message)
    | .created id clientSecret =>
        if (validateText clientSecret).isEmpty then
          .throws (.gateway "Failed to get payment intent from Stripe")
        else if !session.sheetInitialised then
          .throws (.gateway "initPaymentSheet")
        else if !session.isMounted then
          .throws (.gateway "Payment screen was closed before checkout could open.")
        else
          match session.sheet with
          | .stripeException message => .throws (.gateway message)
          | .completed => callLate service.onComplete [("transaction_id", some id)]

structure RazorPayServiceNew (κ : Type*) where
  paymentSetting : PaymentSetting
  totalAmount : ℚ
  onComplete : Option κ

def RazorPayServiceNew.new (paymentSetting : PaymentSetting) (totalAmount : ℚ)
    (onComplete : κ) : RazorPayServiceNew κ :=
  { paymentSetting := paymentSetting
    totalAmount := totalAmount
    onComplete := some onComplete }

def RazorPayServiceNew.chargeRequest (store : AppConfigurationStore)
    (service : RazorPayServiceNew κ) : ChargeRequest :=
  { amount := truncate (service.totalAmount * 100)
    unit := .minor
    currency := some (paymentGatewayCurrencyCode store) }

/-- Without a key `razorPayCheckout` gives up before the SDK is opened. -/
def RazorPayServiceNew.opens (service : RazorPayServiceNew κ) : Bool :=
  !service.paymentSetting.active.razorKey.isEmpty

inductive RazorPayEvent where
  | paymentSuccess (paymentId : String) (orderId signature : Option String)
  | paymentError (message : Option String)
  | externalWallet (walletName : String)
  deriving DecidableEq, Repr

def RazorPayServiceNew.handle (service : RazorPayServiceNew κ) : RazorPayEvent → Reaction κ
  | .paymentSuccess paymentId orderId signature =>
      callLate service.onComplete
        [("orderId", orderId), ("paymentId", some paymentId), ("signature", signature)]
  | .paymentError _ => .quiet
  | .externalWallet _ => .quiet

def FlutterWaveServiceNew.chargeRequest (store : AppConfigurationStore) (totalAmount : ℚ) :
    ChargeRequest :=
  { amount := toDecimals store.priceDecimalPoint totalAmount
    unit := .major
    currency := some store.currencyCode }

structure FlutterwaveCharge where
  success : Option Bool
  transactionId : Option String
  deriving DecidableEq, Repr

/-- The answer of the SDK, `none` when it throws, and the status in the answer
of `verifyPayment`, `none` when the call fails. -/
structure FlutterwaveSession where
  charge : Option FlutterwaveCharge
  verifyStatus : Option String
  deriving DecidableEq, Repr

def FlutterWaveServiceNew.checkout (onComplete : κ) (session : FlutterwaveSession) :
    Reaction κ :=
  match session.charge with
  | none => .throws (.gateway "charge")
  | some value =>
      if value.success.getD false then
        if session.verifyStatus = some "success" then
          .invoke onComplete [("transaction_id", some (validateText value.transactionId))]
        else .quiet
      else .quiet

structure CinetPayServicesNew (κ : Type*) where
  paymentSetting : PaymentSetting
  totalAmount : ℚ
  onComplete : Option κ
  transactionId : String

/-- The constructor takes a callback but has no body that stores it. -/
def CinetPayServicesNew.new (paymentSetting : PaymentSetting) (totalAmount : ℚ)
    (_onComplete : κ) (random : ℕ) : CinetPayServicesNew κ :=
  { paymentSetting := paymentSetting
    totalAmount := totalAmount
    onComplete := none
    transactionId := toString random }

def CinetPayServicesNew.chargeRequest (store : AppConfigurationStore)
    (service : CinetPayServicesNew κ) : ChargeRequest :=
  { amount := service.totalAmount
    unit := .major
    currency := some store.currencyCode }

inductive CinetPayEvent where
  | waitResponse (status : Option String)
  | onError
  deriving DecidableEq, Repr

def CinetPayServicesNew.handle (service : CinetPayServicesNew κ) : CinetPayEvent → Reaction κ
  | .waitResponse status =>
      if status = some "REFUSED" then .quiet
      else if status = some "ACCEPTED" then
        callLate service.onComplete [("transaction_id", some service.transactionId)]
      else .quiet
  | .onError => .quiet

structure SadadServicesNew (κ : Type*) where
  paymentSetting : PaymentSetting
  totalAmount : ℚ
  remarks : String
  onComplete : Option κ

def SadadServicesNew.new (paymentSetting : PaymentSetting) (totalAmount : ℚ)
    (remarks : String) (_onComplete : κ) : SadadServicesNew κ :=
  { paymentSetting := paymentSetting
    totalAmount := totalAmount
    remarks := remarks
    onComplete := none }

def SadadServicesNew.chargeRequest (service : SadadServicesNew κ) : ChargeRequest :=
  { amount := service.totalAmount, unit := .major, currency := none }

/-- The answers of `sadadLogin` and `sadadCreateInvoice`, `none` when a call
fails, and the value the payment web view is closed with. -/
structure SadadSession where
  accessToken : Option String
  shareUrl : Option String
  webViewResult : Option String
  deriving DecidableEq, Repr

def SadadServicesNew.createInvoice (service : SadadServicesNew κ) (session : SadadSession) :
    Reaction κ :=
  match session.shareUrl with
  | none => .quiet
  | some _ =>
      if (validateText session.webViewResult).isEmpty then .quiet
      else callLate service.onComplete [("transaction_id", session.webViewResult)]

def SadadServicesNew.hasKeys (service : SadadServicesNew κ) : Bool :=
  let keys := service.paymentSetting.active
  !(keys.sadadId.isEmpty || keys.sadadKey.isEmpty || keys.sadadDomain.isEmpty)

def SadadServicesNew.payWithSadad (service : SadadServicesNew κ) (session : SadadSession) :
    Reaction κ :=
  if !service.hasKeys then
    .throws .accessDeniedContactYourAdmin
  else
    match session.accessToken with
    | none => .quiet
    | some _ => service.createInvoice session

def PayPalService.chargeRequest (store : AppConfigurationStore) (totalAmount : ℚ) :
    ChargeRequest :=
  { amount := totalAmount
    unit := .major
    currency := some (paymentGatewayCurrencyCode store) }

inductive PayPalEvent where
  | onSuccess (message : Option String) (id : String)
  | onError (error : String)
  | onCancel
  deriving DecidableEq, Repr

def PayPalService.opens (paymentSetting : PaymentSetting) : Bool :=
  !(paymentSetting.active.payPalClientId.isEmpty || paymentSetting.active.payPalSecretKey.isEmpty)

def PayPalService.handle (onComplete : κ) : PayPalEvent → Reaction κ
  | .onSuccess _ id => .invoke onComplete [("transaction_id", some id)]
  | .onError _ => .quiet
  | .onCancel => .quiet

inductive AirtelMoneyResponseCodes where
  | success
  | inProcess
  | other (code : String)
  deriving DecidableEq, Repr

structure AirtelStatus where
  responseCode : Option AirtelMoneyResponseCodes
  deriving DecidableEq, Repr

structure AirtelPaymentResponse where
  status : Option AirtelStatus
  deriving DecidableEq, Repr

def AirtelPaymentResponse.hasCode (response : AirtelPaymentResponse)
    (code : AirtelMoneyResponseCodes) : Bool :=
  response.status.any (fun status => status.responseCode == some code)

def AirtelMoneyDialog.chargeRequest (store : AppConfigurationStore) (amount : ℚ) :
    ChargeRequest :=
  { amount := amount
    unit := .major
    currency := some (paymentGatewayCurrencyCode store) }

/-- `checkAirtelPaymentStatus` with the calls it has left; `answers` is asked
for one status after the other and is `none` where a call fails.  Beside the
result, `none` for an exception, it returns the answers it was given. -/
def checkAirtelPaymentStatus (answers : ℕ → Option AirtelPaymentResponse) :
    ℕ → ℕ → List AirtelPaymentResponse × Option Bool
  | 0, _ => ([], some false)
  | maxApiCallCount + 1, asked =>
      match answers asked with
      | none => ([], none)
      | some res =>
          if res.hasCode .success then ([res], some true)
          else if res.hasCode .inProcess then
            let later := checkAirtelPaymentStatus answers maxApiCallCount (asked + 1)
            (res :: later.1, later.2)
          else ([res], some false)

structure AirtelSession where
  uuid : String
  formValid : Bool
  authorised : Bool
  payment : Option AirtelPaymentResponse
  statusAnswers : ℕ → Option AirtelPaymentResponse

def AirtelSession.transactionId (session : AirtelSession) (bookingId : ℤ) : String :=
  session.uuid ++ "-" ++ toString bookingId

/-- `_handleClick` of the dialog; the submit button has just set
`maxApiCallCount` to 30. -/
def AirtelMoneyDialog.handleClick (onComplete : κ) (bookingId : ℤ) (session : AirtelSession) :
    Reaction κ :=
  if !session.formValid then .quiet
  else if !session.authorised then .throws (.gateway "authorizeAirtelClient")
  else
    match session.payment with
    | none => .throws (.gateway "paymentAirtelClient")
    | some value =>
        if value.hasCode .inProcess then
          match (checkAirtelPaymentStatus session.statusAnswers 30 0).2 with
          | none => .throws (.gateway "checkAirtelPaymentStatus")
          | some isSuccess =>
              if isSuccess then
                .invoke onComplete [("transaction_id", some (session.transactionId bookingId))]
              else .quiet
        else .quiet

structure PayStackService (κ : Type*) where
  totalAmount : ℚ
  bookingId : ℤ
  onComplete : Option κ

def PayStackService.init (totalAmount : ℚ) (bookingId : ℤ) (onComplete : κ) :
    PayStackService κ :=
  { totalAmount := totalAmount
    bookingId := bookingId
    onComplete := some onComplete }

/-- The checkout shows that the method is unavailable and returns. -/
def PayStackService.checkout (_service : PayStackService κ) : Reaction κ :=
  .quiet

structure MidtransService (κ : Type*) where
  totalAmount : ℚ := 0
  serviceId : ℤ := 0
  servicePrice : ℚ := 0
  serviceName : String := ""
  onComplete : Option κ := none
  currentPaymentMethod : Option PaymentSetting := none

/-- `initialize` takes the payment method but assigns only the other fields. -/
def MidtransService.initialize (service : MidtransService κ)
    (_currentPaymentMethod : PaymentSetting) (totalAmount : ℚ) (serviceId : Option ℤ)
    (servicePrice : Option ℚ) (serviceName : Option String) (onComplete : κ) :
    MidtransService κ :=
  { service with
    totalAmount := totalAmount
    serviceId := validate serviceId
    serviceName := validateText serviceName
    servicePrice := validate servicePrice
    onComplete := some onComplete }

def MidtransService.chargeRequest (service : MidtransService κ) : ChargeRequest :=
  { amount := truncate service.totalAmount, unit := .major, currency := none }

def MidtransService.midtransPaymentCheckout (service : MidtransService κ) :
    Except ServiceError ChargeRequest :=
  match service.currentPaymentMethod with
  | none => .error (.lateInitializationError "currentPaymentMethod")
  | some currentPaymentMethod =>
      if currentPaymentMethod.active.midtransClientId.isEmpty then
        .error .accessDeniedContactYourAdmin
      else .ok service.chargeRequest

/-- `_callback` logs what the SDK finished and does nothing else. -/
def MidtransService.callback (_service : MidtransService κ) (_finished : Option String) :
    Reaction κ :=
  .quiet

structure PhonePeBody where
  merchantTransactionId : String
  amount : ℚ
  payType : String
  deriving DecidableEq, Repr

structure PhonePeServices (κ : Type*) where
  paymentSetting : PaymentSetting
  bookingId : ℤ
  totalAmount : ℚ
  onComplete : Option κ
  txnId : String := ""
  body : Option PhonePeBody := none

def PhonePeServices.new (paymentSetting : PaymentSetting) (totalAmount : ℚ) (bookingId : ℤ)
    (onComplete : κ) : PhonePeServices κ :=
  { paymentSetting := paymentSetting
    bookingId := bookingId
    totalAmount := totalAmount
    onComplete := some onComplete }

def PhonePeServices.chargeRequest (service : PhonePeServices κ) : ChargeRequest :=
  { amount := if service.paymentSetting.test then 100 else service.totalAmount * 100
    unit := .minor
    currency := none }

/-- `random` is the generated part of the transaction id. -/
def PhonePeServices.createBodyAndCheckSum (service : PhonePeServices κ) (userId : ℤ)
    (random payType : String) : PhonePeServices κ :=
  let txnId :=
    if (trim service.txnId).isEmpty then
      random ++ toString (if service.bookingId > 0 then service.bookingId else userId)
    else service.txnId
  { service with
    txnId := txnId
    body := some
      { merchantTransactionId := txnId
        amount := service.chargeRequest.amount
        payType := payType } }

theorem createBodyAndCheckSum_onComplete (service : PhonePeServices κ) (userId : ℤ)
    (random payType : String) :
    (service.createBodyAndCheckSum userId random payType).onComplete = service.onComplete := by
  unfold PhonePeServices.createBodyAndCheckSum
  dsimp only

theorem createBodyAndCheckSum_totalAmount (service : PhonePeServices κ) (userId : ℤ)
    (random payType : String) :
    (service.createBodyAndCheckSum userId random payType).totalAmount = service.totalAmount := by
  unfold PhonePeServices.createBodyAndCheckSum
  dsimp only

theorem createBodyAndCheckSum_coherent {service : PhonePeServices κ} {userId : ℤ}
    {random payType : String} {body : PhonePeBody}
    (found : (service.createBodyAndCheckSum userId random payType).body = some body) :
    body.merchantTransactionId =
      (service.createBodyAndCheckSum userId random payType).txnId := by
  unfold PhonePeServices.createBodyAndCheckSum at found ⊢
  dsimp only at found ⊢
  rw [← Option.some.inj found]

/-- One choice in the bottom sheet: the card page, an app of the UPI list, or
the list left without a choice.  The status is `none` when the SDK throws. -/
structure PhonePeTap where
  payType : Option String
  random : String
  transactionStatus : Option String
  deriving DecidableEq, Repr

def PhonePeServices.prepare (service : PhonePeServices κ) (userId : ℤ) (tap : PhonePeTap) :
    PhonePeServices κ :=
  match tap.payType with
  | some payType => service.createBodyAndCheckSum userId tap.random payType
  | none => service

def PhonePeServices.handlePayClick (service : PhonePeServices κ) (userId : ℤ)
    (tap : PhonePeTap) : PhonePeServices κ × Reaction κ :=
  let prepared := service.prepare userId tap
  match prepared.body with
  | none => (prepared, .throws (.lateInitializationError "body"))
  | some _ =>
      if tap.transactionStatus = some "SUCCESS" then
        (prepared, callLate prepared.onComplete [("transaction_id", some prepared.txnId)])
      else (prepared, .quiet)

end Services

end FiksOpp.Gateway
