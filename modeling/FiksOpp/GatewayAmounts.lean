/-
The money that a gateway is asked for against the amount that `savePay` records.

A request carries a number and the unit it is read in.  Minor units are those of
ISO 4217; the number of decimals of a currency is data of that standard, not of
the client.
-/

import FiksOpp.GatewayAttempts

namespace FiksOpp.Gateway

open DecimalRounding
open Payment

def wholeUnitCurrencies : List String :=
  ["bif", "clp", "djf", "gnf", "isk", "jpy", "kmf", "krw", "pyg", "rwf", "ugx", "uyi", "vnd",
    "vuv", "xaf", "xof", "xpf"]

def thousandthCurrencies : List String :=
  ["bhd", "iqd", "jod", "kwd", "lyd", "omr", "tnd"]

def tenThousandthCurrencies : List String :=
  ["clf", "uyw"]

/-- The minor-unit exponent of a currency given by its lower-case code. -/
def minorUnitExponent (currency : String) : ℕ :=
  if wholeUnitCurrencies.contains currency then 0
  else if thousandthCurrencies.contains currency then 3
  else if tenThousandthCurrencies.contains currency then 4
  else 2

def configuredExponent (store : AppConfigurationStore) : ℕ :=
  minorUnitExponent (paymentGatewayCurrencyCode store)

def ChargeRequest.money (store : AppConfigurationStore) (request : ChargeRequest) : ℚ :=
  match request.unit with
  | .major => request.amount
  | .minor =>
      request.amount /
        10 ^ minorUnitExponent (request.currency.getD (paymentGatewayCurrencyCode store))

/-- The amount that a service hands to its gateway; PayStack hands nothing. -/
def Service.chargeRequest {κ : Type*} (store : AppConfigurationStore) :
    Service κ → Option ChargeRequest
  | .stripe service => some (service.chargeRequest store)
  | .razor service => some (service.chargeRequest store)
  | .flutterWave totalAmount _ => some (FlutterWaveServiceNew.chargeRequest store totalAmount)
  | .cinetPay service => some (service.chargeRequest store)
  | .sadadPayment service => some service.chargeRequest
  | .payPal _ totalAmount _ => some (PayPalService.chargeRequest store totalAmount)
  | .airtel amount _ _ => some (AirtelMoneyDialog.chargeRequest store amount)
  | .payStack _ => none
  | .midtrans service => some service.chargeRequest
  | .phonePe _ service => some service.chargeRequest

def KeepsAmount (store : AppConfigurationStore) (paymentSetting : PaymentSetting) (amount : ℚ) :
    OnlineGateway → Prop
  | .stripe => configuredExponent store = 2 ∧ OnGrid 2 amount
  | .razor => configuredExponent store = 2 ∧ OnGrid 2 amount
  | .flutterWave => OnGrid store.priceDecimalPoint amount
  | .midtrans => OnGrid 0 amount
  | .phonePe =>
      if paymentSetting.test then amount * 10 ^ configuredExponent store = 100
      else configuredExponent store = 2
  | .cinetPay => True
  | .sadadPayment => True
  | .payPal => True
  | .airtel => True
  | .payStack => True

theorem truncated_hundredths_eq_iff {amount : ℚ} (positive : 0 < amount) (exponent : ℕ) :
    (truncate (amount * 100) : ℚ) / 10 ^ exponent = amount ↔
      exponent = 2 ∧ OnGrid 2 amount := by
  have hundred : amount * 100 = amount * 10 ^ 2 := by norm_num
  rw [div_eq_iff (by positivity), hundred]
  exact truncate_scaled_eq_iff positive 2 exponent

theorem truncate_eq_iff_onGrid_zero (amount : ℚ) :
    (truncate amount : ℚ) = amount ↔ OnGrid 0 amount := by
  rw [truncate_eq_self_iff]
  unfold OnGrid
  rw [pow_zero, mul_one]

theorem hundredths_eq_iff {amount : ℚ} (positive : 0 < amount) (exponent : ℕ) :
    amount * 100 / 10 ^ exponent = amount ↔ exponent = 2 := by
  rw [div_eq_iff (by positivity)]
  constructor
  · intro same
    have powers : (10 : ℚ) ^ exponent = 10 ^ 2 := by
      have cancelled := mul_left_cancel₀ (ne_of_gt positive) same
      rw [← cancelled]
      norm_num
    exact pow_right_injective₀ (by norm_num) (by norm_num) powers
  · intro two
    subst two
    norm_num

/-- The money handed to a gateway is the amount `savePay` records exactly when
the gateway's conversion keeps it. -/
theorem handedMoney_eq_recorded_iff {κ : Type*} (advancePaymentAllowed : Bool) (userId : ℤ)
    (now : String) (widget : PaymentScreen) (state : PaymentScreenState) (txnId : String)
    (status : ServicePaymentStatus) (click : ClickContext) (callback : κ)
    (gateway : OnlineGateway) (service : Service κ) (request : ChargeRequest)
    (positive : 0 < state.totalAmount)
    (opened : openService click state.totalAmount callback gateway = some service)
    (handed : service.chargeRequest click.store = some request) :
    request.money click.store =
        (savePay advancePaymentAllowed userId now widget state txnId gateway.type
          status).totalAmount ↔
      KeepsAmount click.store click.paymentSetting state.totalAmount gateway := by
  rw [savePay_totalAmount]
  cases gateway with
  | stripe =>
      cases opened
      cases handed
      exact truncated_hundredths_eq_iff positive _
  | razor =>
      cases opened
      cases handed
      exact truncated_hundredths_eq_iff positive _
  | flutterWave =>
      cases opened
      cases handed
      exact toDecimals_eq_self_iff _ _
  | cinetPay =>
      rw [openService] at opened
      split at opened
      · cases opened
        cases handed
        exact iff_of_true rfl trivial
      · cases opened
  | sadadPayment =>
      cases opened
      cases handed
      exact iff_of_true rfl trivial
  | payPal =>
      cases opened
      cases handed
      exact iff_of_true rfl trivial
  | airtel =>
      cases opened
      cases handed
      exact iff_of_true rfl trivial
  | payStack =>
      cases opened
      cases handed
  | midtrans =>
      cases opened
      cases handed
      exact truncate_eq_iff_onGrid_zero _
  | phonePe =>
      cases opened
      cases handed
      change (if click.paymentSetting.test then (100 : ℚ) else state.totalAmount * 100) /
        10 ^ configuredExponent click.store = state.totalAmount ↔ _
      unfold KeepsAmount
      cases click.paymentSetting.test with
      | true =>
          simp only [if_true]
          rw [div_eq_iff (by positivity)]
          exact eq_comm
      | false =>
          simp only [Bool.false_eq_true, if_false]
          exact hundredths_eq_iff positive _

theorem handedMoney_eq_recorded_nok :
    ChargeRequest.money { currencyCode := "NOK", priceDecimalPoint := 2 }
        { amount := 1250, unit := .minor, currency := some "nok" } =
      (savePay true 7 "2024-05-01 10:00:00" { bookings := { bookingDetail := {} } }
        { totalAmount := 25 / 2 } "pi_1" .stripe .paid).totalAmount := by
  refine (handedMoney_eq_recorded_iff true 7 "2024-05-01 10:00:00"
    { bookings := { bookingDetail := {} } } { totalAmount := 25 / 2 } "pi_1" .paid
    { store := { currencyCode := "NOK", priceDecimalPoint := 2 }
      paymentSetting := {}
      topUpWallet := ""
      airtelBookingId := 0
      phonePeBookingId := 0
      random := 0
      phonePeInitialised := false } () .stripe _ _ (by decide +kernel) rfl ?_).mpr ?_
  · rw [Service.chargeRequest]
    decide +kernel
  · exact ⟨by decide +kernel, by decide +kernel⟩

theorem stripe_yen_counterexample :
    ChargeRequest.money { currencyCode := "JPY", priceDecimalPoint := 0 }
        ((StripeServiceNew.new {} 500 ()).chargeRequest
          { currencyCode := "JPY", priceDecimalPoint := 0 }) ≠
      (savePay true 7 "2024-05-01 10:00:00" { bookings := { bookingDetail := {} } }
        { totalAmount := 500 } "pi_1" .stripe .paid).totalAmount := by
  decide +kernel

end FiksOpp.Gateway
