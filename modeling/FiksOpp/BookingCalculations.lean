/-
The client's price arithmetic.

Every intermediate amount that the source passes through
`toStringAsFixed(priceDecimalPoint).toDouble()` is rounded here by the same
grid conversion, in the source's order.  `decimals` is the configured number of
price decimals.
-/

import FiksOpp.BookingModels
import FiksOpp.Foundations.DecimalRounding

namespace FiksOpp.BookingCalculations

open DecimalRounding

structure BookingAmountModel where
  finalTotalServicePrice : ℚ := 0
  finalTotalTax : ℚ := 0
  finalSubTotal : ℚ := 0
  finalServiceAddonAmount : ℚ := 0
  finalDiscountAmount : ℚ := 0
  finalCouponDiscountAmount : ℚ := 0
  finalGrandTotalAmount : ℚ := 0
  /-- `finalSubTotal.isNegative`, which minus zero is too. -/
  subTotalIsNegative : Bool := false
  deriving DecidableEq, Repr

structure BookingAmountJson where
  finalTotalServicePrice : ℚ
  finalTotalTax : ℚ
  finalSubTotal : ℚ
  finalDiscountAmount : ℚ
  finalCouponDiscountAmount : ℚ
  deriving DecidableEq, Repr

def BookingAmountModel.toJson (amounts : BookingAmountModel) : BookingAmountJson :=
  { finalTotalServicePrice := amounts.finalTotalServicePrice
    finalTotalTax := amounts.finalTotalTax
    finalSubTotal := amounts.finalSubTotal
    finalDiscountAmount := amounts.finalDiscountAmount
    finalCouponDiscountAmount := amounts.finalCouponDiscountAmount }

structure Arguments where
  servicePrice : ℚ := 0
  durationDiff : ℤ := 0
  quantity : ℤ := 1
  taxes : Option (List TaxData) := none
  appliedCouponData : Option CouponData := none
  extraCharges : Option (List ExtraChargesModel) := none
  serviceAddons : Option (List Serviceaddon) := none
  selectedPackage : Option BookingPackage := none
  discount : ℚ := 0
  serviceType : ServiceType := .fixed

def calculateCouponDiscount (decimals : ℕ) (couponData : Option CouponData) (price : ℚ) : ℚ :=
  let couponAmount :=
    match couponData with
    | none => 0
    | some coupon =>
        if coupon.discountType = some .fixed then validate coupon.discount
        else price * validate coupon.discount / 100
  toDecimals decimals couponAmount

def calculatedTax (subTotal : ℚ) (tax : TaxData) : TaxData :=
  { tax with
    totalCalculatedValue :=
      some (if tax.type = some .percent then subTotal * validate tax.value / 100
        else validate tax.value) }

def calculatedTaxes (taxes : Option (List TaxData)) (subTotal : ℚ) : List TaxData :=
  (validateList taxes).map (calculatedTax subTotal)

def calculateTotalTaxAmount (decimals : ℕ) (taxes : Option (List TaxData)) (subTotal : ℚ) : ℚ :=
  toDecimals decimals
    ((calculatedTaxes taxes subTotal).map
      (fun tax => toDecimals decimals (validate tax.totalCalculatedValue))).sum

def hourlyCalculation (decimals : ℕ) (secTime : ℤ) (price : ℚ) : ℚ :=
  let perMinuteCharge := price / 60
  let totalMinutes : ℚ := if secTime ≤ 3600 then 3600 / 60 else secTime / 60
  toDecimals decimals (totalMinutes * perMinuteCharge)

def totalServicePrice (decimals : ℕ) (args : Arguments) (quantity : ℤ) : ℚ :=
  match args.selectedPackage with
  | some package => toDecimals decimals (validate package.price)
  | none =>
      if args.serviceType = .hourly then
        hourlyCalculation decimals args.durationDiff args.servicePrice
      else toDecimals decimals (args.servicePrice * quantity)

def serviceAddonAmount (serviceAddons : Option (List Serviceaddon)) : ℚ :=
  ((validateList serviceAddons).map Serviceaddon.price).sum

def totalExtraCharges (extraCharges : Option (List ExtraChargesModel)) : ℚ :=
  ((validateList extraCharges).map
    (fun charge => validate charge.price * charge.qty.getD 1)).sum

def finalCalculations (decimals : ℕ) (args : Arguments) : BookingAmountModel :=
  let quantity := if args.quantity = 0 then 1 else args.quantity
  let servicePrice := totalServicePrice decimals args quantity
  let discountAmount :=
    if args.selectedPackage.isNone ∧ args.discount ≠ 0 then
      toDecimals decimals (servicePrice / 100 * args.discount)
    else 0
  let couponDiscountAmount :=
    if args.appliedCouponData.isSome then
      calculateCouponDiscount decimals args.appliedCouponData servicePrice
    else 0
  let addonAmount := serviceAddonAmount args.serviceAddons
  let exactSubTotal := servicePrice - discountAmount - couponDiscountAmount + addonAmount
  let subTotal := toDecimals decimals exactSubTotal
  let extraCharges := totalExtraCharges args.extraCharges
  let totalTax := calculateTotalTaxAmount decimals args.taxes (subTotal + extraCharges)
  { finalTotalServicePrice := servicePrice
    finalTotalTax := totalTax
    finalSubTotal := subTotal
    finalServiceAddonAmount := addonAmount
    finalDiscountAmount := discountAmount
    finalCouponDiscountAmount := couponDiscountAmount
    finalGrandTotalAmount := toDecimals decimals (subTotal + totalTax + extraCharges)
    -- the printed text of a number below zero has a minus sign, also before zeros
    subTotalIsNegative := decide (exactSubTotal < 0) }

theorem calculateCouponDiscount_none (decimals : ℕ) (price : ℚ) :
    calculateCouponDiscount decimals none price = 0 :=
  toDecimals_zero decimals

theorem totalServicePrice_of_free (decimals : ℕ) (args : Arguments) (quantity : ℤ)
    (free : args.servicePrice = 0) (unpackaged : args.selectedPackage = none) :
    totalServicePrice decimals args quantity = 0 := by
  unfold totalServicePrice hourlyCalculation
  rw [unpackaged, free]
  simp only [zero_div, mul_zero, zero_mul, toDecimals_zero, ite_self]

/-- The coupon branch of the source and the helper agree on a missing coupon. -/
theorem finalCouponDiscountAmount_eq (decimals : ℕ) (args : Arguments) :
    (finalCalculations decimals args).finalCouponDiscountAmount =
      calculateCouponDiscount decimals args.appliedCouponData
        (finalCalculations decimals args).finalTotalServicePrice := by
  cases coupon : args.appliedCouponData with
  | none =>
      simp only [finalCalculations, coupon, Option.isSome_none, Bool.false_eq_true, if_false,
        calculateCouponDiscount_none]
  | some data =>
      simp only [finalCalculations, coupon, Option.isSome_some, if_true]

def exactSubTotal (decimals : ℕ) (args : Arguments) : ℚ :=
  (finalCalculations decimals args).finalTotalServicePrice -
    (finalCalculations decimals args).finalDiscountAmount -
    (finalCalculations decimals args).finalCouponDiscountAmount +
    serviceAddonAmount args.serviceAddons

theorem finalSubTotal_eq (decimals : ℕ) (args : Arguments) :
    (finalCalculations decimals args).finalSubTotal =
      toDecimals decimals (exactSubTotal decimals args) := rfl

theorem subTotalIsNegative_iff (decimals : ℕ) (args : Arguments) :
    (finalCalculations decimals args).subTotalIsNegative = true ↔
      exactSubTotal decimals args < 0 :=
  decide_eq_true_iff

/-- Every amount that leaves the calculation as a total is on the price grid. -/
theorem finalSubTotal_onGrid (decimals : ℕ) (args : Arguments) :
    OnGrid decimals (finalCalculations decimals args).finalSubTotal :=
  toDecimals_onGrid decimals _

theorem finalGrandTotalAmount_of_no_extraCharges (decimals : ℕ) (args : Arguments)
    (uncharged : args.extraCharges = none) :
    (finalCalculations decimals args).finalGrandTotalAmount =
      toDecimals decimals
        ((finalCalculations decimals args).finalSubTotal +
          (finalCalculations decimals args).finalTotalTax) := by
  have noCharge : totalExtraCharges args.extraCharges = 0 := by
    rw [uncharged]
    rfl
  simp only [finalCalculations, noCharge, add_zero]

end FiksOpp.BookingCalculations
