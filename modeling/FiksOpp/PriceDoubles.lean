/-
The client's price arithmetic in the numbers of the language.

A `num` is an integer of 64 bits or a double, as the server's text has it, so the amounts are
rounded at every operation and once more at every text with a fixed number of decimals.
-/

import FiksOpp.Constants
import FiksOpp.Foundations.Binary64

namespace FiksOpp.PriceDoubles

open Binary64

inductive Num where
  | int (value : Int64)
  | double (value : Float.Model)
  deriving DecidableEq

namespace Num

instance (n : ℕ) : OfNat Num n := ⟨.int (Int64.ofNat n)⟩

def toDouble : Num → Float.Model
  | .int value => Float.Model.ofInt64 value
  | .double value => value

def arithmetic (ints : Int64 → Int64 → Int64)
    (doubles : Float.Model → Float.Model → Float.Model) : Num → Num → Num
  | .int left, .int right => .int (ints left right)
  | left, right => .double (doubles left.toDouble right.toDouble)

instance : Add Num := ⟨arithmetic (· + ·) (· + ·)⟩
instance : Sub Num := ⟨arithmetic (· - ·) (· - ·)⟩
instance : Mul Num := ⟨arithmetic (· * ·) (· * ·)⟩
instance : Div Num := ⟨fun left right => .double (left.toDouble / right.toDouble)⟩

def isZero : Num → Bool
  | .int value => value == 0
  | .double value => value == Float.Model.ofInt 0

def isNegative : Num → Bool
  | .int value => value < 0
  | .double value => Binary64.isNegative value

def isAtLeastZero : Num → Bool
  | .int value => 0 ≤ value
  | .double value => Float.Model.ofInt 0 ≤ value

def toFixed (digits : ℕ) (x : Num) : Num :=
  .double (fixed digits x.toDouble)

def sumByDouble {α : Type*} (items : List α) (selector : α → Num) : Num :=
  items.foldl (fun sum current => sum + selector current) (.double (Float.Model.ofInt 0))

end Num

structure TaxData where
  type : Option TaxType := none
  value : Option Num := none
  totalCalculatedValue : Option Num := none

structure CouponData where
  discount : Option Num := none
  discountType : Option CouponType := none
  deriving DecidableEq

structure ExtraChargesModel where
  price : Option Num := none
  qty : Option Num := none

structure Serviceaddon where
  price : Num := 0

structure BookingPackage where
  price : Option Num := none

structure BookingAmountModel where
  finalTotalServicePrice : Num := 0
  finalTotalTax : Num := 0
  finalSubTotal : Num := 0
  finalServiceAddonAmount : Num := 0
  finalDiscountAmount : Num := 0
  finalCouponDiscountAmount : Num := 0
  finalGrandTotalAmount : Num := 0
  deriving DecidableEq

structure Arguments where
  servicePrice : Num := 0
  durationDiff : Int64 := 0
  quantity : Int64 := 1
  taxes : Option (List TaxData) := none
  appliedCouponData : Option CouponData := none
  extraCharges : Option (List ExtraChargesModel) := none
  serviceAddons : Option (List Serviceaddon) := none
  selectedPackage : Option BookingPackage := none
  discount : Num := 0
  serviceType : ServiceType := .fixed

def calculateCouponDiscount (digits : ℕ) (couponData : Option CouponData) (price : Num) : Num :=
  let couponAmount : Num :=
    match couponData with
    | none => .double (Float.Model.ofInt 0)
    | some coupon =>
        if coupon.discountType = some .fixed then validate coupon.discount
        else price * validate coupon.discount / 100
  couponAmount.toFixed digits

def calculatedTax (subTotal : Num) (element : TaxData) : TaxData :=
  { element with
    totalCalculatedValue :=
      some (if element.type = some .percent then subTotal * validate element.value / 100
        else validate element.value) }

def calculateTotalTaxAmount (digits : ℕ) (taxes : Option (List TaxData)) (subTotal : Num) : Num :=
  let calculated := (validateList taxes).map (calculatedTax subTotal)
  let taxAmount := Num.sumByDouble calculated
    fun element => (validate element.totalCalculatedValue).toFixed digits
  taxAmount.toFixed digits

def hourlyCalculation (digits : ℕ) (secTime : Int64) (price : Num) : Num :=
  let perMinuteCharge := price / 60
  let totalMinutes : Num := if secTime ≤ 3600 then 3600 / 60 else .int secTime / 60
  (totalMinutes * perMinuteCharge).toFixed digits

def totalServicePrice (digits : ℕ) (args : Arguments) (quantity : Int64) : Num :=
  match args.selectedPackage with
  | some package => (validate package.price).toFixed digits
  | none =>
      if args.serviceType = .hourly then
        hourlyCalculation digits args.durationDiff args.servicePrice
      else (args.servicePrice * .int quantity).toFixed digits

/-- The amounts where `digits` decimals are printed. -/
def calculations (digits : ℕ) (args : Arguments) : BookingAmountModel :=
  let quantity := if args.quantity = 0 then 1 else args.quantity
  let finalTotalServicePrice := totalServicePrice digits args quantity
  let finalDiscountAmount :=
    if args.selectedPackage.isNone && !args.discount.isZero then
      (finalTotalServicePrice / 100 * args.discount).toFixed digits
    else 0
  let finalCouponDiscountAmount :=
    if args.appliedCouponData.isSome then
      calculateCouponDiscount digits args.appliedCouponData finalTotalServicePrice
    else 0
  let finalServiceAddonAmount :=
    Num.sumByDouble (validateList args.serviceAddons) Serviceaddon.price
  let finalSubTotal :=
    (finalTotalServicePrice - finalDiscountAmount - finalCouponDiscountAmount +
      finalServiceAddonAmount).toFixed digits
  let totalExtraCharges :=
    Num.sumByDouble (validateList args.extraCharges)
      fun charge => validate charge.price * charge.qty.getD 1
  let finalTotalTax :=
    calculateTotalTaxAmount digits args.taxes (finalSubTotal + totalExtraCharges)
  { finalTotalServicePrice
    finalTotalTax
    finalSubTotal
    finalServiceAddonAmount
    finalDiscountAmount
    finalCouponDiscountAmount
    finalGrandTotalAmount :=
      (finalSubTotal + finalTotalTax + totalExtraCharges).toFixed digits }

/-- Nothing is returned where `toStringAsFixed` throws a `RangeError`, which the first amount
already meets. -/
def finalCalculations (priceDecimalPoint : ℤ) (args : Arguments) : Option BookingAmountModel :=
  if 0 ≤ priceDecimalPoint ∧ priceDecimalPoint ≤ 20 then
    some (calculations priceDecimalPoint.toNat args)
  else none

end FiksOpp.PriceDoubles
