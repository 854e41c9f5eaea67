/-
The discounted price on the service page beside the one `finalCalculations` charges.

The page drops the fraction of the percentage and rounds once.  The charge keeps the
fraction and rounds the price and its discount.
-/

import FiksOpp.PriceBounds

namespace FiksOpp

open DecimalRounding
open BookingCalculations

def calculatePercentage (price : ℚ) (discount : ℤ) : ℚ :=
  price - price * discount / 100

def ServiceData.getDiscountedPrice (service : ServiceData) : ℚ :=
  calculatePercentage (validate service.price) (truncate (validate service.discount))

namespace DiscountedPrice

/-- `toPriceFormat` prints the number at the price decimals. -/
def shownPrice (decimals : ℕ) (service : ServiceData) : ℚ :=
  toDecimals decimals service.getDiscountedPrice

/-- One unit of the fixed-price service without a package, whatever is added to it. -/
def fixedArguments (service : ServiceData) (added : Arguments) : Arguments :=
  { added with
    servicePrice := validate service.price
    quantity := 1
    selectedPackage := none
    discount := validate service.discount
    serviceType := .fixed }

def chargedPrice (decimals : ℕ) (service : ServiceData) (added : Arguments) : ℚ :=
  let amounts := finalCalculations decimals (fixedArguments service added)
  amounts.finalTotalServicePrice - amounts.finalDiscountAmount

def exactChargedPrice (decimals : ℕ) (service : ServiceData) : ℚ :=
  toDecimals decimals (validate service.price) * (1 - validate service.discount / 100)

def exactShownPrice (service : ServiceData) : ℚ :=
  validate service.price * (1 - truncate (validate service.discount) / 100)

/-- A half unit of the last decimal lies between the two prices before they are rounded. -/
def RoundedApart (decimals : ℕ) (service : ServiceData) : Prop :=
  HalfBetween (|exactChargedPrice decimals service| * 10 ^ decimals)
    (|exactShownPrice service| * 10 ^ decimals)

theorem chargedPrice_eq (decimals : ℕ) (service : ServiceData) (added : Arguments) :
    chargedPrice decimals service added =
      toDecimals decimals (validate service.price) -
        toDecimals decimals
          (toDecimals decimals (validate service.price) * (validate service.discount / 100)) := by
  have price : exactServicePrice (fixedArguments service added) = validate service.price := by
    change validate service.price * ((1 : ℤ) : ℚ) = _
    rw [Int.cast_one, mul_one]
  unfold chargedPrice
  dsimp only
  rw [finalDiscountAmount_eq, finalTotalServicePrice_eq, price]
  rfl

theorem toDecimals_discounted_iff (decimals : ℕ) {price shown share : ℚ} (nonneg : 0 ≤ price)
    (shareNonneg : 0 ≤ share) (atMost : share ≤ 1) (shownLe : shown ≤ 1) :
    toDecimals decimals (price * (1 - shown)) =
        toDecimals decimals price - toDecimals decimals (toDecimals decimals price * share) ↔
      ¬ HalfBetween (|toDecimals decimals price * (1 - share)| * 10 ^ decimals)
        (|price * (1 - shown)| * 10 ^ decimals) := by
  have rounded := toDecimals_nonneg decimals nonneg
  have kept : 0 ≤ price * (1 - shown) := mul_nonneg nonneg (by linarith)
  have charged : 0 ≤ toDecimals decimals price * (1 - share) := mul_nonneg rounded (by linarith)
  rw [toDecimals_eq_sub_iff (toDecimals_onGrid decimals price) kept
    (mul_nonneg rounded shareNonneg), abs_of_nonneg kept, abs_of_nonneg charged, mul_one_sub,
    mul_one_sub]

/-- The shown price is the charged price exactly when they are not rounded apart. -/
theorem shownPrice_eq_iff (decimals : ℕ) (service : ServiceData) (added : Arguments)
    (nonneg : 0 ≤ validate service.discount) (le : validate service.discount ≤ 100) :
    shownPrice decimals service = chargedPrice decimals service added ↔
      ¬ RoundedApart decimals service := by
  have truncated := truncate_le_of_nonneg nonneg
  have shown : service.getDiscountedPrice =
      validate service.price * (1 - truncate (validate service.discount) / 100) := by
    unfold ServiceData.getDiscountedPrice calculatePercentage
    ring
  have shareNonneg : 0 ≤ validate service.discount / 100 := by positivity
  have atMost : validate service.discount / 100 ≤ 1 := by linarith
  have shownLe : (truncate (validate service.discount) : ℚ) / 100 ≤ 1 := by linarith
  rw [chargedPrice_eq]
  unfold shownPrice RoundedApart exactChargedPrice exactShownPrice
  rw [shown]
  generalize validate service.price = price
  by_cases positive : 0 ≤ price
  · exact toDecimals_discounted_iff decimals positive shareNonneg atMost shownLe
  · -- both roundings are symmetric about zero
    have mirrored := toDecimals_discounted_iff decimals (by linarith : 0 ≤ -price) shareNonneg
      atMost shownLe
    rw [neg_mul, toDecimals_neg, toDecimals_neg, neg_mul, toDecimals_neg, neg_mul, abs_neg,
      abs_neg] at mirrored
    rw [← mirrored]
    constructor <;> intro same <;> linarith

theorem shownPrice_eq_iff_example :
    shownPrice 2 { price := some 200, discount := some 12 } =
      chargedPrice 2 { price := some 200, discount := some 12 } {} := by
  apply (shownPrice_eq_iff 2 { price := some 200, discount := some 12 } {} (by norm_num)
    (by norm_num)).mpr
  have charged : |exactChargedPrice 2 { price := some 200, discount := some 12 }| * 10 ^ 2 =
      17600 := by decide +kernel
  have shown : |exactShownPrice { price := some 200, discount := some 12 }| * 10 ^ 2 =
      17600 := by decide +kernel
  unfold RoundedApart
  rw [charged, shown, halfBetween_self_iff]
  rintro ⟨half, halfEq⟩
  have doubled : ((35200 : ℤ) : ℚ) = (2 * half + 1 : ℤ) := by
    push_cast
    linarith
  have impossible := Int.cast_inj.mp doubled
  omega

/-- With 12.5 percent off 200 the page shows 176, and 175 is charged. -/
theorem fraction_of_percent_counterexample :
    ¬ ∀ decimals service added, 0 ≤ validate service.discount →
      validate service.discount ≤ 100 →
        shownPrice decimals service = chargedPrice decimals service added := by
  intro always
  have same := always 2 { price := some 200, discount := some (25 / 2) } {} (by norm_num)
    (by norm_num)
  revert same
  decide +kernel

end DiscountedPrice

end FiksOpp
