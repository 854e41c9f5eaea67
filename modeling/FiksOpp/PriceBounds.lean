/-
Bounds of the amounts of `finalCalculations` and how they grow with its arguments.

Every rounding of the source keeps the order of what it rounds.  The one step where that
is not enough is the service price less its rounded discount, and there both lie on the
price grid.
-/

import FiksOpp.BookingCalculations

namespace FiksOpp.BookingCalculations

open DecimalRounding

def billedMinutes (secTime : ℤ) : ℚ :=
  if secTime ≤ 3600 then 3600 / 60 else secTime / 60

def countedQuantity (quantity : ℤ) : ℤ :=
  if quantity = 0 then 1 else quantity

def exactServicePrice (args : Arguments) : ℚ :=
  match args.selectedPackage with
  | some package => validate package.price
  | none =>
      if args.serviceType = .hourly then
        billedMinutes args.durationDiff * (args.servicePrice / 60)
      else args.servicePrice * countedQuantity args.quantity

/-- The share of the service price that the discount of the service takes; a package
takes none. -/
def discountShare (args : Arguments) : ℚ :=
  if args.selectedPackage.isNone then args.discount / 100 else 0

theorem finalTotalServicePrice_eq (decimals : ℕ) (args : Arguments) :
    (finalCalculations decimals args).finalTotalServicePrice =
      toDecimals decimals (exactServicePrice args) := by
  change totalServicePrice decimals args (countedQuantity args.quantity) = _
  unfold totalServicePrice exactServicePrice hourlyCalculation
  cases args.selectedPackage with
  | some package => rfl
  | none =>
      dsimp only
      split <;> rfl

theorem finalTotalServicePrice_onGrid (decimals : ℕ) (args : Arguments) :
    OnGrid decimals (finalCalculations decimals args).finalTotalServicePrice := by
  rw [finalTotalServicePrice_eq]
  exact toDecimals_onGrid decimals _

theorem finalDiscountAmount_eq (decimals : ℕ) (args : Arguments) :
    (finalCalculations decimals args).finalDiscountAmount =
      toDecimals decimals
        ((finalCalculations decimals args).finalTotalServicePrice * discountShare args) := by
  change (if args.selectedPackage.isNone ∧ args.discount ≠ 0 then
    toDecimals decimals ((finalCalculations decimals args).finalTotalServicePrice / 100 *
      args.discount) else 0) = _
  unfold discountShare
  by_cases unpackaged : args.selectedPackage.isNone = true
  · rw [if_pos unpackaged]
    by_cases discounted : args.discount = 0
    · rw [if_neg (fun both => both.2 discounted), discounted, zero_div, mul_zero, toDecimals_zero]
    · rw [if_pos ⟨unpackaged, discounted⟩]
      congr 1
      ring
  · rw [if_neg (fun both => unpackaged both.1), if_neg unpackaged, mul_zero, toDecimals_zero]

theorem exactSubTotal_eq (decimals : ℕ) (args : Arguments) :
    exactSubTotal decimals args =
      toDecimals decimals (exactServicePrice args) -
        toDecimals decimals (toDecimals decimals (exactServicePrice args) * discountShare args) -
        calculateCouponDiscount decimals args.appliedCouponData
          (toDecimals decimals (exactServicePrice args)) +
        serviceAddonAmount args.serviceAddons := by
  rw [exactSubTotal, finalCouponDiscountAmount_eq, finalDiscountAmount_eq,
    finalTotalServicePrice_eq]

theorem sum_map_nonneg {Item : Type*} {amount : Item → ℚ} {items : List Item}
    (nonneg : ∀ item ∈ items, 0 ≤ amount item) : 0 ≤ (items.map amount).sum := by
  apply List.sum_nonneg
  intro value member
  obtain ⟨item, inside, rfl⟩ := List.mem_map.mp member
  exact nonneg item inside

theorem sum_map_le {Item : Type*} {amount : Item → ℚ} {items items' : List Item}
    (raised : List.Forall₂ (fun item item' => amount item ≤ amount item') items items') :
    (items.map amount).sum ≤ (items'.map amount).sum := by
  induction raised with
  | nil => exact le_refl _
  | cons head _ ih =>
      rw [List.map_cons, List.map_cons, List.sum_cons, List.sum_cons]
      exact add_le_add head ih

theorem calculateTotalTaxAmount_eq_sum (decimals : ℕ) (taxes : Option (List TaxData))
    (subTotal : ℚ) :
    calculateTotalTaxAmount decimals taxes subTotal =
      toDecimals decimals
        ((validateList taxes).map fun tax => toDecimals decimals
          (if tax.type = some .percent then subTotal * validate tax.value / 100
            else validate tax.value)).sum := by
  unfold calculateTotalTaxAmount calculatedTaxes
  rw [List.map_map]
  rfl

theorem calculateTotalTaxAmount_nonneg (decimals : ℕ) {taxes : Option (List TaxData)}
    {subTotal : ℚ} (values : ∀ tax ∈ validateList taxes, 0 ≤ validate tax.value)
    (nonneg : 0 ≤ subTotal) : 0 ≤ calculateTotalTaxAmount decimals taxes subTotal := by
  rw [calculateTotalTaxAmount_eq_sum]
  apply toDecimals_nonneg
  apply sum_map_nonneg
  intro tax member
  have value := values tax member
  apply toDecimals_nonneg
  split
  · positivity
  · exact value

theorem calculateTotalTaxAmount_mono (decimals : ℕ) {taxes : Option (List TaxData)}
    (values : ∀ tax ∈ validateList taxes, 0 ≤ validate tax.value) {subTotal subTotal' : ℚ}
    (le : subTotal ≤ subTotal') :
    calculateTotalTaxAmount decimals taxes subTotal ≤
      calculateTotalTaxAmount decimals taxes subTotal' := by
  rw [calculateTotalTaxAmount_eq_sum, calculateTotalTaxAmount_eq_sum]
  apply toDecimals_mono
  apply List.sum_le_sum
  intro tax member
  have value := values tax member
  apply toDecimals_mono
  split
  · exact div_le_div_of_nonneg_right (mul_le_mul_of_nonneg_right le value) (by norm_num)
  · exact le_refl _

def chargeAmount (charge : ExtraChargesModel) : ℚ :=
  validate charge.price * charge.qty.getD 1

structure Uncouponed (args : Arguments) : Prop where
  coupon : args.appliedCouponData = none
  discount_nonneg : 0 ≤ args.discount
  discount_le : args.discount ≤ 100
  servicePrice : 0 ≤ args.servicePrice
  packagePrice : ∀ package, args.selectedPackage = some package → 0 ≤ validate package.price
  addons : ∀ addon ∈ validateList args.serviceAddons, 0 ≤ addon.price
  charges : ∀ charge ∈ validateList args.extraCharges, 0 ≤ chargeAmount charge
  taxes : ∀ tax ∈ validateList args.taxes, 0 ≤ validate tax.value

def QuantityCounts (args : Arguments) : Prop :=
  0 ≤ args.quantity ∨ args.selectedPackage.isSome = true ∨ args.serviceType = .hourly

theorem billedMinutes_nonneg (secTime : ℤ) : 0 ≤ billedMinutes secTime := by
  unfold billedMinutes
  split
  · norm_num
  · rename_i long
    have cast : (0 : ℚ) ≤ secTime := by exact_mod_cast (by omega : (0 : ℤ) ≤ secTime)
    positivity

theorem billedMinutes_mono {secTime secTime' : ℤ} (le : secTime ≤ secTime') :
    billedMinutes secTime ≤ billedMinutes secTime' := by
  unfold billedMinutes
  have cast : (secTime : ℚ) ≤ secTime' := by exact_mod_cast le
  by_cases short' : secTime' ≤ 3600
  · rw [if_pos short', if_pos (le_trans le short')]
  · rw [if_neg short']
    have long : (3600 : ℚ) ≤ secTime' := by exact_mod_cast (not_le.mp short').le
    split
    · exact div_le_div_of_nonneg_right long (by norm_num)
    · exact div_le_div_of_nonneg_right cast (by norm_num)

theorem countedQuantity_mono {quantity quantity' : ℤ} (le : quantity ≤ quantity') :
    countedQuantity quantity ≤ countedQuantity quantity' := by
  unfold countedQuantity
  split <;> split <;> omega

theorem countedQuantity_nonneg {quantity : ℤ} (nonneg : 0 ≤ quantity) :
    0 ≤ countedQuantity quantity := by
  unfold countedQuantity
  split <;> omega

theorem discountShare_nonneg {args : Arguments} (nonneg : 0 ≤ args.discount) :
    0 ≤ discountShare args := by
  unfold discountShare
  split
  · positivity
  · exact le_refl _

theorem discountShare_le {args : Arguments} (le : args.discount ≤ 100) :
    discountShare args ≤ 1 := by
  unfold discountShare
  split
  · linarith
  · norm_num

theorem exactServicePrice_nonneg {args : Arguments} (price : 0 ≤ args.servicePrice)
    (packagePrice : ∀ package, args.selectedPackage = some package → 0 ≤ validate package.price)
    (counts : QuantityCounts args) : 0 ≤ exactServicePrice args := by
  unfold exactServicePrice
  cases packaged : args.selectedPackage with
  | some package => exact packagePrice package packaged
  | none =>
      dsimp only
      by_cases hourly : args.serviceType = .hourly
      · rw [if_pos hourly]
        have minutes := billedMinutes_nonneg args.durationDiff
        positivity
      · rw [if_neg hourly]
        have quantity : 0 ≤ args.quantity := by
          rcases counts with quantity | package | other
          · exact quantity
          · rw [packaged] at package
            cases package
          · exact absurd other hourly
        have cast : (0 : ℚ) ≤ countedQuantity args.quantity := by
          exact_mod_cast countedQuantity_nonneg quantity
        positivity

section Sensible

variable {args : Arguments} (sensible : Uncouponed args)
include sensible

theorem Uncouponed.share_nonneg : 0 ≤ discountShare args :=
  discountShare_nonneg sensible.discount_nonneg

theorem Uncouponed.share_le : discountShare args ≤ 1 :=
  discountShare_le sensible.discount_le

theorem Uncouponed.finalTotalServicePrice_nonneg (decimals : ℕ) (counts : QuantityCounts args) :
    0 ≤ (finalCalculations decimals args).finalTotalServicePrice := by
  rw [finalTotalServicePrice_eq]
  exact toDecimals_nonneg decimals
    (exactServicePrice_nonneg sensible.servicePrice sensible.packagePrice counts)

theorem Uncouponed.finalDiscountAmount_le (decimals : ℕ) (counts : QuantityCounts args) :
    (finalCalculations decimals args).finalDiscountAmount ≤
      (finalCalculations decimals args).finalTotalServicePrice := by
  rw [finalDiscountAmount_eq]
  exact toDecimals_share_le (finalTotalServicePrice_onGrid decimals args)
    (sensible.finalTotalServicePrice_nonneg decimals counts) sensible.share_nonneg
    sensible.share_le

theorem Uncouponed.finalCouponDiscountAmount_eq_zero (decimals : ℕ) :
    (finalCalculations decimals args).finalCouponDiscountAmount = 0 := by
  rw [finalCouponDiscountAmount_eq, sensible.coupon, calculateCouponDiscount_none]

theorem Uncouponed.serviceAddonAmount_nonneg : 0 ≤ serviceAddonAmount args.serviceAddons :=
  sum_map_nonneg sensible.addons

theorem Uncouponed.totalExtraCharges_nonneg : 0 ≤ totalExtraCharges args.extraCharges :=
  sum_map_nonneg sensible.charges

theorem Uncouponed.exactSubTotal_nonneg (decimals : ℕ) (counts : QuantityCounts args) :
    0 ≤ exactSubTotal decimals args := by
  have discounted := sensible.finalDiscountAmount_le decimals counts
  have addons := sensible.serviceAddonAmount_nonneg
  unfold exactSubTotal
  rw [sensible.finalCouponDiscountAmount_eq_zero]
  linarith

theorem Uncouponed.finalSubTotal_nonneg (decimals : ℕ) (counts : QuantityCounts args) :
    0 ≤ (finalCalculations decimals args).finalSubTotal :=
  toDecimals_nonneg decimals (sensible.exactSubTotal_nonneg decimals counts)

end Sensible

structure BookingAmountModel.NonNegative (amounts : BookingAmountModel) : Prop where
  finalTotalServicePrice : 0 ≤ amounts.finalTotalServicePrice
  finalTotalTax : 0 ≤ amounts.finalTotalTax
  finalSubTotal : 0 ≤ amounts.finalSubTotal
  finalServiceAddonAmount : 0 ≤ amounts.finalServiceAddonAmount
  finalDiscountAmount : 0 ≤ amounts.finalDiscountAmount
  finalCouponDiscountAmount : 0 ≤ amounts.finalCouponDiscountAmount
  finalGrandTotalAmount : 0 ≤ amounts.finalGrandTotalAmount

theorem Uncouponed.nonNegative {args : Arguments} (sensible : Uncouponed args) (decimals : ℕ)
    (counts : QuantityCounts args) : (finalCalculations decimals args).NonNegative := by
  have price := sensible.finalTotalServicePrice_nonneg decimals counts
  have subTotal := sensible.finalSubTotal_nonneg decimals counts
  have charges := sensible.totalExtraCharges_nonneg
  have tax : 0 ≤ (finalCalculations decimals args).finalTotalTax :=
    calculateTotalTaxAmount_nonneg decimals sensible.taxes (add_nonneg subTotal charges)
  refine ⟨price, tax, subTotal, sensible.serviceAddonAmount_nonneg, ?_, ?_, ?_⟩
  · rw [finalDiscountAmount_eq]
    exact toDecimals_nonneg decimals (mul_nonneg price sensible.share_nonneg)
  · exact (sensible.finalCouponDiscountAmount_eq_zero decimals).ge
  · exact toDecimals_nonneg decimals (add_nonneg (add_nonneg subTotal tax) charges)

/-! ### Growth -/

/-- The second arguments differ from the first by larger numbers only. -/
structure Raises (args args' : Arguments) : Prop where
  servicePrice : args.servicePrice ≤ args'.servicePrice
  quantity : args.quantity ≤ args'.quantity
  durationDiff : args.durationDiff ≤ args'.durationDiff
  addons : List.Forall₂ (fun addon addon' => addon.price ≤ addon'.price)
    (validateList args.serviceAddons) (validateList args'.serviceAddons)
  charges : List.Forall₂ (fun charge charge' => chargeAmount charge ≤ chargeAmount charge')
    (validateList args.extraCharges) (validateList args'.extraCharges)
  taxes : args'.taxes = args.taxes
  coupon : args'.appliedCouponData = args.appliedCouponData
  selectedPackage : args'.selectedPackage = args.selectedPackage
  discount : args'.discount = args.discount
  serviceType : args'.serviceType = args.serviceType

theorem Raises.exactServicePrice_le {args args' : Arguments} (raises : Raises args args')
    (nonneg : 0 ≤ args.servicePrice)
    (counts : args.servicePrice = args'.servicePrice ∨ QuantityCounts args') :
    exactServicePrice args ≤ exactServicePrice args' := by
  unfold exactServicePrice
  rw [raises.selectedPackage, raises.serviceType]
  cases packaged : args.selectedPackage with
  | some package => exact le_refl _
  | none =>
      dsimp only
      by_cases hourly : args.serviceType = .hourly
      · rw [if_pos hourly, if_pos hourly]
        have minutes := billedMinutes_mono raises.durationDiff
        have perMinute := div_le_div_of_nonneg_right raises.servicePrice
          (by norm_num : (0 : ℚ) ≤ 60)
        exact mul_le_mul minutes perMinute (by positivity) (billedMinutes_nonneg _)
      · rw [if_neg hourly, if_neg hourly]
        have counted : (countedQuantity args.quantity : ℚ) ≤ countedQuantity args'.quantity := by
          exact_mod_cast countedQuantity_mono raises.quantity
        have larger : args.servicePrice * (countedQuantity args'.quantity : ℚ) ≤
            args'.servicePrice * countedQuantity args'.quantity := by
          rcases counts with same | quantity | package | other
          · rw [same]
          · have cast : (0 : ℚ) ≤ countedQuantity args'.quantity := by
              exact_mod_cast countedQuantity_nonneg quantity
            exact mul_le_mul_of_nonneg_right raises.servicePrice cast
          · rw [raises.selectedPackage, packaged] at package
            cases package
          · exact absurd (raises.serviceType ▸ other) hourly
        exact le_trans (mul_le_mul_of_nonneg_left counted nonneg) larger

theorem Raises.finalSubTotal_le {args args' : Arguments} (raises : Raises args args')
    (sensible : Uncouponed args) (decimals : ℕ)
    (counts : args.servicePrice = args'.servicePrice ∨ QuantityCounts args') :
    (finalCalculations decimals args).finalSubTotal ≤
      (finalCalculations decimals args').finalSubTotal := by
  have share : discountShare args' = discountShare args := by
    unfold discountShare
    rw [raises.selectedPackage, raises.discount]
  have price := toDecimals_mono decimals
    (raises.exactServicePrice_le sensible.servicePrice counts)
  have discounted := sub_toDecimals_share_mono
    (toDecimals_onGrid decimals (exactServicePrice args))
    (toDecimals_onGrid decimals (exactServicePrice args')) price sensible.share_nonneg
    sensible.share_le
  have addons : serviceAddonAmount args.serviceAddons ≤ serviceAddonAmount args'.serviceAddons :=
    sum_map_le raises.addons
  rw [finalSubTotal_eq, finalSubTotal_eq]
  apply toDecimals_mono
  rw [exactSubTotal_eq, exactSubTotal_eq, share, raises.coupon, sensible.coupon,
    calculateCouponDiscount_none, calculateCouponDiscount_none]
  linarith

theorem Raises.finalGrandTotalAmount_le {args args' : Arguments} (raises : Raises args args')
    (sensible : Uncouponed args) (decimals : ℕ)
    (counts : args.servicePrice = args'.servicePrice ∨ QuantityCounts args') :
    (finalCalculations decimals args).finalGrandTotalAmount ≤
      (finalCalculations decimals args').finalGrandTotalAmount := by
  have subTotal := raises.finalSubTotal_le sensible decimals counts
  have charges : totalExtraCharges args.extraCharges ≤ totalExtraCharges args'.extraCharges :=
    sum_map_le raises.charges
  have tax : (finalCalculations decimals args).finalTotalTax ≤
      (finalCalculations decimals args').finalTotalTax := by
    change calculateTotalTaxAmount decimals args.taxes _ ≤
      calculateTotalTaxAmount decimals args'.taxes _
    rw [raises.taxes]
    exact calculateTotalTaxAmount_mono decimals sensible.taxes (add_le_add subTotal charges)
  exact toDecimals_mono decimals (add_le_add (add_le_add subTotal tax) charges)

theorem hourlyCalculation_of_short (decimals : ℕ) {secTime : ℤ} (short : secTime ≤ 3600)
    (price : ℚ) : hourlyCalculation decimals secTime price =
      hourlyCalculation decimals 3600 price := by
  unfold hourlyCalculation
  dsimp only
  rw [if_pos short, if_pos (le_refl _)]

theorem finalCalculations_of_short (decimals : ℕ) {args : Arguments}
    (short : args.durationDiff ≤ 3600) :
    finalCalculations decimals args =
      finalCalculations decimals { args with durationDiff := 3600 } := by
  have price (quantity : ℤ) : totalServicePrice decimals args quantity =
      totalServicePrice decimals { args with durationDiff := 3600 } quantity := by
    unfold totalServicePrice
    rw [hourlyCalculation_of_short decimals short]
  unfold finalCalculations
  dsimp only
  rw [price]

/-- Without a coupon no amount is negative, the discount is at most the service price, the
grand total grows with each price, charge, quantity and duration, and an hour is the
least that is billed. -/
theorem finalCalculations_uncouponed (decimals : ℕ) (args : Arguments)
    (sensible : Uncouponed args) :
    (QuantityCounts args →
      (finalCalculations decimals args).NonNegative ∧
        (finalCalculations decimals args).finalDiscountAmount ≤
          (finalCalculations decimals args).finalTotalServicePrice) ∧
    (∀ args', Raises args args' →
      args.servicePrice = args'.servicePrice ∨ QuantityCounts args' →
        (finalCalculations decimals args).finalGrandTotalAmount ≤
          (finalCalculations decimals args').finalGrandTotalAmount) ∧
    (args.durationDiff ≤ 3600 →
      finalCalculations decimals args =
        finalCalculations decimals { args with durationDiff := 3600 }) := by
  refine ⟨?_, ?_, ?_⟩
  · intro counts
    exact ⟨sensible.nonNegative decimals counts, sensible.finalDiscountAmount_le decimals counts⟩
  · intro args' raises counts
    exact raises.finalGrandTotalAmount_le sensible decimals counts
  · intro short
    exact finalCalculations_of_short decimals short

def hourlyArguments (servicePrice addon charge : ℚ) (durationDiff : ℤ) : Arguments :=
  { servicePrice := servicePrice
    durationDiff := durationDiff
    discount := 15
    serviceAddons := some [{ price := addon }]
    extraCharges := some [{ price := some charge, qty := some 2 }]
    taxes := some [{ type := some .percent, value := some 25 }]
    serviceType := .hourly }

theorem finalCalculations_uncouponed_hourly :
    (finalCalculations 2 (hourlyArguments 99 20 5 600)).NonNegative ∧
      (finalCalculations 2 (hourlyArguments 99 20 5 600)).finalGrandTotalAmount ≤
        (finalCalculations 2 (hourlyArguments 100 30 8 5400)).finalGrandTotalAmount ∧
      finalCalculations 2 (hourlyArguments 99 20 5 600) =
        finalCalculations 2 (hourlyArguments 99 20 5 3600) := by
  have sensible : Uncouponed (hourlyArguments 99 20 5 600) :=
    { coupon := rfl
      discount_nonneg := by norm_num [hourlyArguments]
      discount_le := by norm_num [hourlyArguments]
      servicePrice := by norm_num [hourlyArguments]
      packagePrice := fun package chosen => nomatch chosen
      addons := by
        intro addon member
        rw [List.mem_singleton.mp member]
        norm_num
      charges := by
        intro charge member
        rw [List.mem_singleton.mp member]
        decide +kernel
      taxes := by
        intro tax member
        rw [List.mem_singleton.mp member]
        decide +kernel }
  have raises : Raises (hourlyArguments 99 20 5 600) (hourlyArguments 100 30 8 5400) :=
    { servicePrice := by norm_num [hourlyArguments]
      quantity := le_refl _
      durationDiff := by norm_num [hourlyArguments]
      addons := .cons (by norm_num) .nil
      charges := .cons (by decide +kernel) .nil
      taxes := rfl
      coupon := rfl
      selectedPackage := rfl
      discount := rfl
      serviceType := rfl }
  have hourly : QuantityCounts (hourlyArguments 99 20 5 600) := Or.inr (Or.inr rfl)
  obtain ⟨bounded, grows, least⟩ := finalCalculations_uncouponed 2 _ sensible
  exact ⟨(bounded hourly).1, grows _ raises (Or.inr (Or.inr (Or.inr rfl))), least (by decide)⟩

/-- A quantity below zero is not replaced as zero is. -/
theorem negative_quantity_counterexample :
    ¬ ∀ decimals args, Uncouponed args →
      (finalCalculations decimals args).NonNegative := by
  intro always
  have amounts := always 2 { servicePrice := 1, quantity := -1 }
    { coupon := rfl
      discount_nonneg := by norm_num
      discount_le := by norm_num
      servicePrice := by norm_num
      packagePrice := fun package chosen => nomatch chosen
      addons := fun addon member => nomatch member
      charges := fun charge member => nomatch member
      taxes := fun tax member => nomatch member }
  have price := amounts.finalTotalServicePrice
  revert price
  decide +kernel

/-! ### A percentage coupon -/

/-- The coupon and the discount take no more than the price between them. -/
structure PercentageCoupon (args : Arguments) (coupon : CouponData) : Prop where
  applied : args.appliedCouponData = some coupon
  percentage : coupon.discountType ≠ some .fixed
  servicePrice : 0 ≤ args.servicePrice
  packagePrice : ∀ package, args.selectedPackage = some package → 0 ≤ validate package.price
  quantity : 1 ≤ args.quantity
  addons : ∀ addon ∈ validateList args.serviceAddons, 0 ≤ addon.price
  discount_nonneg : 0 ≤ args.discount
  coupon_nonneg : 0 ≤ validate coupon.discount
  together : args.discount + validate coupon.discount ≤ 100

def couponShare (coupon : CouponData) : ℚ :=
  validate coupon.discount / 100

def idealSubTotal (args : Arguments) (coupon : CouponData) : ℚ :=
  exactServicePrice args * (1 - discountShare args - couponShare coupon) +
    serviceAddonAmount args.serviceAddons

/-- The price, the discount where there is one, the coupon and the subtotal. -/
def roundingSteps (args : Arguments) : ℚ :=
  if discountShare args = 0 then 3 else 4

def HalfUnit (decimals : ℕ) (amount : ℚ) : Prop :=
  ∃ units : ℤ, amount * 10 ^ decimals = units + 1 / 2

/-- Discount and coupon take the whole price, each ends in half a unit of the last decimal,
and the add-ons are no more than such a half. -/
def Overshoots (decimals : ℕ) (args : Arguments) (coupon : CouponData) : Prop :=
  discountShare args + couponShare coupon = 1 ∧
    HalfUnit decimals (toDecimals decimals (exactServicePrice args) * discountShare args) ∧
    serviceAddonAmount args.serviceAddons * 10 ^ decimals ≤ 1 / 2

section Couponed

variable {args : Arguments} {coupon : CouponData} (couponed : PercentageCoupon args coupon)
include couponed

theorem PercentageCoupon.exactSubTotal_eq (decimals : ℕ) :
    exactSubTotal decimals args =
      toDecimals decimals (exactServicePrice args) -
        toDecimals decimals (toDecimals decimals (exactServicePrice args) * discountShare args) -
        toDecimals decimals (toDecimals decimals (exactServicePrice args) * couponShare coupon) +
        serviceAddonAmount args.serviceAddons := by
  rw [BookingCalculations.exactSubTotal_eq, couponed.applied]
  unfold calculateCouponDiscount couponShare
  dsimp only
  rw [if_neg couponed.percentage, mul_div_assoc]

theorem PercentageCoupon.couponShare_nonneg : 0 ≤ couponShare coupon :=
  div_nonneg couponed.coupon_nonneg (by norm_num)

theorem PercentageCoupon.shares_le : discountShare args + couponShare coupon ≤ 1 := by
  have together := couponed.together
  have discount := couponed.discount_nonneg
  unfold discountShare couponShare
  split <;> linarith

theorem PercentageCoupon.price_nonneg (decimals : ℕ) :
    0 ≤ toDecimals decimals (exactServicePrice args) := by
  have quantity := couponed.quantity
  apply toDecimals_nonneg
  exact exactServicePrice_nonneg couponed.servicePrice couponed.packagePrice
    (Or.inl (by omega))

theorem PercentageCoupon.finalSubTotal_lt_zero_iff (decimals : ℕ) :
    (finalCalculations decimals args).finalSubTotal < 0 ↔ Overshoots decimals args coupon := by
  have power : (0 : ℚ) < 10 ^ decimals := by positivity
  have addons : 0 ≤ serviceAddonAmount args.serviceAddons * 10 ^ decimals :=
    mul_nonneg (sum_map_nonneg couponed.addons) power.le
  have price := couponed.price_nonneg decimals
  have shareNonneg := discountShare_nonneg couponed.discount_nonneg
  have couponShareNonneg := couponed.couponShare_nonneg
  obtain ⟨units, scaled⟩ := toDecimals_onGrid decimals (exactServicePrice args)
  rw [finalSubTotal_eq, toDecimals_lt_zero_iff, couponed.exactSubTotal_eq]
  unfold Overshoots HalfUnit
  generalize toDecimals decimals (exactServicePrice args) = rounded at price scaled ⊢
  have sum : rounded * discountShare args * 10 ^ decimals +
      rounded * couponShare coupon * 10 ^ decimals =
        units * (discountShare args + couponShare coupon) := by
    rw [← scaled]
    ring
  have unitsNonneg : (0 : ℚ) ≤ units := by
    rw [← scaled]
    positivity
  have bothLe : rounded * discountShare args * 10 ^ decimals +
      rounded * couponShare coupon * 10 ^ decimals ≤ units := by
    rw [sum]
    exact mul_le_of_le_one_right unitsNonneg couponed.shares_le
  rw [add_mul, sub_mul, sub_mul, toDecimals_mul_pow, toDecimals_mul_pow, scaled,
    sub_roundAway_add_le_iff (by positivity) (by positivity) bothLe addons, sum]
  constructor
  · rintro ⟨whole, ⟨half, halfEq⟩, small⟩
    refine ⟨?_, ⟨half, halfEq⟩, small⟩
    have unitsNe : (units : ℚ) ≠ 0 := by
      intro vanishes
      rw [mul_right_comm, scaled, vanishes, zero_mul] at halfEq
      have doubled : ((2 * half + 1 : ℤ) : ℚ) = (0 : ℤ) := by
        push_cast
        linarith
      have impossible := Int.cast_inj.mp doubled
      omega
    exact mul_left_cancel₀ unitsNe (whole.trans (mul_one _).symm)
  · rintro ⟨shares, half, small⟩
    exact ⟨by rw [shares, mul_one], half, small⟩

/-- Every rounding step moves the subtotal by half a unit of the last decimal at most. -/
theorem PercentageCoupon.abs_finalSubTotal_sub_le (decimals : ℕ) :
    |(finalCalculations decimals args).finalSubTotal - idealSubTotal args coupon| ≤
      roundingSteps args * (1 / 2 / 10 ^ decimals) := by
  have shareNonneg := discountShare_nonneg couponed.discount_nonneg
  have couponShareNonneg := couponed.couponShare_nonneg
  have shares := couponed.shares_le
  rw [finalSubTotal_eq, couponed.exactSubTotal_eq]
  unfold idealSubTotal
  have priceError := abs_toDecimals_sub_le decimals (exactServicePrice args)
  generalize toDecimals decimals (exactServicePrice args) = rounded at priceError ⊢
  have discountError := abs_toDecimals_sub_le decimals (rounded * discountShare args)
  have couponError := abs_toDecimals_sub_le decimals (rounded * couponShare coupon)
  have kept : |(rounded - exactServicePrice args) *
      (1 - discountShare args - couponShare coupon)| ≤ 1 / 2 / 10 ^ decimals := by
    rw [abs_mul, abs_of_nonneg (by linarith : 0 ≤ 1 - discountShare args - couponShare coupon)]
    have factor := mul_le_of_le_one_right (abs_nonneg (rounded - exactServicePrice args))
      (by linarith : 1 - discountShare args - couponShare coupon ≤ 1)
    exact le_trans factor priceError
  have last := abs_toDecimals_sub_le decimals
    (rounded - toDecimals decimals (rounded * discountShare args) -
      toDecimals decimals (rounded * couponShare coupon) + serviceAddonAmount args.serviceAddons)
  rw [abs_le] at kept discountError couponError last ⊢
  unfold roundingSteps
  by_cases undiscounted : discountShare args = 0
  · rw [if_pos undiscounted]
    rw [undiscounted, mul_zero, toDecimals_zero, sub_zero] at last
    rw [undiscounted, sub_zero] at kept
    rw [undiscounted, mul_zero, toDecimals_zero, sub_zero, sub_zero]
    constructor <;> linarith
  · rw [if_neg undiscounted]
    constructor <;> linarith

end Couponed

/-- The subtotal under a percentage coupon is off by half a unit of the last decimal per
rounding step at most, and it is negative exactly when the two reductions overshoot. -/
theorem couponed_finalSubTotal_iff (decimals : ℕ) (args : Arguments) (coupon : CouponData)
    (couponed : PercentageCoupon args coupon) :
    (0 ≤ (finalCalculations decimals args).finalSubTotal ∧
      |(finalCalculations decimals args).finalSubTotal - idealSubTotal args coupon| ≤
        roundingSteps args * (1 / 2 / 10 ^ decimals)) ↔
      ¬ Overshoots decimals args coupon := by
  rw [← couponed.finalSubTotal_lt_zero_iff, not_lt]
  exact and_iff_left (couponed.abs_finalSubTotal_sub_le decimals)

def halfOff : CouponData :=
  { discount := some 50, discountType := some .percent }

def halfPriced (servicePrice : ℚ) : Arguments :=
  { servicePrice := servicePrice, appliedCouponData := some halfOff, discount := 50 }

theorem percentageCoupon_halfPriced {servicePrice : ℚ} (nonneg : 0 ≤ servicePrice) :
    PercentageCoupon (halfPriced servicePrice) halfOff :=
  { applied := rfl
    percentage := by decide
    servicePrice := nonneg
    packagePrice := fun package chosen => nomatch chosen
    quantity := le_refl _
    addons := fun addon member => nomatch member
    discount_nonneg := by norm_num [halfPriced]
    coupon_nonneg := by norm_num [halfOff]
    together := by norm_num [halfPriced, halfOff] }

theorem couponed_finalSubTotal_iff_halfPriced :
    0 ≤ (finalCalculations 2 (halfPriced 1)).finalSubTotal := by
  refine ((couponed_finalSubTotal_iff 2 (halfPriced 1) halfOff
    (percentageCoupon_halfPriced (by norm_num))).mpr ?_).1
  rintro ⟨_, ⟨half, halfEq⟩, _⟩
  have scaled : toDecimals 2 (exactServicePrice (halfPriced 1)) *
      discountShare (halfPriced 1) * 10 ^ 2 = 50 := by decide +kernel
  rw [scaled] at halfEq
  have doubled : ((100 : ℤ) : ℚ) = (2 * half + 1 : ℤ) := by
    push_cast
    linarith
  have impossible := Int.cast_inj.mp doubled
  omega

/-- Half off twice at a price of 1.01 leaves minus one cent. -/
theorem half_off_twice_counterexample :
    ¬ ∀ decimals args coupon, PercentageCoupon args coupon →
      0 ≤ (finalCalculations decimals args).finalSubTotal := by
  intro always
  have subTotal := always 2 (halfPriced (101 / 100)) halfOff
    (percentageCoupon_halfPriced (by norm_num))
  revert subTotal
  decide +kernel

end FiksOpp.BookingCalculations
