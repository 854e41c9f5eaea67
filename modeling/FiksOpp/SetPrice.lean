/-
The recursion of `setPrice` over exact amounts.

A call that does not end uses up any depth of the stack, so an end is an end within some
depth.  The second call has no coupon left to drop, and all later calls repeat it.
-/

import FiksOpp.BookingRequest
import FiksOpp.PriceBounds

namespace FiksOpp.BookingRequest

open DecimalRounding
open BookingCalculations

/-- The state after `setPrice` has returned; nothing where the depth does not suffice. -/
def setPriceWithin (decimals : ℕ) (screen : BookServiceScreen)
    (selectedServiceAddon : List Serviceaddon) : ℕ → BookServiceState → Option BookServiceState
  | 0, _ => none
  | depth + 1, state =>
      match setPricePass decimals screen selectedServiceAddon state with
      | (next, true) => setPriceWithin decimals screen selectedServiceAddon depth next
      | (next, false) => some next

/-- The price, less the discount and the coupon, plus the add-ons, unrounded. -/
def owed (decimals : ℕ) (screen : BookServiceScreen) (selectedServiceAddon : List Serviceaddon)
    (itemCount : ℤ) (coupon : Option CouponData) : ℚ :=
  let price :=
    match screen.selectedPackage with
    | some package => toDecimals decimals (validate package.price)
    | none =>
        toDecimals decimals
          (validate screen.data.serviceDetail.price * countedQuantity itemCount)
  let discount :=
    match screen.selectedPackage with
    | some _ => 0
    | none => toDecimals decimals (price * (validate screen.data.serviceDetail.discount / 100))
  price - discount - calculateCouponDiscount decimals coupon price +
    serviceAddonAmount (some selectedServiceAddon)

section Passes

variable (decimals : ℕ) (screen : BookServiceScreen) (selectedServiceAddon : List Serviceaddon)

def couponDropped (state : BookServiceState) : BookServiceState :=
  { state with
    bookingAmountModel :=
      finalCalculations decimals (priceArguments screen selectedServiceAddon state)
    appliedCouponData := none }

def priced (state : BookServiceState) : BookServiceState :=
  { state with
    bookingAmountModel :=
      finalCalculations decimals (priceArguments screen selectedServiceAddon state)
    advancePaymentAmount :=
      (finalCalculations decimals
          (priceArguments screen selectedServiceAddon state)).finalGrandTotalAmount *
        toDecimals decimals
          (validate screen.data.serviceDetail.advancePaymentPercentage / 100) }

def owedIn (state : BookServiceState) : ℚ :=
  owed decimals screen selectedServiceAddon state.itemCount state.appliedCouponData

theorem owedIn_eq_exactSubTotal (state : BookServiceState) :
    owedIn decimals screen selectedServiceAddon state =
      exactSubTotal decimals (priceArguments screen selectedServiceAddon state) := by
  rw [exactSubTotal_eq]
  unfold owedIn owed exactServicePrice discountShare priceArguments
  cases screen.selectedPackage with
  | some package =>
      dsimp only
      rw [Option.isNone_some, if_neg Bool.false_ne_true, mul_zero, toDecimals_zero]
  | none => rfl

theorem finalSubTotal_eq_owedIn (state : BookServiceState) :
    (finalCalculations decimals (priceArguments screen selectedServiceAddon state)).finalSubTotal =
      toDecimals decimals (owedIn decimals screen selectedServiceAddon state) := by
  rw [owedIn_eq_exactSubTotal, finalSubTotal_eq]

theorem setPricePass_eq (state : BookServiceState) :
    setPricePass decimals screen selectedServiceAddon state =
      if owedIn decimals screen selectedServiceAddon state < 0 then
        (couponDropped decimals screen selectedServiceAddon state, true)
      else (priced decimals screen selectedServiceAddon state, false) := by
  rw [owedIn_eq_exactSubTotal]
  exact if_congr (subTotalIsNegative_iff decimals _) rfl rfl

theorem setPriceWithin_of_nonneg {state : BookServiceState}
    (nonneg : 0 ≤ owedIn decimals screen selectedServiceAddon state) (depth : ℕ) :
    setPriceWithin decimals screen selectedServiceAddon (depth + 1) state =
      some (priced decimals screen selectedServiceAddon state) := by
  rw [setPriceWithin, setPricePass_eq, if_neg (not_lt.mpr nonneg)]

theorem setPriceWithin_of_negative {state : BookServiceState}
    (negative : owedIn decimals screen selectedServiceAddon state < 0) (depth : ℕ) :
    setPriceWithin decimals screen selectedServiceAddon (depth + 1) state =
      setPriceWithin decimals screen selectedServiceAddon depth
        (couponDropped decimals screen selectedServiceAddon state) := by
  rw [setPriceWithin, setPricePass_eq, if_pos negative]

theorem setPriceWithin_of_dropped {state : BookServiceState}
    (dropped : state.appliedCouponData = none)
    (negative : owed decimals screen selectedServiceAddon state.itemCount none < 0) (depth : ℕ) :
    setPriceWithin decimals screen selectedServiceAddon depth state = none := by
  induction depth generalizing state with
  | zero => rfl
  | succ depth ih =>
      have here : owedIn decimals screen selectedServiceAddon state < 0 := by
        rw [owedIn, dropped]
        exact negative
      rw [setPriceWithin_of_negative decimals screen selectedServiceAddon here]
      exact ih rfl negative

theorem setPriceWithin_cases {depth : ℕ} {state final : BookServiceState}
    (ends : setPriceWithin decimals screen selectedServiceAddon depth state = some final) :
    (0 ≤ owedIn decimals screen selectedServiceAddon state ∧
      final = priced decimals screen selectedServiceAddon state) ∨
    (owedIn decimals screen selectedServiceAddon state < 0 ∧
      0 ≤ owed decimals screen selectedServiceAddon state.itemCount none ∧
      final = priced decimals screen selectedServiceAddon
        (couponDropped decimals screen selectedServiceAddon state)) := by
  cases depth with
  | zero => cases ends
  | succ depth =>
      rcases le_or_gt 0 (owedIn decimals screen selectedServiceAddon state) with nonneg | negative
      · rw [setPriceWithin_of_nonneg decimals screen selectedServiceAddon nonneg] at ends
        exact Or.inl ⟨nonneg, (Option.some.inj ends).symm⟩
      · rw [setPriceWithin_of_negative decimals screen selectedServiceAddon negative] at ends
        right
        refine ⟨negative, ?_⟩
        rcases le_or_gt 0 (owed decimals screen selectedServiceAddon state.itemCount none) with
          without | below
        · cases depth with
          | zero => cases ends
          | succ depth =>
              have again : 0 ≤ owedIn decimals screen selectedServiceAddon
                  (couponDropped decimals screen selectedServiceAddon state) := without
              rw [setPriceWithin_of_nonneg decimals screen selectedServiceAddon again] at ends
              exact ⟨without, (Option.some.inj ends).symm⟩
        · have never : setPriceWithin decimals screen selectedServiceAddon depth
              (couponDropped decimals screen selectedServiceAddon state) = none :=
            @setPriceWithin_of_dropped decimals screen selectedServiceAddon
              (couponDropped decimals screen selectedServiceAddon state) rfl below depth
          rw [never] at ends
          cases ends

/-- An end within any depth is what `setPrice` leaves. -/
theorem setPriceWithin_eq_setPrice {depth : ℕ} {state final : BookServiceState}
    (ends : setPriceWithin decimals screen selectedServiceAddon depth state = some final) :
    final = setPrice decimals screen selectedServiceAddon state := by
  unfold setPrice
  rcases setPriceWithin_cases decimals screen selectedServiceAddon ends with
    ⟨nonneg, same⟩ | ⟨negative, without, same⟩
  · rw [same, setPricePass_eq, if_neg (not_lt.mpr nonneg)]
  · have again : ¬ owedIn decimals screen selectedServiceAddon
        (couponDropped decimals screen selectedServiceAddon state) < 0 := not_lt.mpr without
    rw [same, setPricePass_eq, if_pos negative]
    dsimp only
    rw [setPricePass_eq, if_neg again]

end Passes

end FiksOpp.BookingRequest
