/-
The recursion of `setPrice` over the numbers of the language.

The sign bit decides whether it calls itself, and minus zero has one: a coupon that takes all
that is owed can leave a sum just below zero, whose text is read back as minus zero.
-/

import FiksOpp.PriceDoubles

namespace FiksOpp.PriceDoubles

open Binary64

structure ServiceData where
  price : Option Num := none
  discount : Option Num := none
  advancePaymentPercentage : Option Num := none

/-- The screen is opened with a service; `bookNow` has written into it. -/
structure ServiceDetailResponse where
  serviceDetail : ServiceData
  taxes : Option (List TaxData) := none

structure BookServiceScreen where
  data : ServiceDetailResponse
  selectedPackage : Option BookingPackage := none

structure BookServiceState where
  appliedCouponData : Option CouponData := none
  bookingAmountModel : BookingAmountModel := {}
  advancePaymentAmount : Num := 0
  itemCount : Int64 := 1

def priceArguments (screen : BookServiceScreen) (selectedServiceAddon : List Serviceaddon)
    (itemCount : Int64) (appliedCouponData : Option CouponData) : Arguments :=
  { servicePrice := validate screen.data.serviceDetail.price
    appliedCouponData
    serviceAddons := some selectedServiceAddon
    discount := validate screen.data.serviceDetail.discount
    taxes := screen.data.taxes
    quantity := itemCount
    selectedPackage := screen.selectedPackage }

inductive Activation where
  | throws
  | callsItself (state : BookServiceState)
  | returns (state : BookServiceState)

section Recursion

variable (priceDecimalPoint : ℤ) (screen : BookServiceScreen)
  (selectedServiceAddon : List Serviceaddon)

def setPricePass (state : BookServiceState) : Activation :=
  match finalCalculations priceDecimalPoint
    (priceArguments screen selectedServiceAddon state.itemCount state.appliedCouponData) with
  | none => .throws
  | some amounts =>
      if amounts.finalSubTotal.isNegative then
        .callsItself { state with bookingAmountModel := amounts, appliedCouponData := none }
      else
        .returns { state with
          bookingAmountModel := amounts
          advancePaymentAmount :=
            amounts.finalGrandTotalAmount *
              (validate screen.data.serviceDetail.advancePaymentPercentage / 100).toFixed
                priceDecimalPoint.toNat }

/-- The state that `setPrice` returns with; nothing where it throws, or where the depth of the
stack does not suffice. -/
def setPriceWithin : ℕ → BookServiceState → Option BookServiceState
  | 0, _ => none
  | depth + 1, state =>
      match setPricePass priceDecimalPoint screen selectedServiceAddon state with
      | .throws => none
      | .callsItself next => setPriceWithin depth next
      | .returns final => some final

/-- The price, less the discount and the coupon, plus the add-ons, as the machine adds them
up. -/
def owed (itemCount : Int64) (appliedCouponData : Option CouponData) : Num :=
  let digits := priceDecimalPoint.toNat
  let price :=
    match screen.selectedPackage with
    | some package => (validate package.price).toFixed digits
    | none =>
        (validate screen.data.serviceDetail.price *
          .int (if itemCount = 0 then 1 else itemCount)).toFixed digits
  let discount : Num :=
    match screen.selectedPackage with
    | some _ => 0
    | none =>
        if (validate screen.data.serviceDetail.discount).isZero then 0
        else (price / 100 * validate screen.data.serviceDetail.discount).toFixed digits
  let coupon : Num :=
    match appliedCouponData with
    | none => 0
    | some coupon => calculateCouponDiscount digits (some coupon) price
  price - discount - coupon + Num.sumByDouble selectedServiceAddon Serviceaddon.price

/-- `setPrice` returns, with a subtotal of at least zero, and it has kept the coupon exactly
where the subtotal with the coupon is at least zero. -/
def EndsWell (state : BookServiceState) : Prop :=
  ∃ depth final,
    setPriceWithin priceDecimalPoint screen selectedServiceAddon depth state = some final ∧
      final.bookingAmountModel.finalSubTotal.isAtLeastZero = true ∧
      ∀ coupon, state.appliedCouponData = some coupon →
        ∃ amounts,
          finalCalculations priceDecimalPoint
              (priceArguments screen selectedServiceAddon state.itemCount (some coupon)) =
            some amounts ∧
          (final.appliedCouponData = some coupon ↔ amounts.finalSubTotal.isAtLeastZero = true)

theorem finalSubTotal_eq (itemCount : Int64) (appliedCouponData : Option CouponData) :
    (calculations priceDecimalPoint.toNat
        (priceArguments screen selectedServiceAddon itemCount appliedCouponData)).finalSubTotal =
      (owed priceDecimalPoint screen selectedServiceAddon itemCount
        appliedCouponData).toFixed priceDecimalPoint.toNat := by
  unfold calculations owed priceArguments totalServicePrice
  cases screen.selectedPackage with
  | some package => cases appliedCouponData <;> rfl
  | none =>
      cases (validate screen.data.serviceDetail.discount).isZero <;>
        cases appliedCouponData <;> rfl

def couponDropped (state : BookServiceState) : BookServiceState :=
  { state with
    bookingAmountModel := calculations priceDecimalPoint.toNat
      (priceArguments screen selectedServiceAddon state.itemCount state.appliedCouponData)
    appliedCouponData := none }

def priced (state : BookServiceState) : BookServiceState :=
  let amounts := calculations priceDecimalPoint.toNat
    (priceArguments screen selectedServiceAddon state.itemCount state.appliedCouponData)
  { state with
    bookingAmountModel := amounts
    advancePaymentAmount := amounts.finalGrandTotalAmount *
      (validate screen.data.serviceDetail.advancePaymentPercentage / 100).toFixed
        priceDecimalPoint.toNat }

def owedIn (state : BookServiceState) : Float.Model :=
  (owed priceDecimalPoint screen selectedServiceAddon state.itemCount
    state.appliedCouponData).toDouble

def owedWithout (state : BookServiceState) : Float.Model :=
  (owed priceDecimalPoint screen selectedServiceAddon state.itemCount none).toDouble

theorem owedIn_of_uncouponed {state : BookServiceState}
    (uncouponed : state.appliedCouponData = none) :
    owedIn priceDecimalPoint screen selectedServiceAddon state =
      owedWithout priceDecimalPoint screen selectedServiceAddon state := by
  rw [owedIn, uncouponed, owedWithout]

theorem owedIn_couponDropped (state : BookServiceState) :
    owedIn priceDecimalPoint screen selectedServiceAddon
        (couponDropped priceDecimalPoint screen selectedServiceAddon state) =
      owedWithout priceDecimalPoint screen selectedServiceAddon state := rfl

theorem owedWithout_couponDropped (state : BookServiceState) :
    owedWithout priceDecimalPoint screen selectedServiceAddon
        (couponDropped priceDecimalPoint screen selectedServiceAddon state) =
      owedWithout priceDecimalPoint screen selectedServiceAddon state := rfl

theorem setPriceWithin_of_rejected (rejected : ¬ (0 ≤ priceDecimalPoint ∧ priceDecimalPoint ≤ 20))
    (depth : ℕ) (state : BookServiceState) :
    setPriceWithin priceDecimalPoint screen selectedServiceAddon depth state = none := by
  cases depth with
  | zero => rfl
  | succ depth =>
      rw [setPriceWithin, setPricePass, finalCalculations, if_neg rejected]

section Accepted

variable {priceDecimalPoint} (accepted : 0 ≤ priceDecimalPoint ∧ priceDecimalPoint ≤ 20)

include accepted

theorem setPricePass_eq (state : BookServiceState) :
    setPricePass priceDecimalPoint screen selectedServiceAddon state =
      if isNegative (owedIn priceDecimalPoint screen selectedServiceAddon state) then
        .callsItself (couponDropped priceDecimalPoint screen selectedServiceAddon state)
      else .returns (priced priceDecimalPoint screen selectedServiceAddon state) := by
  have found : (calculations priceDecimalPoint.toNat (priceArguments screen selectedServiceAddon
      state.itemCount state.appliedCouponData)).finalSubTotal.isNegative =
        isNegative (owedIn priceDecimalPoint screen selectedServiceAddon state) := by
    rw [finalSubTotal_eq]
    exact isNegative_fixed (by omega) _
  rw [setPricePass, finalCalculations, if_pos accepted]
  dsimp only
  rw [found]
  rfl

theorem setPriceWithin_of_upright {state : BookServiceState}
    (upright : isNegative (owedIn priceDecimalPoint screen selectedServiceAddon state) = false)
    (depth : ℕ) :
    setPriceWithin priceDecimalPoint screen selectedServiceAddon (depth + 1) state =
      some (priced priceDecimalPoint screen selectedServiceAddon state) := by
  rw [setPriceWithin, setPricePass_eq screen selectedServiceAddon accepted, upright]
  rfl

theorem setPriceWithin_of_negative {state : BookServiceState}
    (negative : isNegative (owedIn priceDecimalPoint screen selectedServiceAddon state) = true)
    (depth : ℕ) :
    setPriceWithin priceDecimalPoint screen selectedServiceAddon (depth + 1) state =
      setPriceWithin priceDecimalPoint screen selectedServiceAddon depth
        (couponDropped priceDecimalPoint screen selectedServiceAddon state) := by
  rw [setPriceWithin, setPricePass_eq screen selectedServiceAddon accepted, negative]
  rfl

/-- Without a coupon a negative sum is never left. -/
theorem setPriceWithin_of_dropped {state : BookServiceState}
    (dropped : state.appliedCouponData = none)
    (negative : isNegative (owedWithout priceDecimalPoint screen selectedServiceAddon state) = true)
    (depth : ℕ) :
    setPriceWithin priceDecimalPoint screen selectedServiceAddon depth state = none := by
  induction depth generalizing state with
  | zero => rfl
  | succ depth ih =>
      have here : isNegative (owedIn priceDecimalPoint screen selectedServiceAddon state) =
          true := by
        rw [owedIn, dropped]
        exact negative
      rw [setPriceWithin_of_negative screen selectedServiceAddon accepted here]
      apply ih rfl
      rw [owedWithout_couponDropped]
      exact negative

theorem setPriceWithin_cases {depth : ℕ} {state final : BookServiceState}
    (returns : setPriceWithin priceDecimalPoint screen selectedServiceAddon depth state =
      some final) :
    (isNegative (owedIn priceDecimalPoint screen selectedServiceAddon state) = false ∧
      final = priced priceDecimalPoint screen selectedServiceAddon state) ∨
    (isNegative (owedIn priceDecimalPoint screen selectedServiceAddon state) = true ∧
      isNegative (owedWithout priceDecimalPoint screen selectedServiceAddon state) = false ∧
      final = priced priceDecimalPoint screen selectedServiceAddon
        (couponDropped priceDecimalPoint screen selectedServiceAddon state)) := by
  cases depth with
  | zero => cases returns
  | succ depth =>
      cases first : isNegative (owedIn priceDecimalPoint screen selectedServiceAddon state) with
      | false =>
          rw [setPriceWithin_of_upright screen selectedServiceAddon accepted first] at returns
          exact Or.inl ⟨rfl, (Option.some.inj returns).symm⟩
      | true =>
          rw [setPriceWithin_of_negative screen selectedServiceAddon accepted first] at returns
          cases second :
              isNegative (owedWithout priceDecimalPoint screen selectedServiceAddon state) with
          | true =>
              rw [← owedWithout_couponDropped] at second
              rw [setPriceWithin_of_dropped screen selectedServiceAddon accepted rfl second]
                at returns
              cases returns
          | false =>
              cases depth with
              | zero => cases returns
              | succ depth =>
                  have upright := second
                  rw [← owedIn_couponDropped] at upright
                  rw [setPriceWithin_of_upright screen selectedServiceAddon accepted upright]
                    at returns
                  exact Or.inr ⟨rfl, rfl, (Option.some.inj returns).symm⟩

theorem isAtLeastZero_iff (state : BookServiceState) :
    (calculations priceDecimalPoint.toNat (priceArguments screen selectedServiceAddon
        state.itemCount state.appliedCouponData)).finalSubTotal.isAtLeastZero = true ↔
      kind (owedIn priceDecimalPoint screen selectedServiceAddon state) ≠ .notANumber ∧
        ¬ BelowZero priceDecimalPoint.toNat
          (owedIn priceDecimalPoint screen selectedServiceAddon state) := by
  rw [finalSubTotal_eq]
  exact decide_eq_true_iff.trans (zero_le_fixed_iff (by omega) _)

theorem endsWell_of_notNegative {state : BookServiceState}
    (notNegative : NotNegative (owedIn priceDecimalPoint screen selectedServiceAddon state)) :
    EndsWell priceDecimalPoint screen selectedServiceAddon state := by
  have least := (isAtLeastZero_iff screen selectedServiceAddon accepted state).mpr
    ⟨notNegative.1, notNegative.not_belowZero⟩
  refine ⟨1, _, setPriceWithin_of_upright screen selectedServiceAddon accepted notNegative.2 0,
    least, ?_⟩
  intro coupon applied
  rw [← applied, finalCalculations, if_pos accepted]
  exact ⟨_, rfl, iff_of_true rfl least⟩

/-- The coupon goes where it takes the sum below zero, and the second pass returns. -/
theorem endsWell_of_belowZero {state : BookServiceState}
    (notNegative : NotNegative (owedWithout priceDecimalPoint screen selectedServiceAddon state))
    (below : BelowZero priceDecimalPoint.toNat
      (owedIn priceDecimalPoint screen selectedServiceAddon state)) :
    EndsWell priceDecimalPoint screen selectedServiceAddon state := by
  rw [← owedIn_couponDropped] at notNegative
  have returns := setPriceWithin_of_negative screen selectedServiceAddon accepted below.1 1
  rw [setPriceWithin_of_upright screen selectedServiceAddon accepted notNegative.2 0] at returns
  have least := (isAtLeastZero_iff screen selectedServiceAddon accepted
    (couponDropped priceDecimalPoint screen selectedServiceAddon state)).mpr
      ⟨notNegative.1, notNegative.not_belowZero⟩
  refine ⟨2, _, returns, least, ?_⟩
  intro coupon applied
  rw [← applied, finalCalculations, if_pos accepted]
  refine ⟨_, rfl, iff_of_false ?_ ?_⟩
  · intro kept
    rw [applied] at kept
    cases kept
  · intro least
    exact ((isAtLeastZero_iff screen selectedServiceAddon accepted state).mp least).2 below

end Accepted

end Recursion

/-- `setPrice` ends well exactly where the texts can have so many decimals and what is owed is
a number without a sign, or is one without the coupon while the coupon takes it below zero by
half a unit of the last decimal. -/
theorem setPrice_endsWell_iff (priceDecimalPoint : ℤ) (screen : BookServiceScreen)
    (selectedServiceAddon : List Serviceaddon) (state : BookServiceState) :
    EndsWell priceDecimalPoint screen selectedServiceAddon state ↔
      (0 ≤ priceDecimalPoint ∧ priceDecimalPoint ≤ 20) ∧
        (NotNegative (owedIn priceDecimalPoint screen selectedServiceAddon state) ∨
          NotNegative (owedWithout priceDecimalPoint screen selectedServiceAddon state) ∧
            BelowZero priceDecimalPoint.toNat
              (owedIn priceDecimalPoint screen selectedServiceAddon state)) := by
  constructor
  · rintro ⟨depth, final, returns, least, keeps⟩
    have accepted : 0 ≤ priceDecimalPoint ∧ priceDecimalPoint ≤ 20 := by
      by_contra rejected
      rw [setPriceWithin_of_rejected _ screen selectedServiceAddon rejected] at returns
      cases returns
    refine ⟨accepted, ?_⟩
    rcases setPriceWithin_cases screen selectedServiceAddon accepted returns with
      ⟨upright, same⟩ | ⟨negative, upright, same⟩
    · rw [same] at least
      have number := ((isAtLeastZero_iff screen selectedServiceAddon accepted state).mp least).1
      exact Or.inl ⟨number, upright⟩
    · right
      rw [same] at least
      have number := ((isAtLeastZero_iff screen selectedServiceAddon accepted
        (couponDropped priceDecimalPoint screen selectedServiceAddon state)).mp least).1
      rw [owedIn_couponDropped] at number
      refine ⟨⟨number, upright⟩, ?_⟩
      cases applied : state.appliedCouponData with
      | none =>
          rw [owedIn_of_uncouponed _ screen selectedServiceAddon applied, upright] at negative
          cases negative
      | some coupon =>
          obtain ⟨amounts, calculated, kept⟩ := keeps coupon applied
          rw [← applied, finalCalculations, if_pos accepted] at calculated
          by_contra notBelow
          have least := (isAtLeastZero_iff screen selectedServiceAddon accepted state).mpr
            ⟨number_of_negative negative, notBelow⟩
          rw [Option.some.inj calculated] at least
          have still := kept.mpr least
          rw [same] at still
          cases still
  · rintro ⟨accepted, notNegative | ⟨notNegative, below⟩⟩
    · exact endsWell_of_notNegative screen selectedServiceAddon accepted notNegative
    · exact endsWell_of_belowZero screen selectedServiceAddon accepted notNegative below

def overDiscounted : BookServiceScreen :=
  { data := { serviceDetail := { price := some 100, discount := some 150 } } }

theorem discount_above_price_counterexample :
    ¬ ∀ priceDecimalPoint, 0 ≤ priceDecimalPoint → priceDecimalPoint ≤ 20 →
      ∀ screen selectedServiceAddon state,
        EndsWell priceDecimalPoint screen selectedServiceAddon state := by
  intro always
  obtain ⟨depth, final, returns, _⟩ := always 2 (by decide) (by decide) overDiscounted [] {}
  have below : isNegative (owedWithout 2 overDiscounted [] {}) = true := by decide +kernel
  rw [setPriceWithin_of_dropped overDiscounted [] (by decide) rfl below] at returns
  cases returns

/-- A coupon that takes exactly what is left of 1.4 after ten percent, and is dropped. -/
example :
    let service : ServiceData :=
      { price := some (.double (.ofScientific 14 (-1))), discount := some 10 }
    let coupon : CouponData :=
      { discount := some (.double (.ofScientific 126 (-2))), discountType := some .fixed }
    isNegative (owedIn 2 { data := { serviceDetail := service } } []
      { appliedCouponData := some coupon }) = true := by
  decide +kernel

end FiksOpp.PriceDoubles
