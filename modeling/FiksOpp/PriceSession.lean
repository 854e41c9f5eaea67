/-
A visit to the price page of a booking.

The quantity arrows, the add-on tiles and the coupon row each edit the page and call
`setPrice`, which may take the coupon away again.  The coupon card names its discount
before the coupon is applied; the page computes it anew.
-/

import FiksOpp.SetPrice
import FiksOpp.Foundations.EventRun

namespace FiksOpp.PriceSession

open EventRun
open BookingCalculations
open BookingRequest

structure Session where
  state : BookServiceState := {}
  selectedServiceAddon : List Serviceaddon := []
  /-- History: the coupon that was chosen last and not removed by hand. -/
  chosen : Option CouponData := none

inductive PriceEvent where
  | arrowDropDown
  | arrowDropUp
  /-- The add-on component calls back; `isSelected` are the flags of its tiles. -/
  | selectionChange (isSelected : List Bool)
  | applyCoupon (coupon : CouponData)
  | removeCoupon

/-- What the coupon screen promised, and what the page made of it. -/
structure CouponOutcome where
  coupon : CouponData
  promised : ℚ
  given : ℚ
  kept : Bool
  /-- What is owed without any coupon. -/
  uncouponed : ℚ

/-- The `where` of the callback: the tiles that are still flagged. -/
def flagged (serviceAddon : List Serviceaddon) (isSelected : List Bool) : List Serviceaddon :=
  ((serviceAddon.zip isSelected).filter Prod.snd).map Prod.fst

section Page

variable (decimals : ℕ) (screen : BookServiceScreen)

/-- The coupon row is built for a service with a price that is booked without a package. -/
def offersCoupon : Bool :=
  !screen.data.serviceDetail.isFreeService && screen.selectedPackage.isNone

def withItemCount (session : Session) (itemCount : ℤ) : Session :=
  { session with state := { session.state with itemCount := itemCount } }

def withCoupon (session : Session) (coupon : Option CouponData) : Session :=
  { session with
    state := { session.state with appliedCouponData := coupon }
    chosen := coupon }

/-- The page when `setPrice` is called; nothing where the control is not on the page. -/
def edited (session : Session) : PriceEvent → Option Session
  | .arrowDropDown =>
      if screen.data.serviceDetail.isFixedService then
        some (withItemCount session
          (if session.state.itemCount ≠ 1 then session.state.itemCount - 1
            else session.state.itemCount))
      else none
  | .arrowDropUp =>
      if screen.data.serviceDetail.isFixedService then
        some (withItemCount session (session.state.itemCount + 1))
      else none
  | .selectionChange isSelected =>
      some { session with
        selectedServiceAddon := flagged session.selectedServiceAddon isSelected }
  | .applyCoupon coupon =>
      if offersCoupon screen && screen.data.serviceDetail.id.isSome then
        some (withCoupon session (some coupon))
      else none
  | .removeCoupon =>
      if offersCoupon screen && session.state.appliedCouponData.isSome then
        some (withCoupon session none)
      else none

def repriced (session : Session) : Session :=
  { session with
    state := setPrice decimals screen session.selectedServiceAddon session.state }

def next (session : Session) (event : PriceEvent) : Session :=
  match edited screen session event with
  | some edit => repriced decimals screen edit
  | none => session

/-- The coupon card is given the service price that the page shows. -/
def outcome (session : Session) (coupon : CouponData) : CouponOutcome :=
  let after := repriced decimals screen (withCoupon session (some coupon))
  { coupon := coupon
    promised := calculateCouponDiscount decimals (some coupon)
      session.state.bookingAmountModel.finalTotalServicePrice
    given := after.state.bookingAmountModel.finalCouponDiscountAmount
    kept := after.state.appliedCouponData.isSome
    uncouponed := owed decimals screen session.selectedServiceAddon session.state.itemCount none }

def outputs (session : Session) : PriceEvent → List CouponOutcome
  | .applyCoupon coupon =>
      match edited screen session (.applyCoupon coupon) with
      | some _ => [outcome decimals screen session coupon]
      | none => []
  | _ => []

def machine : Machine Session PriceEvent CouponOutcome :=
  { next := next decimals screen
    outputs := outputs decimals screen }

/-- `init` prices the page with the add-ons picked on the detail screen. -/
def opened (selectedServiceAddon : List Serviceaddon) : Session :=
  repriced decimals screen { selectedServiceAddon := selectedServiceAddon }

/-- The amounts are those of what the page shows, and nothing below zero is owed. -/
structure Settled (session : Session) : Prop where
  counted : 1 ≤ session.state.itemCount
  addons : ∀ addon ∈ session.selectedServiceAddon, 0 ≤ addon.price
  amounts : session.state.bookingAmountModel =
    finalCalculations decimals
      (priceArguments screen session.selectedServiceAddon session.state)
  advance : session.state.advancePaymentAmount =
    session.state.bookingAmountModel.finalGrandTotalAmount *
      DecimalRounding.toDecimals decimals
        (validate screen.data.serviceDetail.advancePaymentPercentage / 100)
  owed_nonneg : 0 ≤ owedIn decimals screen session.selectedServiceAddon session.state

structure Priceable (session : Session) : Prop where
  counted : 1 ≤ session.state.itemCount
  addons : ∀ addon ∈ session.selectedServiceAddon, 0 ≤ addon.price

theorem Settled.priceable {session : Session} (settled : Settled decimals screen session) :
    Priceable session :=
  ⟨settled.counted, settled.addons⟩

theorem mem_of_mem_flagged {serviceAddon : List Serviceaddon} {isSelected : List Bool}
    {addon : Serviceaddon} (member : addon ∈ flagged serviceAddon isSelected) :
    addon ∈ serviceAddon := by
  obtain ⟨tile, kept, rfl⟩ := List.mem_map.mp member
  exact (List.of_mem_zip (List.mem_of_mem_filter kept)).1

theorem Priceable.edited {session edit : Session} {event : PriceEvent}
    (priceable : Priceable session) (offered : edited screen session event = some edit) :
    Priceable edit := by
  have counted := priceable.counted
  cases event with
  | arrowDropDown =>
      obtain ⟨_, same⟩ := Option.ite_none_right_eq_some.mp offered
      obtain rfl := Option.some.inj same
      refine ⟨?_, priceable.addons⟩
      change 1 ≤ if session.state.itemCount ≠ 1 then session.state.itemCount - 1
        else session.state.itemCount
      split <;> omega
  | arrowDropUp =>
      obtain ⟨_, same⟩ := Option.ite_none_right_eq_some.mp offered
      obtain rfl := Option.some.inj same
      refine ⟨?_, priceable.addons⟩
      change 1 ≤ session.state.itemCount + 1
      omega
  | selectionChange isSelected =>
      obtain rfl := Option.some.inj offered
      exact ⟨counted, fun addon member => priceable.addons addon (mem_of_mem_flagged member)⟩
  | applyCoupon coupon =>
      obtain ⟨_, same⟩ := Option.ite_none_right_eq_some.mp offered
      obtain rfl := Option.some.inj same
      exact ⟨counted, priceable.addons⟩
  | removeCoupon =>
      obtain ⟨_, same⟩ := Option.ite_none_right_eq_some.mp offered
      obtain rfl := Option.some.inj same
      exact ⟨counted, priceable.addons⟩

/-- The service as the server should send it: see `Uncouponed`. -/
def Sensible : Prop :=
  Uncouponed (priceArguments screen [] {})

variable {screen}

theorem Sensible.uncouponed (sensible : Sensible screen) {session : Session}
    (priceable : Priceable session) {state : BookServiceState}
    (dropped : state.appliedCouponData = none) :
    Uncouponed (priceArguments screen session.selectedServiceAddon state) :=
  { sensible with
    coupon := dropped
    addons := priceable.addons }

theorem Sensible.owed_nonneg (sensible : Sensible screen) {session : Session}
    (priceable : Priceable session) :
    0 ≤ owed decimals screen session.selectedServiceAddon session.state.itemCount none := by
  have uncouponed : Uncouponed (priceArguments screen session.selectedServiceAddon
      (couponDropped decimals screen session.selectedServiceAddon session.state)) :=
    sensible.uncouponed priceable rfl
  have counted : 0 ≤ session.state.itemCount := by
    have atLeastOne := priceable.counted
    omega
  have exact_nonneg := uncouponed.exactSubTotal_nonneg decimals (Or.inl counted)
  rwa [← owedIn_eq_exactSubTotal] at exact_nonneg

/-- The call ends after it has called itself once at most. -/
theorem Sensible.setPriceWithin_two (sensible : Sensible screen) {session : Session}
    (priceable : Priceable session) :
    setPriceWithin decimals screen session.selectedServiceAddon 2 session.state =
      some (repriced decimals screen session).state := by
  have without := sensible.owed_nonneg decimals priceable
  have ends : ∃ final, setPriceWithin decimals screen session.selectedServiceAddon 2
      session.state = some final := by
    rcases le_or_gt 0 (owedIn decimals screen session.selectedServiceAddon session.state) with
      nonneg | negative
    · exact ⟨_, setPriceWithin_of_nonneg decimals screen _ nonneg 1⟩
    · have again : 0 ≤ owedIn decimals screen session.selectedServiceAddon
          (couponDropped decimals screen session.selectedServiceAddon session.state) := without
      rw [setPriceWithin_of_negative decimals screen _ negative]
      exact ⟨_, setPriceWithin_of_nonneg decimals screen _ again 0⟩
  obtain ⟨final, ends⟩ := ends
  rw [ends, setPriceWithin_eq_setPrice decimals screen session.selectedServiceAddon ends]
  rfl

def pricedAs (decimals : ℕ) (screen : BookServiceScreen) (session : Session)
    (state : BookServiceState) : Session :=
  { session with state := priced decimals screen session.selectedServiceAddon state }

theorem Sensible.repriced_cases (sensible : Sensible screen) {session : Session}
    (priceable : Priceable session) :
    (0 ≤ owedIn decimals screen session.selectedServiceAddon session.state ∧
      repriced decimals screen session = pricedAs decimals screen session session.state) ∨
    (owedIn decimals screen session.selectedServiceAddon session.state < 0 ∧
      repriced decimals screen session = pricedAs decimals screen session
        (couponDropped decimals screen session.selectedServiceAddon session.state)) := by
  have ends := sensible.setPriceWithin_two decimals priceable
  rcases setPriceWithin_cases decimals screen session.selectedServiceAddon ends with
    ⟨nonneg, same⟩ | ⟨negative, _, same⟩
  · exact Or.inl ⟨nonneg, congrArg (fun state => { session with state := state }) same⟩
  · exact Or.inr ⟨negative, congrArg (fun state => { session with state := state }) same⟩

theorem settled_pricedAs {session : Session} {state : BookServiceState}
    (counted : 1 ≤ state.itemCount)
    (addons : ∀ addon ∈ session.selectedServiceAddon, 0 ≤ addon.price)
    (nonneg : 0 ≤ owedIn decimals screen session.selectedServiceAddon state) :
    Settled decimals screen (pricedAs decimals screen session state) where
  counted := counted
  addons := addons
  amounts := rfl
  advance := rfl
  owed_nonneg := nonneg

theorem Sensible.settled_repriced (sensible : Sensible screen) {session : Session}
    (priceable : Priceable session) :
    Settled decimals screen (repriced decimals screen session) := by
  rcases sensible.repriced_cases decimals priceable with ⟨nonneg, same⟩ | ⟨_, same⟩
  · rw [same]
    exact settled_pricedAs decimals priceable.counted priceable.addons nonneg
  · have without : 0 ≤ owedIn decimals screen session.selectedServiceAddon
        (couponDropped decimals screen session.selectedServiceAddon session.state) :=
      sensible.owed_nonneg decimals priceable
    rw [same]
    exact settled_pricedAs decimals priceable.counted priceable.addons without

/-- `setPrice` keeps the coupon exactly when the edited page owes nothing below zero. -/
theorem Sensible.coupon_repriced (sensible : Sensible screen) {session : Session}
    (priceable : Priceable session) :
    (repriced decimals screen session).state.appliedCouponData =
      if 0 ≤ owedIn decimals screen session.selectedServiceAddon session.state then
        session.state.appliedCouponData
      else none := by
  rcases sensible.repriced_cases decimals priceable with ⟨nonneg, same⟩ | ⟨negative, same⟩
  · rw [same, if_pos nonneg]
    rfl
  · rw [same, if_neg (not_le.mpr negative)]
    rfl

theorem Settled.next (sensible : Sensible screen) {session : Session} (event : PriceEvent)
    (settled : Settled decimals screen session) :
    Settled decimals screen (next decimals screen session event) := by
  unfold PriceSession.next
  cases offered : PriceSession.edited screen session event with
  | none => exact settled
  | some edit =>
      exact sensible.settled_repriced decimals (settled.priceable.edited screen offered)

/-! ### The promise of the coupon card -/

theorem exactSubTotal_couponed (args : Arguments) (coupon : Option CouponData) :
    exactSubTotal decimals { args with appliedCouponData := coupon } =
      exactSubTotal decimals { args with appliedCouponData := none } -
        calculateCouponDiscount decimals coupon
          (finalCalculations decimals args).finalTotalServicePrice := by
  have noDiscount := calculateCouponDiscount_none decimals
    (DecimalRounding.toDecimals decimals (exactServicePrice args))
  have servicePrice (other : Option CouponData) :
      exactServicePrice { args with appliedCouponData := other } = exactServicePrice args := rfl
  have share (other : Option CouponData) :
      discountShare { args with appliedCouponData := other } = discountShare args := rfl
  rw [exactSubTotal_eq, exactSubTotal_eq, finalTotalServicePrice_eq]
  simp only [servicePrice, share, noDiscount]
  ring

theorem owedIn_withCoupon (session : Session) (coupon : CouponData) :
    owedIn decimals screen session.selectedServiceAddon
        (withCoupon session (some coupon)).state =
      owed decimals screen session.selectedServiceAddon session.state.itemCount none -
        calculateCouponDiscount decimals (some coupon)
          (finalCalculations decimals
            (priceArguments screen session.selectedServiceAddon
              session.state)).finalTotalServicePrice := by
  have without : owed decimals screen session.selectedServiceAddon session.state.itemCount none =
      owedIn decimals screen session.selectedServiceAddon (withCoupon session none).state := rfl
  rw [without, owedIn_eq_exactSubTotal, owedIn_eq_exactSubTotal]
  exact exactSubTotal_couponed decimals
    (priceArguments screen session.selectedServiceAddon session.state) (some coupon)

/-- A coupon is refused exactly when it promised more than is owed without it, and an
accepted one gives what it promised. -/
structure Fair (outcome : CouponOutcome) : Prop where
  kept_iff : outcome.kept = true ↔ outcome.promised ≤ outcome.uncouponed
  given_eq : outcome.given = if outcome.kept then outcome.promised else 0

theorem Settled.outcome_fair (sensible : Sensible screen) {session : Session}
    (settled : Settled decimals screen session) (coupon : CouponData) :
    Fair (outcome decimals screen session coupon) := by
  have priceable : Priceable (withCoupon session (some coupon)) :=
    ⟨settled.counted, settled.addons⟩
  have promised : (outcome decimals screen session coupon).promised =
      calculateCouponDiscount decimals (some coupon)
        (finalCalculations decimals
          (priceArguments screen session.selectedServiceAddon
            session.state)).finalTotalServicePrice := by
    change calculateCouponDiscount decimals (some coupon)
      session.state.bookingAmountModel.finalTotalServicePrice = _
    rw [settled.amounts]
  have owes : owedIn decimals screen session.selectedServiceAddon
      (withCoupon session (some coupon)).state =
        (outcome decimals screen session coupon).uncouponed -
          (outcome decimals screen session coupon).promised := by
    rw [promised]
    exact owedIn_withCoupon decimals session coupon
  have givenAfter : (outcome decimals screen session coupon).given =
      (repriced decimals screen
        (withCoupon session (some coupon))).state.bookingAmountModel.finalCouponDiscountAmount :=
    rfl
  have keptAfter : (outcome decimals screen session coupon).kept =
      (repriced decimals screen
        (withCoupon session (some coupon))).state.appliedCouponData.isSome := rfl
  rcases sensible.repriced_cases decimals priceable with ⟨nonneg, same⟩ | ⟨negative, same⟩
  · have fits : 0 ≤ (outcome decimals screen session coupon).uncouponed -
        (outcome decimals screen session coupon).promised := owes ▸ nonneg
    have kept : (outcome decimals screen session coupon).kept = true := by
      rw [keptAfter, same]
      rfl
    have given : (finalCalculations decimals (priceArguments screen session.selectedServiceAddon
        (withCoupon session (some coupon)).state)).finalCouponDiscountAmount =
          (outcome decimals screen session coupon).promised := by
      rw [promised, finalCouponDiscountAmount_eq, finalTotalServicePrice_eq,
        finalTotalServicePrice_eq]
      rfl
    refine ⟨iff_of_true kept (sub_nonneg.mp fits), ?_⟩
    rw [if_pos kept, givenAfter, same]
    exact given
  · have exceeds : (outcome decimals screen session coupon).uncouponed -
        (outcome decimals screen session coupon).promised < 0 := owes ▸ negative
    have refused : (outcome decimals screen session coupon).kept = false := by
      rw [keptAfter, same]
      rfl
    have nothing : (finalCalculations decimals (priceArguments screen session.selectedServiceAddon
        (couponDropped decimals screen session.selectedServiceAddon
          (withCoupon session (some coupon)).state))).finalCouponDiscountAmount = 0 := by
      rw [finalCouponDiscountAmount_eq]
      exact calculateCouponDiscount_none decimals _
    refine ⟨iff_of_false ?_ (not_le.mpr (sub_neg.mp exceeds)), ?_⟩
    · rw [refused]
      exact Bool.false_ne_true
    · rw [refused, if_neg Bool.false_ne_true, givenAfter, same]
      exact nothing

theorem Settled.outputs_fair (sensible : Sensible screen) {session : Session}
    (settled : Settled decimals screen session) (event : PriceEvent) :
    ∀ outcome ∈ outputs decimals screen session event, Fair outcome := by
  intro shown member
  cases event with
  | applyCoupon coupon =>
      cases offered : PriceSession.edited screen session (.applyCoupon coupon) with
      | none =>
          simp only [outputs, offered, List.not_mem_nil] at member
      | some edit =>
          simp only [outputs, offered, List.mem_singleton] at member
          rw [member]
          exact settled.outcome_fair decimals sensible coupon
  | arrowDropDown => exact absurd member List.not_mem_nil
  | arrowDropUp => exact absurd member List.not_mem_nil
  | selectionChange isSelected => exact absurd member List.not_mem_nil
  | removeCoupon => exact absurd member List.not_mem_nil

variable (screen)

def Ends (session : Session) (event : PriceEvent) : Prop :=
  ∀ edit, PriceSession.edited screen session event = some edit →
    setPriceWithin decimals screen edit.selectedServiceAddon 2 edit.state =
      some (PriceSession.next decimals screen session event).state

variable {screen}

theorem Settled.ends (sensible : Sensible screen) {session : Session}
    (settled : Settled decimals screen session) (event : PriceEvent) :
    Ends decimals screen session event := by
  intro edit offered
  have priceable := settled.priceable.edited screen offered
  unfold PriceSession.next
  rw [offered]
  exact sensible.setPriceWithin_two decimals priceable

structure TotalsNonneg (amounts : BookingAmountModel) : Prop where
  finalSubTotal : 0 ≤ amounts.finalSubTotal
  finalTotalTax : 0 ≤ amounts.finalTotalTax
  finalGrandTotalAmount : 0 ≤ amounts.finalGrandTotalAmount

theorem Settled.totalsNonneg (sensible : Sensible screen) {session : Session}
    (settled : Settled decimals screen session) :
    TotalsNonneg session.state.bookingAmountModel := by
  have subTotal : 0 ≤ (finalCalculations decimals
      (priceArguments screen session.selectedServiceAddon session.state)).finalSubTotal := by
    rw [finalSubTotal_eq_owedIn]
    exact DecimalRounding.toDecimals_nonneg decimals settled.owed_nonneg
  have charges : 0 ≤ totalExtraCharges
      (priceArguments screen session.selectedServiceAddon session.state).extraCharges :=
    sensible.totalExtraCharges_nonneg
  have tax : 0 ≤ (finalCalculations decimals
      (priceArguments screen session.selectedServiceAddon session.state)).finalTotalTax :=
    calculateTotalTaxAmount_nonneg decimals sensible.taxes (add_nonneg subTotal charges)
  rw [settled.amounts]
  exact ⟨subTotal, tax,
    DecimalRounding.toDecimals_nonneg decimals (add_nonneg (add_nonneg subTotal tax) charges)⟩

theorem Sensible.settled_opened (sensible : Sensible screen)
    {selectedServiceAddon : List Serviceaddon}
    (addons : ∀ addon ∈ selectedServiceAddon, 0 ≤ addon.price) :
    Settled decimals screen (opened decimals screen selectedServiceAddon) := by
  have priceable : Priceable { selectedServiceAddon := selectedServiceAddon } :=
    ⟨le_refl 1, addons⟩
  exact sensible.settled_repriced decimals priceable

end Page

/-! ### The coupon that stays -/

def KeepsChosen (session : Session) : Prop :=
  session.state.appliedCouponData = session.chosen

def FixedDiscount (appliedCouponData : Option CouponData) : Prop :=
  ∀ coupon, appliedCouponData = some coupon → coupon.discountType = some .fixed

theorem FixedDiscount.calculateCouponDiscount_eq {appliedCouponData : Option CouponData}
    (fixed : FixedDiscount appliedCouponData) (decimals : ℕ) (price price' : ℚ) :
    calculateCouponDiscount decimals appliedCouponData price =
      calculateCouponDiscount decimals appliedCouponData price' := by
  unfold calculateCouponDiscount
  cases applied : appliedCouponData with
  | none => rfl
  | some coupon =>
      dsimp only
      rw [if_pos (fixed coupon applied), if_pos (fixed coupon applied)]

section Coupons

variable {decimals : ℕ} {screen : BookServiceScreen}

/-- Where the discount is fixed, one piece more never owes less. -/
theorem Sensible.owed_succ (sensible : Sensible screen) (serviceAddon : List Serviceaddon)
    (itemCount : ℤ) {appliedCouponData : Option CouponData}
    (fixed : FixedDiscount appliedCouponData) :
    owed decimals screen serviceAddon itemCount appliedCouponData ≤
      owed decimals screen serviceAddon (itemCount + 1) appliedCouponData := by
  unfold owed
  cases packaged : screen.selectedPackage with
  | some package => exact le_refl _
  | none =>
      dsimp only
      have pieces : (countedQuantity itemCount : ℚ) ≤ countedQuantity (itemCount + 1) := by
        exact_mod_cast countedQuantity_mono (by omega : itemCount ≤ itemCount + 1)
      have price : DecimalRounding.toDecimals decimals
          (validate screen.data.serviceDetail.price * countedQuantity itemCount) ≤
            DecimalRounding.toDecimals decimals
              (validate screen.data.serviceDetail.price * countedQuantity (itemCount + 1)) :=
        DecimalRounding.toDecimals_mono decimals
          (mul_le_mul_of_nonneg_left pieces sensible.servicePrice)
      have share_nonneg : (0 : ℚ) ≤ validate screen.data.serviceDetail.discount / 100 :=
        div_nonneg sensible.discount_nonneg (by norm_num)
      have share_le : (validate screen.data.serviceDetail.discount / 100 : ℚ) ≤ 1 :=
        (div_le_one (by norm_num)).mpr sensible.discount_le
      have discounted := DecimalRounding.sub_toDecimals_share_mono
        (DecimalRounding.toDecimals_onGrid decimals _)
        (DecimalRounding.toDecimals_onGrid decimals _) price share_nonneg share_le
      have coupon := fixed.calculateCouponDiscount_eq decimals
        (DecimalRounding.toDecimals decimals
          (validate screen.data.serviceDetail.price * countedQuantity itemCount))
        (DecimalRounding.toDecimals decimals
          (validate screen.data.serviceDetail.price * countedQuantity (itemCount + 1)))
      rw [coupon]
      linarith

theorem Sensible.keepsChosen_repriced_iff (sensible : Sensible screen) {session : Session}
    (priceable : Priceable session) (same : KeepsChosen session) :
    KeepsChosen (repriced decimals screen session) ↔
      0 ≤ owedIn decimals screen session.selectedServiceAddon session.state := by
  have coupon := sensible.coupon_repriced decimals priceable
  have chosen : (repriced decimals screen session).chosen = session.chosen := rfl
  unfold KeepsChosen
  rw [coupon, chosen, ← same]
  by_cases nonneg : 0 ≤ owedIn decimals screen session.selectedServiceAddon session.state
  · rw [if_pos nonneg]
    exact iff_of_true rfl nonneg
  · rw [if_neg nonneg]
    refine iff_of_false (fun uncouponed => nonneg ?_) nonneg
    rw [owedIn, ← uncouponed]
    exact sensible.owed_nonneg decimals priceable

end Coupons

/-- The event leaves the chosen coupon on the page.  Only a coupon by percent can be lost to
a larger quantity. -/
def CouponFits (decimals : ℕ) (screen : BookServiceScreen) (session : Session) :
    PriceEvent → Prop
  | .arrowDropDown =>
      screen.data.serviceDetail.isFixedService = true → session.state.itemCount ≠ 1 →
        0 ≤ owed decimals screen session.selectedServiceAddon (session.state.itemCount - 1)
          session.state.appliedCouponData
  | .arrowDropUp =>
      screen.data.serviceDetail.isFixedService = true →
        FixedDiscount session.state.appliedCouponData ∨
          0 ≤ owed decimals screen session.selectedServiceAddon (session.state.itemCount + 1)
            session.state.appliedCouponData
  | .selectionChange isSelected =>
      0 ≤ owed decimals screen (flagged session.selectedServiceAddon isSelected)
        session.state.itemCount session.state.appliedCouponData
  | .applyCoupon coupon =>
      (offersCoupon screen && screen.data.serviceDetail.id.isSome) = true →
        calculateCouponDiscount decimals (some coupon)
            session.state.bookingAmountModel.finalTotalServicePrice ≤
          owed decimals screen session.selectedServiceAddon session.state.itemCount none
  | .removeCoupon => True

section Steps

variable {decimals : ℕ} {screen : BookServiceScreen}

theorem KeepsChosen.edited {session edit : Session} {event : PriceEvent}
    (chosen : KeepsChosen session) (offered : edited screen session event = some edit) :
    KeepsChosen edit := by
  cases event with
  | arrowDropDown =>
      obtain ⟨_, same⟩ := Option.ite_none_right_eq_some.mp offered
      obtain rfl := Option.some.inj same
      exact chosen
  | arrowDropUp =>
      obtain ⟨_, same⟩ := Option.ite_none_right_eq_some.mp offered
      obtain rfl := Option.some.inj same
      exact chosen
  | selectionChange isSelected =>
      obtain rfl := Option.some.inj offered
      exact chosen
  | applyCoupon coupon =>
      obtain ⟨_, same⟩ := Option.ite_none_right_eq_some.mp offered
      obtain rfl := Option.some.inj same
      exact rfl
  | removeCoupon =>
      obtain ⟨_, same⟩ := Option.ite_none_right_eq_some.mp offered
      obtain rfl := Option.some.inj same
      exact rfl

/-- The edit that the event makes, where it makes one, owes nothing below zero. -/
def OwesEnough (decimals : ℕ) (screen : BookServiceScreen) (session : Session)
    (event : PriceEvent) : Prop :=
  ∀ edit, PriceSession.edited screen session event = some edit →
    0 ≤ owedIn decimals screen edit.selectedServiceAddon edit.state

theorem Settled.keepsChosen_next_iff (sensible : Sensible screen) {session : Session}
    (event : PriceEvent) (settled : Settled decimals screen session)
    (chosen : KeepsChosen session) :
    KeepsChosen (PriceSession.next decimals screen session event) ↔
      OwesEnough decimals screen session event := by
  unfold PriceSession.next OwesEnough
  cases offered : PriceSession.edited screen session event with
  | none =>
      refine iff_of_true chosen ?_
      intro edit impossible
      cases impossible
  | some edit =>
      have priceable := settled.priceable.edited screen offered
      refine (sensible.keepsChosen_repriced_iff priceable (chosen.edited offered)).trans ?_
      constructor
      · intro nonneg other same
        rw [← Option.some.inj same]
        exact nonneg
      · intro enough
        exact enough edit rfl

theorem owedIn_withItemCount (session : Session) (itemCount : ℤ) :
    owedIn decimals screen (withItemCount session itemCount).selectedServiceAddon
        (withItemCount session itemCount).state =
      owed decimals screen session.selectedServiceAddon itemCount
        session.state.appliedCouponData := rfl

theorem owesEnough_of_offered_iff {session edit : Session} {event : PriceEvent} {shown : Prop}
    [Decidable shown]
    (offered : PriceSession.edited screen session event = if shown then some edit else none) :
    OwesEnough decimals screen session event ↔
      (shown → 0 ≤ owedIn decimals screen edit.selectedServiceAddon edit.state) := by
  unfold OwesEnough
  rw [offered]
  constructor
  · intro enough here
    exact enough edit (if_pos here)
  · intro enough other present
    obtain ⟨here, same⟩ := Option.ite_none_right_eq_some.mp present
    rw [← Option.some.inj same]
    exact enough here

theorem Settled.owesEnough_iff (sensible : Sensible screen) {session : Session}
    (event : PriceEvent) (settled : Settled decimals screen session) :
    OwesEnough decimals screen session event ↔ CouponFits decimals screen session event := by
  have before : 0 ≤ owed decimals screen session.selectedServiceAddon session.state.itemCount
      session.state.appliedCouponData := settled.owed_nonneg
  cases event with
  | arrowDropDown =>
      rw [owesEnough_of_offered_iff rfl]
      apply imp_congr_right
      intro _
      by_cases last : session.state.itemCount ≠ 1
      · rw [if_pos last, owedIn_withItemCount]
        exact ⟨fun nonneg _ => nonneg, fun nonneg => nonneg last⟩
      · rw [if_neg last, owedIn_withItemCount]
        exact iff_of_true before (fun more => absurd more last)
  | arrowDropUp =>
      rw [owesEnough_of_offered_iff rfl]
      apply imp_congr_right
      intro _
      rw [owedIn_withItemCount]
      constructor
      · exact Or.inr
      · rintro (fixed | nonneg)
        · exact le_trans before (sensible.owed_succ _ _ fixed)
        · exact nonneg
  | selectionChange isSelected =>
      constructor
      · intro enough
        have nonneg := enough _ rfl
        exact nonneg
      · intro nonneg edit same
        rw [← Option.some.inj same]
        exact nonneg
  | applyCoupon coupon =>
      rw [owesEnough_of_offered_iff rfl]
      apply imp_congr_right
      intro _
      change 0 ≤ owedIn decimals screen session.selectedServiceAddon
        (withCoupon session (some coupon)).state ↔ _
      rw [owedIn_withCoupon, ← settled.amounts, sub_nonneg]
  | removeCoupon =>
      rw [owesEnough_of_offered_iff rfl]
      have without := sensible.owed_nonneg decimals settled.priceable
      exact iff_of_true (fun _ => without) trivial

end Steps

/-- In every visit to the price page of a sensible service each call of `setPrice` ends, the
amounts shown are those of the quantity, the coupon and the add-ons shown, none of the totals
is below zero, and each coupon is refused or gives just what its card promised. -/
theorem price_page_settles (decimals : ℕ) (screen : BookServiceScreen)
    (selectedServiceAddon : List Serviceaddon) (events : List PriceEvent)
    (sensible : Sensible screen) (addons : ∀ addon ∈ selectedServiceAddon, 0 ≤ addon.price) :
    let page := machine decimals screen
    let start := opened decimals screen selectedServiceAddon
    page.Every (Ends decimals screen) start events ∧
      Settled decimals screen (page.run start events) ∧
      TotalsNonneg (page.run start events).state.bookingAmountModel ∧
      ∀ outcome ∈ page.trace start events, Fair outcome := by
  intro page start
  have initially : Settled decimals screen start := sensible.settled_opened decimals addons
  have kept : ∀ session event, Settled decimals screen session →
      Settled decimals screen (page.next session event) :=
    fun _ event settled => settled.next decimals sensible event
  have settled := Machine.invariant_run_of_kept (Settled decimals screen) kept initially events
  refine ⟨?_, settled, settled.totalsNonneg decimals sensible, ?_⟩
  · exact Machine.every_of_kept (Settled decimals screen) kept
      (fun _ event settled => settled.ends decimals sensible event) initially events
  · exact Machine.forall_trace_of_invariant (Settled decimals screen) kept
      (fun _ event settled => settled.outputs_fair decimals sensible event) initially

def discountedScreen : BookServiceScreen :=
  { data :=
      { serviceDetail :=
          { id := some 4, price := some 100, discount := some 10, type := some .fixed } } }

def couponOf150 : CouponData :=
  { discountType := some .fixed, discount := some 150 }

def twoPiecesThenOne : List PriceEvent :=
  [.arrowDropUp, .applyCoupon couponOf150, .arrowDropDown]

theorem discountedScreen_sensible : Sensible discountedScreen where
  coupon := rfl
  discount_nonneg := by decide +kernel
  discount_le := by decide +kernel
  servicePrice := by decide +kernel
  packagePrice := fun _ impossible => nomatch impossible
  addons := fun _ impossible => nomatch impossible
  charges := fun _ impossible => nomatch impossible
  taxes := fun _ impossible => nomatch impossible

theorem price_page_settles_two_pieces :
    TotalsNonneg ((machine 2 discountedScreen).run (opened 2 discountedScreen [])
      twoPiecesThenOne).state.bookingAmountModel :=
  (price_page_settles 2 discountedScreen [] twoPiecesThenOne discountedScreen_sensible
    (fun _ impossible => nomatch impossible)).2.2.1

/-- Throughout a visit the coupon on the page is the one chosen last exactly when each event
fits it: a coupon is lost where it promises more than is owed, where fewer pieces or add-ons
are left than it needs, and, if it is one by percent, where more pieces are wanted. -/
theorem chosen_coupon_stays_iff (decimals : ℕ) (screen : BookServiceScreen)
    (selectedServiceAddon : List Serviceaddon) (events : List PriceEvent)
    (sensible : Sensible screen) (addons : ∀ addon ∈ selectedServiceAddon, 0 ≤ addon.price) :
    let page := machine decimals screen
    let start := opened decimals screen selectedServiceAddon
    page.Every (fun session event => KeepsChosen (page.next session event)) start events ↔
      page.Every (CouponFits decimals screen) start events := by
  intro page start
  have chosen : KeepsChosen start := by
    have priceable : Priceable { selectedServiceAddon := selectedServiceAddon } :=
      ⟨le_refl 1, addons⟩
    have without := sensible.owed_nonneg decimals priceable
    exact (sensible.keepsChosen_repriced_iff priceable rfl).mpr without
  apply Machine.every_next_iff_of_sound (Settled decimals screen) KeepsChosen
  · intro session event settled
    exact settled.next decimals sensible event
  · intro session event settled kept
    exact (settled.keepsChosen_next_iff sensible event kept).trans
      (settled.owesEnough_iff sensible event)
  · exact sensible.settled_opened decimals addons
  · exact chosen

theorem chosen_coupon_stays_iff_two_pieces :
    ¬ (machine 2 discountedScreen).Every
      (fun session event => KeepsChosen ((machine 2 discountedScreen).next session event))
      (opened 2 discountedScreen []) twoPiecesThenOne := by
  intro stays
  have fits := (chosen_coupon_stays_iff 2 discountedScreen [] twoPiecesThenOne
    discountedScreen_sensible (fun _ impossible => nomatch impossible)).mp stays
  have last := fits.2.2.1
  revert last
  unfold CouponFits
  decide +kernel

end FiksOpp.PriceSession
