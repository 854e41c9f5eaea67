/-
The advance payment of a booking: shown while it is made, shown on the two booking
views, and charged by `PaymentScreen`.

The views and a launch that is not for an advance take the service's percentage of
the total.  A launch for an advance charges the whole total, whatever the percentage.
-/

import FiksOpp.BookingRequest
import FiksOpp.PaymentScreen

namespace FiksOpp.AdvanceAmounts

open DecimalRounding
open BookingCalculations
open BookingRequest
open Payment

structure PriceCommonWidget where
  bookingDetail : BookingData
  serviceDetail : ServiceData

namespace PriceCommonWidget

def getAdvancePaymentAmount (widget : PriceCommonWidget) : ℚ :=
  if validate widget.bookingDetail.paidAmount ≠ 0 then validate widget.bookingDetail.paidAmount
  else
    validate widget.bookingDetail.totalAmount *
      validate widget.serviceDetail.advancePaymentPercentage / 100

def getRemainingAmount (widget : PriceCommonWidget) : ℚ :=
  if validate widget.bookingDetail.paidAmount = 0 then
    validate widget.bookingDetail.totalAmount
  else validate widget.bookingDetail.totalAmount - widget.getAdvancePaymentAmount

end PriceCommonWidget

/-- `getAdvancePaymentAmount` of `BookingDetailScreen`; nothing where the service, which
it dereferences, is missing. -/
def getAdvancePaymentAmount (bookingInfo : BookingDetailResponse) : Option ℚ :=
  if validate bookingInfo.bookingDetail.paidAmount ≠ 0 then bookingInfo.bookingDetail.paidAmount
  else
    bookingInfo.service.map fun service =>
      validate bookingInfo.bookingDetail.totalAmount *
        validate service.advancePaymentPercentage / 100

theorem getRemainingAmount_add (widget : PriceCommonWidget)
    (paid : validate widget.bookingDetail.paidAmount ≠ 0) :
    widget.getAdvancePaymentAmount + widget.getRemainingAmount =
      validate widget.bookingDetail.totalAmount := by
  unfold PriceCommonWidget.getRemainingAmount
  rw [if_neg paid]
  ring

theorem getAdvancePaymentAmount_eq {bookings : BookingDetailResponse} {service : ServiceData}
    (found : bookings.service = some service) :
    getAdvancePaymentAmount bookings =
      some (PriceCommonWidget.getAdvancePaymentAmount
        { bookingDetail := bookings.bookingDetail, serviceDetail := service }) := by
  unfold getAdvancePaymentAmount PriceCommonWidget.getAdvancePaymentAmount
  dsimp only
  cases paid : bookings.bookingDetail.paidAmount with
  | none =>
      rw [validate_none, if_neg (not_not_intro rfl), if_neg (not_not_intro rfl), found]
      rfl
  | some amount =>
      rw [validate_some]
      by_cases zero : amount = 0
      · rw [if_neg (not_not_intro zero), if_neg (not_not_intro zero), found]
        rfl
      · rw [if_pos zero, if_pos zero]

theorem getAdvancePaymentAmount_of_unpaid {widget : PriceCommonWidget}
    (unpaid : validate widget.bookingDetail.paidAmount = 0) :
    widget.getAdvancePaymentAmount =
      validate widget.bookingDetail.totalAmount *
        validate widget.serviceDetail.advancePaymentPercentage / 100 := by
  unfold PriceCommonWidget.getAdvancePaymentAmount
  exact if_neg (not_not_intro unpaid)

theorem setPrice_advancePaymentAmount (decimals : ℕ) (screen : BookServiceScreen)
    (selectedServiceAddon : List Serviceaddon) (state : BookServiceState)
    (ends : (setPrice decimals screen selectedServiceAddon
      state).bookingAmountModel.subTotalIsNegative = false) :
    (setPrice decimals screen selectedServiceAddon state).advancePaymentAmount =
      (setPrice decimals screen selectedServiceAddon
          state).bookingAmountModel.finalGrandTotalAmount *
        toDecimals decimals
          (validate screen.data.serviceDetail.advancePaymentPercentage / 100) := by
  unfold setPrice setPricePass at ends ⊢
  dsimp only at ends ⊢
  by_cases first : (finalCalculations decimals
      (priceArguments screen selectedServiceAddon state)).subTotalIsNegative = true
  · rw [if_pos first] at ends ⊢
    dsimp only at ends ⊢
    by_cases second : (finalCalculations decimals (priceArguments screen selectedServiceAddon
        { state with
          bookingAmountModel := finalCalculations decimals
            (priceArguments screen selectedServiceAddon state)
          appliedCouponData := none })).subTotalIsNegative = true
    · rw [if_pos second] at ends
      exact absurd ends (Bool.not_eq_false _ ▸ second)
    · rw [if_neg second]
  · rw [if_neg first]

theorem rounded_share {decimals : ℕ} {percentage : ℚ} (grid : OnGrid decimals (percentage / 100))
    (total : ℚ) : total * toDecimals decimals (percentage / 100) = total * percentage / 100 := by
  rw [toDecimals_of_onGrid grid]
  ring

/-! ### Agreement -/

/-- The amounts, at the price decimals, that stand for one advance payment. -/
structure Advances where
  whileBooking : ℚ
  priceCommonWidget : ℚ
  bookingDetailScreen : Option ℚ
  charged : ℚ
  deriving DecidableEq, Repr

def advances (advancePaymentAllowed : Bool) (decimals : ℕ) (booking : BookServiceState)
    (service : ServiceData) (widget : PaymentScreen) : Advances :=
  { whileBooking := toDecimals decimals booking.advancePaymentAmount
    priceCommonWidget :=
      toDecimals decimals (PriceCommonWidget.getAdvancePaymentAmount
        { bookingDetail := widget.bookings.bookingDetail, serviceDetail := service })
    bookingDetailScreen := (getAdvancePaymentAmount widget.bookings).map (toDecimals decimals)
    charged := toDecimals decimals (charged advancePaymentAllowed widget) }

/-- The booking that was made at the shown price, with nothing paid for it yet. -/
structure Made (decimals : ℕ) (screen : BookServiceScreen)
    (selectedServiceAddon : List Serviceaddon) (state : BookServiceState)
    (service : ServiceData) (widget : PaymentScreen) : Prop where
  ends : (setPrice decimals screen selectedServiceAddon
    state).bookingAmountModel.subTotalIsNegative = false
  total : widget.total =
    (setPrice decimals screen selectedServiceAddon
      state).bookingAmountModel.finalGrandTotalAmount
  unpaid : widget.paid = 0
  found : widget.bookings.service = some service
  percentage : validate service.advancePaymentPercentage =
    validate screen.data.serviceDetail.advancePaymentPercentage

section Agreement

variable {advancePaymentAllowed : Bool} {decimals : ℕ} {screen : BookServiceScreen}
  {selectedServiceAddon : List Serviceaddon} {state : BookServiceState}
  {service : ServiceData} {widget : PaymentScreen}

theorem view_eq
    (made : Made decimals screen selectedServiceAddon state service widget) :
    PriceCommonWidget.getAdvancePaymentAmount
        { bookingDetail := widget.bookings.bookingDetail, serviceDetail := service } =
      widget.total * validate service.advancePaymentPercentage / 100 :=
  getAdvancePaymentAmount_of_unpaid made.unpaid

theorem charged_of_plain_launch
    (made : Made decimals screen selectedServiceAddon state service widget)
    (plain : widget.isForAdvancePayment = false)
    (takes : takesAdvance advancePaymentAllowed widget.bookings = true) :
    charged advancePaymentAllowed widget =
      widget.total * validate service.advancePaymentPercentage / 100 := by
  have share : advancePaymentPercentage widget.bookings =
      validate service.advancePaymentPercentage := by
    unfold advancePaymentPercentage
    rw [made.found]
    rfl
  rw [charged_cases, plain, takes, made.unpaid, share]
  rw [if_neg, if_pos rfl]
  intro other
  rcases other with forAdvance | ⟨_, paid⟩
  · cases forAdvance
  · exact paid rfl

theorem charged_of_advance_launch
    (made : Made decimals screen selectedServiceAddon state service widget)
    (forAdvance : widget.isForAdvancePayment = true) :
    charged advancePaymentAllowed widget = widget.total := by
  rw [charged_cases, if_pos (Or.inl forAdvance), made.unpaid, sub_zero]

end Agreement

/-- The booking views agree with each other, with a launch that is not for an advance,
and, where the grid holds the share, with what was shown while booking; a launch for an
advance charges the whole total. -/
theorem advances_agree (advancePaymentAllowed : Bool) (decimals : ℕ)
    (screen : BookServiceScreen) (selectedServiceAddon : List Serviceaddon)
    (state : BookServiceState) (service : ServiceData) (widget : PaymentScreen)
    (made : Made decimals screen selectedServiceAddon state service widget) :
    let shown := advances advancePaymentAllowed decimals
      (setPrice decimals screen selectedServiceAddon state) service widget
    shown.bookingDetailScreen = some shown.priceCommonWidget ∧
      (widget.isForAdvancePayment = false →
        takesAdvance advancePaymentAllowed widget.bookings = true →
          shown.charged = shown.priceCommonWidget) ∧
      (widget.isForAdvancePayment = true →
        shown.charged = toDecimals decimals widget.total) ∧
      (OnGrid decimals (validate service.advancePaymentPercentage / 100) →
        shown.whileBooking = shown.priceCommonWidget) := by
  dsimp only [advances]
  refine ⟨?_, ?_, ?_, ?_⟩
  · rw [getAdvancePaymentAmount_eq made.found, Option.map_some]
  · intro plain takes
    rw [charged_of_plain_launch made plain takes, view_eq made]
  · intro forAdvance
    rw [charged_of_advance_launch made forAdvance]
  · intro grid
    rw [setPrice_advancePaymentAmount decimals screen selectedServiceAddon state made.ends,
      ← made.total, ← made.percentage, rounded_share grid, view_eq made]

def halfInAdvance : ServiceData :=
  { id := some 4
    price := some 200
    type := some .fixed
    isEnableAdvancePayment := some 1
    advancePaymentPercentage := some 50 }

def bookingScreen : BookServiceScreen :=
  { data := { serviceDetail := halfInAdvance } }

def launch (isForAdvancePayment : Bool) : PaymentScreen :=
  { bookings :=
      { bookingDetail := { id := some 9, totalAmount := some 200 }
        service := some halfInAdvance }
    isForAdvancePayment := isForAdvancePayment }

theorem made_launch (isForAdvancePayment : Bool) :
    Made 2 bookingScreen [] {} halfInAdvance (launch isForAdvancePayment) where
  ends := by decide +kernel
  total := by cases isForAdvancePayment <;> decide +kernel
  unpaid := rfl
  found := rfl
  percentage := rfl

theorem advances_agree_example :
    (advances true 2 (setPrice 2 bookingScreen [] {}) halfInAdvance (launch false)).charged =
        100 ∧
      (advances true 2 (setPrice 2 bookingScreen [] {}) halfInAdvance
        (launch false)).whileBooking = 100 ∧
      (advances true 2 (setPrice 2 bookingScreen [] {}) halfInAdvance (launch true)).charged =
        toDecimals 2 200 := by
  have shown : (advances true 2 (setPrice 2 bookingScreen [] {}) halfInAdvance
      (launch false)).priceCommonWidget = 100 := by decide +kernel
  have plain := advances_agree true 2 bookingScreen [] {} halfInAdvance (launch false)
    (made_launch false)
  have forAdvance := advances_agree true 2 bookingScreen [] {} halfInAdvance (launch true)
    (made_launch true)
  refine ⟨?_, ?_, forAdvance.2.2.1 rfl⟩
  · rw [plain.2.1 rfl (by decide +kernel), shown]
  · rw [plain.2.2.2 (by decide +kernel), shown]

/-- The confirm dialog and the pay-advance button launch the screen for an advance. -/
theorem advance_launch_charges_total :
    ¬ ∀ advancePaymentAllowed decimals screen selectedServiceAddon state service widget,
      Made decimals screen selectedServiceAddon state service widget →
        takesAdvance advancePaymentAllowed widget.bookings = true →
          let shown := advances advancePaymentAllowed decimals
            (setPrice decimals screen selectedServiceAddon state) service widget
          shown.whileBooking = shown.priceCommonWidget ∧
            shown.bookingDetailScreen = some shown.priceCommonWidget ∧
            shown.charged = shown.priceCommonWidget := by
  intro always
  have agree := (always true 2 bookingScreen [] {} halfInAdvance (launch true)
    (made_launch true) (by decide +kernel)).2.2
  revert agree
  decide +kernel

end FiksOpp.AdvanceAmounts
