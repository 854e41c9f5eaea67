/-
The action button of `BookingDetailScreen` and the payment screen it launches.

The button is chosen from statuses and service flags, the amount is recomputed
by the launched screen.  This file says when the two fit together.
-/

import FiksOpp.PaymentScreen

namespace FiksOpp.BookingDetail

open Payment

inductive PayLabel where
  | lblPayNow
  | payAdvance
  deriving DecidableEq, Repr

inductive Action where
  | pay (text : PayLabel) (isForAdvancePayment : Bool)
  | cancelBooking
  | waitingForResponse
  | requestInvoice
  | sentInvoice
  | offstage
  deriving DecidableEq, Repr

def advanceService (advancePaymentAllowed : Bool) (bookings : BookingDetailResponse) : Bool :=
  match bookings.service with
  | none => false
  | some service =>
      service.isAdvancePayment advancePaymentAllowed && !service.isFreeService &&
        service.isFixedService && bookings.bookingDetail.bookingPackage.isNone

def advanceSettled (booking : BookingData) : Bool :=
  booking.paymentStatus == some .advancePaid && booking.status == some .complete

def action (advancePaymentAllowed isSentInvoiceOnEmail : Bool)
    (bookings : BookingDetailResponse) : Action :=
  let booking := bookings.bookingDetail
  if advanceService advancePaymentAllowed bookings &&
      (booking.paymentStatus.isNone || advanceSettled booking) then
    .pay (if advanceSettled booking then .lblPayNow else .payAdvance) true
  else if booking.status == some .pending || booking.status == some .accept then
    .cancelBooking
  else if booking.status == some .pendingApproval then
    .waitingForResponse
  else if booking.status == some .complete &&
      (booking.type != some .free || booking.paymentMethod == some .cod) &&
      booking.paymentId.isNone then
    .pay .lblPayNow false
  else if !booking.isFreeService && booking.status == some .complete &&
      !isSentInvoiceOnEmail then
    .requestInvoice
  else if booking.status == some .complete && isSentInvoiceOnEmail then
    .sentInvoice
  else
    .offstage

def Action.launch (bookings : BookingDetailResponse) : Action → Option PaymentScreen
  | .pay _ isForAdvancePayment =>
      some { bookings := bookings, isForAdvancePayment := isForAdvancePayment }
  | _ => none

def offered (advancePaymentAllowed isSentInvoiceOnEmail : Bool)
    (bookings : BookingDetailResponse) : Option PaymentScreen :=
  (action advancePaymentAllowed isSentInvoiceOnEmail bookings).launch bookings

theorem advanceService_eq_takesAdvance (advancePaymentAllowed : Bool)
    (bookings : BookingDetailResponse) :
    advanceService advancePaymentAllowed bookings = takesAdvance advancePaymentAllowed bookings := by
  unfold advanceService takesAdvance
  cases bookings.service with
  | none => rfl
  | some service =>
      change (_ && _ && _ && _) = (_ && _ && _ && _)
      rw [Bool.and_right_comm (service.isAdvancePayment advancePaymentAllowed)]

theorem offered_eq_some {advancePaymentAllowed isSentInvoiceOnEmail : Bool}
    {bookings : BookingDetailResponse} {widget : PaymentScreen}
    (found : offered advancePaymentAllowed isSentInvoiceOnEmail bookings = some widget) :
    ∃ text, action advancePaymentAllowed isSentInvoiceOnEmail bookings =
        .pay text widget.isForAdvancePayment ∧ widget.bookings = bookings := by
  unfold offered at found
  cases chosen : action advancePaymentAllowed isSentInvoiceOnEmail bookings with
  | pay text isForAdvancePayment =>
      rw [chosen] at found
      have same := Option.some.inj found
      subst same
      exact ⟨text, rfl, rfl⟩
  | _ =>
      rw [chosen] at found
      cases found

/-- Everything that makes `_action` offer a payment. -/
theorem action_eq_pay_cases {advancePaymentAllowed isSentInvoiceOnEmail : Bool}
    {bookings : BookingDetailResponse} {text : PayLabel} {isForAdvancePayment : Bool}
    (found : action advancePaymentAllowed isSentInvoiceOnEmail bookings =
      .pay text isForAdvancePayment) :
    isForAdvancePayment = true ∧ takesAdvance advancePaymentAllowed bookings = true ∧
        (bookings.bookingDetail.paymentStatus = none ∨
          bookings.bookingDetail.paymentStatus = some .advancePaid) ∨
      isForAdvancePayment = false ∧ bookings.bookingDetail.paymentId = none := by
  unfold action at found
  dsimp only at found
  split at found
  · rename_i advance
    rw [Bool.and_eq_true, Bool.or_eq_true, Option.isNone_iff_eq_none,
      advanceService_eq_takesAdvance] at advance
    injection found with _ flag
    refine Or.inl ⟨flag.symm, advance.1, ?_⟩
    rcases advance.2 with missing | settled
    · exact Or.inl missing
    · unfold advanceSettled at settled
      rw [Bool.and_eq_true, beq_iff_eq] at settled
      exact Or.inr settled.1
  · split at found
    · cases found
    · split at found
      · cases found
      · split at found
        · rename_i complete
          rw [Bool.and_eq_true, Option.isNone_iff_eq_none] at complete
          injection found with _ flag
          exact Or.inr ⟨flag.symm, complete.2⟩
        · split at found
          · cases found
          · split at found
            · cases found
            · cases found

/-- A completed booking that is not free is offered a payment exactly when none
is recorded, or when its service takes an advance and nothing but the advance
was paid. -/
theorem offered_isSome_iff_of_complete (advancePaymentAllowed isSentInvoiceOnEmail : Bool)
    (bookings : BookingDetailResponse)
    (completed : bookings.bookingDetail.status = some .complete)
    (notFree : bookings.bookingDetail.isFreeService = false) :
    (offered advancePaymentAllowed isSentInvoiceOnEmail bookings).isSome = true ↔
      bookings.bookingDetail.paymentId = none ∨
        takesAdvance advancePaymentAllowed bookings = true ∧
          (bookings.bookingDetail.paymentStatus = none ∨
            bookings.bookingDetail.paymentStatus = some .advancePaid) := by
  constructor
  · intro present
    obtain ⟨widget, found⟩ := Option.isSome_iff_exists.mp present
    obtain ⟨text, chosen, _⟩ := offered_eq_some found
    rcases action_eq_pay_cases chosen with ⟨_, advance, unpaid⟩ | ⟨_, noPayment⟩
    · exact Or.inr ⟨advance, unpaid⟩
    · exact Or.inl noPayment
  · intro reason
    have typed : (bookings.bookingDetail.type != some .free) = true := by
      rw [bne_iff_ne]
      exact ne_of_beq_false notFree
    unfold offered action
    dsimp only
    rw [advanceService_eq_takesAdvance]
    by_cases advance : (takesAdvance advancePaymentAllowed bookings &&
        (bookings.bookingDetail.paymentStatus.isNone ||
          advanceSettled bookings.bookingDetail)) = true
    · rw [if_pos advance]
      rfl
    · have noPayment : bookings.bookingDetail.paymentId = none := by
        rcases reason with noPayment | ⟨takes, unpaid⟩
        · exact noPayment
        · refine absurd ?_ advance
          unfold advanceSettled
          rw [takes, completed]
          rcases unpaid with missing | advancePaid
          · rw [missing]
            rfl
          · rw [advancePaid]
            rfl
      rw [if_neg advance, completed, typed, noPayment]
      rfl

/-- A plain launch that takes a share of the total takes a positive one. -/
def ShareConfigured (advancePaymentAllowed : Bool) (widget : PaymentScreen) : Prop :=
  widget.isForAdvancePayment = false → widget.paid = 0 →
    takesAdvance advancePaymentAllowed widget.bookings = true →
      0 < advancePaymentPercentage widget.bookings

theorem charged_pos_of_outstanding {advancePaymentAllowed : Bool} {widget : PaymentScreen}
    (nonneg : 0 ≤ widget.paid) (outstanding : widget.paid < widget.total)
    (share : ShareConfigured advancePaymentAllowed widget) :
    0 < charged advancePaymentAllowed widget := by
  have positive : 0 < widget.total := lt_of_le_of_lt nonneg outstanding
  rw [charged_cases]
  split
  · exact sub_pos.mpr outstanding
  · rename_i first
    split
    · rename_i advance
      have plain : widget.isForAdvancePayment = false := by
        rw [← Bool.not_eq_true]
        intro flag
        exact first (Or.inl flag)
      have unpaid : widget.paid = 0 := by
        by_contra paid
        exact first (Or.inr ⟨advance, paid⟩)
      have configured := share plain unpaid advance
      exact div_pos (mul_pos positive configured) (by norm_num)
    · exact positive

/-- While something is outstanding, an offered payment charges something, and a
completed booking that is not free is offered one exactly when no payment is
recorded or only the advance of an advance service is. -/
theorem offered_payment_meaningful (advancePaymentAllowed isSentInvoiceOnEmail : Bool)
    (bookings : BookingDetailResponse)
    (nonneg : 0 ≤ validate bookings.bookingDetail.paidAmount)
    (outstanding : validate bookings.bookingDetail.paidAmount <
      validate bookings.bookingDetail.totalAmount) :
    (∀ widget, offered advancePaymentAllowed isSentInvoiceOnEmail bookings = some widget →
      ShareConfigured advancePaymentAllowed widget →
        0 < charged advancePaymentAllowed widget) ∧
    (bookings.bookingDetail.status = some .complete →
      bookings.bookingDetail.isFreeService = false →
        ((offered advancePaymentAllowed isSentInvoiceOnEmail bookings).isSome = true ↔
          bookings.bookingDetail.paymentId = none ∨
            takesAdvance advancePaymentAllowed bookings = true ∧
              (bookings.bookingDetail.paymentStatus = none ∨
                bookings.bookingDetail.paymentStatus = some .advancePaid))) := by
  constructor
  · intro widget found share
    obtain ⟨text, _, same⟩ := offered_eq_some found
    subst same
    exact charged_pos_of_outstanding nonneg outstanding share
  · exact offered_isSome_iff_of_complete advancePaymentAllowed isSentInvoiceOnEmail bookings

theorem offered_payment_meaningful_half_paid :
    ∃ widget,
      offered true false
          { bookingDetail :=
              { status := some .complete, totalAmount := some 80, paidAmount := some 40 } } =
          some widget ∧
        0 < charged true widget := by
  have meaningful := offered_payment_meaningful true false
    { bookingDetail :=
        { status := some .complete, totalAmount := some 80, paidAmount := some 40 } }
    (by decide +kernel) (by decide +kernel)
  obtain ⟨widget, found⟩ :=
    Option.isSome_iff_exists.mp ((meaningful.2 rfl rfl).mpr (Or.inl rfl))
  refine ⟨widget, found, meaningful.1 widget found ?_⟩
  obtain ⟨_, _, same⟩ := offered_eq_some found
  intro _ _ advance
  rw [same] at advance
  cases advance

/-- Cash on delivery that is still to be collected is recorded as a payment, so
no button is offered; a booking paid in full by its advance is offered a payment
of zero; so is one whose service asks for an advance of zero percent. -/
theorem offered_payment_counterexample :
    offered true false
        { bookingDetail :=
            { status := some .complete
              type := some .fixed
              paymentStatus := some .pending
              paymentMethod := some .cod
              paymentId := some 5
              totalAmount := some 100
              paidAmount := some 0 }
          service := some { type := some .fixed, price := some 100 } } = none ∧
      (∃ widget,
        offered true false
            { bookingDetail :=
                { status := some .complete
                  type := some .fixed
                  paymentStatus := some .advancePaid
                  paymentId := some 5
                  totalAmount := some 100
                  paidAmount := some 100 }
              service := some
                { type := some .fixed, price := some 100, isEnableAdvancePayment := some 1 } } =
            some widget ∧
          charged true widget = 0) ∧
      ∃ widget,
        offered true false
            { bookingDetail :=
                { status := some .complete
                  type := some .fixed
                  paymentStatus := some .pending
                  totalAmount := some 100
                  paidAmount := some 0 }
              service := some
                { type := some .fixed, price := some 100, isEnableAdvancePayment := some 1 } } =
            some widget ∧
          charged true widget = 0 := by
  refine ⟨by decide +kernel, ⟨_, rfl, ?_⟩, _, rfl, ?_⟩
  · decide +kernel
  · decide +kernel

end FiksOpp.BookingDetail
