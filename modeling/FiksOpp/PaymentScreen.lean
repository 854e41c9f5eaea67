/-
`PaymentScreen`: the amount it chooses, the status it passes and the request
of `savePay`.

The gateways are modelled elsewhere; here a completion is the request that a
finished payment sends.  The last two sections compare the amounts with a
bounded account and the status with what is left to pay.
-/

import FiksOpp.BookingModels
import FiksOpp.Foundations.BoundedAccount
import FiksOpp.Foundations.EventRun
import Mathlib.Algebra.Order.Field.Rat
import Mathlib.Tactic.Linarith
import Mathlib.Tactic.FieldSimp
import Mathlib.Tactic.Ring

namespace FiksOpp.Payment

open BoundedAccount
open EventRun

structure PaymentScreen where
  bookings : BookingDetailResponse
  isForAdvancePayment : Bool := false
  deriving DecidableEq, Repr

structure PaymentScreenState where
  totalAmount : ℚ := 0
  advancePaymentAmount : Option ℚ := none
  deriving DecidableEq, Repr

def takesAdvance (advancePaymentAllowed : Bool) (bookings : BookingDetailResponse) : Bool :=
  match bookings.service with
  | none => false
  | some service =>
      service.isAdvancePayment advancePaymentAllowed && service.isFixedService &&
        !service.isFreeService && bookings.bookingDetail.bookingPackage.isNone

def advancePaymentPercentage (bookings : BookingDetailResponse) : ℚ :=
  validate (bookings.service.bind ServiceData.advancePaymentPercentage)

def initState (advancePaymentAllowed : Bool) (widget : PaymentScreen) : PaymentScreenState :=
  let total := validate widget.bookings.bookingDetail.totalAmount
  let paid := validate widget.bookings.bookingDetail.paidAmount
  if widget.isForAdvancePayment then
    if paid = 0 then
      { totalAmount := total, advancePaymentAmount := some total }
    else
      { totalAmount := total - paid }
  else if takesAdvance advancePaymentAllowed widget.bookings then
    if paid = 0 then
      { totalAmount := total * advancePaymentPercentage widget.bookings / 100
        advancePaymentAmount :=
          some (total * advancePaymentPercentage widget.bookings / 100) }
    else
      { totalAmount := total - paid }
  else
    { totalAmount := total }

/-- The status argument of `savePay` in each branch of `_handleClick`; no
branch exists for the remaining methods. -/
def handleClickStatus (isForAdvancePayment : Bool) :
    PaymentMethod → Option ServicePaymentStatus
  | .cod => some (if isForAdvancePayment then .advancePaid else .pending)
  | .pix | .bank | .other _ => none
  | _ => some (if isForAdvancePayment then .advancePaid else .paid)

/-- The map posted to `save-payment`.  An absent advance amount is `none`, a
null one is `some none`. -/
structure SavePaymentRequest where
  bookingId : ℤ
  customerId : ℤ
  discount : ℚ
  totalAmount : ℚ
  dateTime : String
  txnId : String
  paymentStatus : ServicePaymentStatus
  paymentMethod : PaymentMethod
  advancePaymentAmount : Option (Option ℚ) := none
  deriving DecidableEq, Repr

/-- The status that both advance branches of `savePay` write.  The inequalities
are joined by "or", so the first part never fails. -/
def advanceStatus (booking : BookingData) (paymentStatus : ServicePaymentStatus) :
    ServicePaymentStatus :=
  if (booking.paymentStatus = none ∨ booking.paymentStatus ≠ some .advancePaid ∨
        booking.paymentStatus ≠ some .paid) ∧
      (booking.paidAmount = none ∨ validate booking.paidAmount ≤ 0) then
    .advancePaid
  else if booking.paymentStatus = some .advancePaid then
    .paid
  else
    paymentStatus

def savePay (advancePaymentAllowed : Bool) (userId : ℤ) (now : String)
    (widget : PaymentScreen) (state : PaymentScreenState) (txnId : String)
    (paymentMethod : PaymentMethod) (paymentStatus : ServicePaymentStatus) :
    SavePaymentRequest :=
  let booking := widget.bookings.bookingDetail
  let request : SavePaymentRequest :=
    { bookingId := validate booking.id
      customerId := userId
      discount := validate (widget.bookings.service.bind ServiceData.discount)
      totalAmount := state.totalAmount
      dateTime := now
      txnId := if txnId ≠ "" then txnId else "#" ++ toString (validate booking.id)
      paymentStatus := paymentStatus
      paymentMethod := paymentMethod }
  if widget.isForAdvancePayment then
    { request with
      advancePaymentAmount :=
        some (some (state.advancePaymentAmount.getD (validate booking.totalAmount)))
      paymentStatus := advanceStatus booking paymentStatus }
  else if takesAdvance advancePaymentAllowed widget.bookings then
    { request with
      advancePaymentAmount := some (state.advancePaymentAmount.or booking.paidAmount)
      paymentStatus := advanceStatus booking paymentStatus }
  else
    request

/-- What the backend is sent when the chosen method completes. -/
def completion (advancePaymentAllowed : Bool) (userId : ℤ) (now : String)
    (widget : PaymentScreen) (txnId : String) (paymentMethod : PaymentMethod) :
    Option SavePaymentRequest :=
  (handleClickStatus widget.isForAdvancePayment paymentMethod).map
    (savePay advancePaymentAllowed userId now widget
      (initState advancePaymentAllowed widget) txnId paymentMethod)

def PaymentScreen.total (widget : PaymentScreen) : ℚ :=
  validate widget.bookings.bookingDetail.totalAmount

def PaymentScreen.paid (widget : PaymentScreen) : ℚ :=
  validate widget.bookings.bookingDetail.paidAmount

def charged (advancePaymentAllowed : Bool) (widget : PaymentScreen) : ℚ :=
  (initState advancePaymentAllowed widget).totalAmount

theorem savePay_totalAmount (advancePaymentAllowed : Bool) (userId : ℤ) (now : String)
    (widget : PaymentScreen) (state : PaymentScreenState) (txnId : String)
    (paymentMethod : PaymentMethod) (paymentStatus : ServicePaymentStatus) :
    (savePay advancePaymentAllowed userId now widget state txnId paymentMethod
      paymentStatus).totalAmount = state.totalAmount := by
  unfold savePay
  cases widget.isForAdvancePayment with
  | true => rfl
  | false =>
      cases takesAdvance advancePaymentAllowed widget.bookings with
      | true => rfl
      | false => rfl

theorem savePay_paymentStatus (advancePaymentAllowed : Bool) (userId : ℤ) (now : String)
    (widget : PaymentScreen) (state : PaymentScreenState) (txnId : String)
    (paymentMethod : PaymentMethod) (paymentStatus : ServicePaymentStatus) :
    (savePay advancePaymentAllowed userId now widget state txnId paymentMethod
      paymentStatus).paymentStatus =
      if widget.isForAdvancePayment || takesAdvance advancePaymentAllowed widget.bookings then
        advanceStatus widget.bookings.bookingDetail paymentStatus
      else paymentStatus := by
  unfold savePay
  cases widget.isForAdvancePayment with
  | true => rfl
  | false =>
      cases takesAdvance advancePaymentAllowed widget.bookings with
      | true => rfl
      | false => rfl

theorem completion_eq_some {advancePaymentAllowed : Bool} {userId : ℤ} {now : String}
    {widget : PaymentScreen} {txnId : String} {paymentMethod : PaymentMethod}
    {request : SavePaymentRequest}
    (sent : completion advancePaymentAllowed userId now widget txnId paymentMethod =
      some request) :
    ∃ status, handleClickStatus widget.isForAdvancePayment paymentMethod = some status ∧
      request = savePay advancePaymentAllowed userId now widget
        (initState advancePaymentAllowed widget) txnId paymentMethod status := by
  obtain ⟨status, found, same⟩ := Option.map_eq_some_iff.mp sent
  exact ⟨status, found, same.symm⟩

theorem completion_totalAmount {advancePaymentAllowed : Bool} {userId : ℤ} {now : String}
    {widget : PaymentScreen} {txnId : String} {paymentMethod : PaymentMethod}
    {request : SavePaymentRequest}
    (sent : completion advancePaymentAllowed userId now widget txnId paymentMethod =
      some request) :
    request.totalAmount = charged advancePaymentAllowed widget := by
  obtain ⟨status, _, rfl⟩ := completion_eq_some sent
  exact savePay_totalAmount _ _ _ _ _ _ _ _

theorem charged_cases (advancePaymentAllowed : Bool) (widget : PaymentScreen) :
    charged advancePaymentAllowed widget =
      if widget.isForAdvancePayment = true ∨
          takesAdvance advancePaymentAllowed widget.bookings = true ∧ widget.paid ≠ 0 then
        widget.total - widget.paid
      else if takesAdvance advancePaymentAllowed widget.bookings then
        widget.total * advancePaymentPercentage widget.bookings / 100
      else widget.total := by
  unfold charged initState PaymentScreen.paid PaymentScreen.total
  cases widget.isForAdvancePayment with
  | true =>
      by_cases unpaid : validate widget.bookings.bookingDetail.paidAmount = 0
      · simp only [unpaid, if_true, true_or, sub_zero]
      · simp only [unpaid, if_true, if_false, true_or]
  | false =>
      cases takesAdvance advancePaymentAllowed widget.bookings with
      | true =>
          by_cases unpaid : validate widget.bookings.bookingDetail.paidAmount = 0
          · simp only [unpaid, if_true, Bool.false_eq_true, if_false, ne_eq,
              not_true_eq_false, and_false, or_false]
          · simp only [unpaid, if_true, Bool.false_eq_true, if_false, ne_eq,
              not_false_eq_true, and_true, or_true]
      | false =>
          simp only [Bool.false_eq_true, if_false, false_and, or_false]

/-! ### The amount against what is outstanding -/

/-- The launches whose amount fits: an advance launch, a service advance whose
percentage is a proper share, or a plain launch of an unpaid booking. -/
def FitsOutstanding (advancePaymentAllowed : Bool) (widget : PaymentScreen) : Prop :=
  widget.isForAdvancePayment = true ∨
    (if takesAdvance advancePaymentAllowed widget.bookings then
      widget.paid ≠ 0 ∨ widget.total = 0 ∨
        0 ≤ advancePaymentPercentage widget.bookings ∧
          advancePaymentPercentage widget.bookings ≤ 100
    else widget.paid = 0)

instance (advancePaymentAllowed : Bool) (widget : PaymentScreen) :
    Decidable (FitsOutstanding advancePaymentAllowed widget) :=
  inferInstanceAs (Decidable (_ ∨ _))

private theorem share_within_iff {total percentage : ℚ} (nonneg : 0 ≤ total) :
    Acceptable total 0 (total * percentage / 100) ↔
      total = 0 ∨ 0 ≤ percentage ∧ percentage ≤ 100 := by
  unfold Acceptable
  rw [add_zero]
  rcases nonneg.eq_or_lt with zero | positive
  · subst zero
    simp only [zero_mul, zero_div, le_refl, and_self, true_or]
  · have notZero : total ≠ 0 := ne_of_gt positive
    simp only [notZero, false_or]
    refine and_congr ?_ ?_
    · rw [le_div_iff₀ (by norm_num), zero_mul]
      exact mul_nonneg_iff_of_pos_left positive
    · rw [div_le_iff₀ (by norm_num)]
      exact mul_le_mul_iff_of_pos_left positive

/-- One launch charges no more than is outstanding exactly when it fits. -/
theorem charged_acceptable_iff (advancePaymentAllowed : Bool) (widget : PaymentScreen)
    (nonneg : 0 ≤ widget.paid) (within : widget.paid ≤ widget.total) :
    Acceptable widget.total widget.paid (charged advancePaymentAllowed widget) ↔
      FitsOutstanding advancePaymentAllowed widget := by
  have remainder : Acceptable widget.total widget.paid (widget.total - widget.paid) :=
    Account.outstanding_acceptable
      { total := widget.total, collected := widget.paid, nonneg := nonneg, within := within }
  rw [charged_cases]
  unfold FitsOutstanding
  cases widget.isForAdvancePayment with
  | true =>
      simp only [true_or, if_true, iff_true]
      exact remainder
  | false =>
      cases takesAdvance advancePaymentAllowed widget.bookings with
      | true =>
          by_cases unpaid : widget.paid = 0
          · simp only [unpaid, Bool.false_eq_true, ne_eq, not_true_eq_false, and_false,
              or_false, if_false, if_true, false_or]
            exact share_within_iff (nonneg.trans within)
          · simp only [unpaid, Bool.false_eq_true, ne_eq, not_false_eq_true, and_true,
              false_or, if_true, true_or, iff_true]
            exact remainder
      | false =>
          simp only [Bool.false_eq_true, false_and, or_false, if_false, false_or]
          constructor
          · intro accepted
            have bound := accepted.2
            linarith
          · intro unpaid
            rw [unpaid]
            exact ⟨nonneg.trans within, le_of_eq (add_zero _)⟩

structure BackendBooking where
  totalAmount : ℚ
  paidAmount : ℚ
  deriving DecidableEq, Repr

def BackendBooking.serve (booking : BackendBooking) (widget : PaymentScreen) : PaymentScreen :=
  { widget with
    bookings :=
      { widget.bookings with
        bookingDetail :=
          { widget.bookings.bookingDetail with
            totalAmount := some booking.totalAmount
            paidAmount := some booking.paidAmount } } }

/-- Payment screens completing one after the other on one booking; each
completed charge is added to the paid amount. -/
def paymentMachine (advancePaymentAllowed : Bool) : Machine BackendBooking PaymentScreen ℚ :=
  { next := fun booking widget =>
      { booking with
        paidAmount :=
          booking.paidAmount + charged advancePaymentAllowed (booking.serve widget) }
    outputs := fun booking widget => [charged advancePaymentAllowed (booking.serve widget)] }

def Represents (account : Account ℚ) (booking : BackendBooking) : Prop :=
  account.total = booking.totalAmount ∧ account.collected = booking.paidAmount

/-- A fitting launch is a payment the account collects. -/
theorem paymentMachine_refines_collect (advancePaymentAllowed : Bool)
    (booking : BackendBooking) (widget : PaymentScreen) (account : Account ℚ)
    (represents : Represents account booking)
    (fits : FitsOutstanding advancePaymentAllowed (booking.serve widget)) :
    ∃ acceptable,
      Represents
        (account.collect (charged advancePaymentAllowed (booking.serve widget)) acceptable)
        ((paymentMachine advancePaymentAllowed).next booking widget) := by
  obtain ⟨sameTotal, samePaid⟩ := represents
  have nonneg : 0 ≤ (booking.serve widget).paid := by
    change 0 ≤ booking.paidAmount
    rw [← samePaid]
    exact account.nonneg
  have within : (booking.serve widget).paid ≤ (booking.serve widget).total := by
    change booking.paidAmount ≤ booking.totalAmount
    rw [← samePaid, ← sameTotal]
    exact account.within
  have accepted := (charged_acceptable_iff advancePaymentAllowed _ nonneg within).mpr fits
  change Acceptable booking.totalAmount booking.paidAmount _ at accepted
  rw [← sameTotal, ← samePaid] at accepted
  refine ⟨accepted, sameTotal, ?_⟩
  change account.collected + _ = booking.paidAmount + _
  rw [samePaid]

theorem paymentMachine_run_represented (advancePaymentAllowed : Bool)
    {start : BackendBooking} {launches : List PaymentScreen}
    (initially : ∃ account, Represents account start)
    (fits : (paymentMachine advancePaymentAllowed).Every
      (fun booking widget => FitsOutstanding advancePaymentAllowed (booking.serve widget))
      start launches) :
    ∃ account, Represents account ((paymentMachine advancePaymentAllowed).run start launches) := by
  refine Machine.invariant_run (fun booking => ∃ account, Represents account booking)
    ?_ initially fits
  rintro booking widget ⟨account, represents⟩ fitting
  obtain ⟨acceptable, next⟩ := paymentMachine_refines_collect advancePaymentAllowed booking
    widget account represents fitting
  exact ⟨_, next⟩

theorem totalAmount_run (advancePaymentAllowed : Bool) (start : BackendBooking)
    (launches : List PaymentScreen) :
    ((paymentMachine advancePaymentAllowed).run start launches).totalAmount =
      start.totalAmount :=
  Machine.invariant_run_of_kept
    (fun booking : BackendBooking => booking.totalAmount = start.totalAmount)
    (fun _ _ same => same) rfl launches

theorem paidAmount_run (advancePaymentAllowed : Bool) (start : BackendBooking)
    (launches : List PaymentScreen) :
    ((paymentMachine advancePaymentAllowed).run start launches).paidAmount =
      start.paidAmount + ((paymentMachine advancePaymentAllowed).trace start launches).sum := by
  induction launches generalizing start with
  | nil =>
      change start.paidAmount = start.paidAmount + 0
      rw [add_zero]
  | cons widget rest ih =>
      have later := ih ((paymentMachine advancePaymentAllowed).next start widget)
      rw [Machine.run, later, Machine.trace, List.sum_append, ← add_assoc]
      congr 1
      change start.paidAmount + charged advancePaymentAllowed (start.serve widget) =
        start.paidAmount + [charged advancePaymentAllowed (start.serve widget)].sum
      rw [List.sum_singleton]

/-- A first payment that the client treats as an advance, whatever share of the
total it is. -/
def Upfront (advancePaymentAllowed : Bool) (widget : PaymentScreen) : Prop :=
  widget.paid = 0 ∧
    (widget.isForAdvancePayment = true ∨
      takesAdvance advancePaymentAllowed widget.bookings = true)

/-- The paid amount and the record agree: an upfront payment finds no earlier one
on record, and a later payment sees the earlier one, as the stored advance on an
advance launch and through the service on a plain one. -/
def ConsistentRecord (advancePaymentAllowed : Bool) (widget : PaymentScreen) : Prop :=
  if widget.paid = 0 then
    Upfront advancePaymentAllowed widget →
      widget.bookings.bookingDetail.paymentStatus ≠ some .advancePaid ∧
        widget.bookings.bookingDetail.paymentStatus ≠ some .paid
  else if widget.isForAdvancePayment then
    widget.bookings.bookingDetail.paymentStatus = some .advancePaid
  else takesAdvance advancePaymentAllowed widget.bookings = true

instance (advancePaymentAllowed : Bool) (widget : PaymentScreen) :
    Decidable (Upfront advancePaymentAllowed widget) :=
  inferInstanceAs (Decidable (_ ∧ _))

theorem handleClickStatus_of_not_cod {isForAdvancePayment : Bool}
    {paymentMethod : PaymentMethod} {status : ServicePaymentStatus}
    (notCod : paymentMethod ≠ .cod)
    (found : handleClickStatus isForAdvancePayment paymentMethod = some status) :
    status = if isForAdvancePayment then .advancePaid else .paid := by
  cases paymentMethod with
  | cod => exact absurd rfl notCod
  | pix => cases found
  | bank => cases found
  | other text => cases found
  | _ => exact (Option.some.inj found).symm

theorem advanceStatus_of_unpaid {booking : BookingData} (status : ServicePaymentStatus)
    (unpaid : validate booking.paidAmount = 0) : advanceStatus booking status = .advancePaid := by
  have inequalities : booking.paymentStatus = none ∨
      booking.paymentStatus ≠ some .advancePaid ∨ booking.paymentStatus ≠ some .paid := by
    by_cases advance : booking.paymentStatus = some .advancePaid
    · right
      right
      rw [advance]
      decide
    · exact Or.inr (Or.inl advance)
  exact if_pos ⟨inequalities, Or.inr (le_of_eq unpaid)⟩

theorem advanceStatus_of_paid {booking : BookingData} (status : ServicePaymentStatus)
    (positive : 0 < validate booking.paidAmount) :
    advanceStatus booking status =
      if booking.paymentStatus = some .advancePaid then .paid else status := by
  have present : ¬ (booking.paidAmount = none ∨ validate booking.paidAmount ≤ 0) := by
    rintro (missing | small)
    · rw [missing, validate_none] at positive
      exact lt_irrefl _ positive
    · exact absurd small (not_le.mpr positive)
  exact if_neg (fun both => present both.2)

theorem charged_add_paid_of_not_upfront {advancePaymentAllowed : Bool} {widget : PaymentScreen}
    (record : ConsistentRecord advancePaymentAllowed widget)
    (later : ¬ Upfront advancePaymentAllowed widget) :
    charged advancePaymentAllowed widget + widget.paid = widget.total := by
  rw [charged_cases]
  by_cases unpaid : widget.paid = 0
  · have plain : widget.isForAdvancePayment = false := by
      rw [← Bool.not_eq_true]
      intro advance
      exact later ⟨unpaid, Or.inl advance⟩
    have noAdvance : takesAdvance advancePaymentAllowed widget.bookings = false := by
      rw [← Bool.not_eq_true]
      intro advance
      exact later ⟨unpaid, Or.inr advance⟩
    rw [unpaid, add_zero]
    simp only [plain, noAdvance, Bool.false_eq_true, false_and, or_self, if_false]
  · have visible := record
    rw [ConsistentRecord, if_neg unpaid] at visible
    have remainder : widget.isForAdvancePayment = true ∨
        takesAdvance advancePaymentAllowed widget.bookings = true ∧ widget.paid ≠ 0 := by
      cases advance : widget.isForAdvancePayment with
      | true => exact Or.inl rfl
      | false =>
          rw [advance] at visible
          exact Or.inr ⟨visible, unpaid⟩
    rw [if_pos remainder, sub_add_cancel]

end FiksOpp.Payment
