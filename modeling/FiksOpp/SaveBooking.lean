/-
`saveBooking` and the confirm dialog that retries it.

A call creates the booking and then reads it back, both under one timeout that
cancels nothing.  What the server commits is kept apart from what the client
gets to know, and the run results count committed bookings over all taps.
-/

import FiksOpp.BookingModels
import FiksOpp.PaymentScreen
import FiksOpp.Foundations.EventRun
import Mathlib.Data.List.Infix

namespace FiksOpp.SaveBooking

open EventRun
open Payment

def BOOKING_API_TIMEOUT_SECONDS : ℕ := 45

def containsText (text part : String) : Bool :=
  decide (part.toList <:+: text.toList)

inductive SaveReply where
  | saved (bookingId : ℤ)
  | failed (message : String)
  deriving DecidableEq, Repr

inductive DetailReply where
  | loaded (response : BookingDetailResponse)
  | failed (message : String)
  deriving DecidableEq, Repr

/-- How the server and the network treat one call.  A booking can be created
although the answer is lost, but an answer that says saved is true. -/
structure CallBehaviour where
  created : Bool
  saveReply : SaveReply
  saveMillis : ℕ
  detailReply : DetailReply
  detailMillis : ℕ
  truthful : ∀ bookingId, saveReply = .saved bookingId → created = true

def getBookingDetail (internalServerError : String) :
    DetailReply → Except String BookingDetailResponse
  | .loaded response => .ok response
  | .failed message =>
      if containsText message "payment" && containsText message "null" ||
          message == internalServerError then
        .error "Booking could not be loaded. Please try again or contact support."
      else .error message

def saveBookingInternal (internalServerError : String) (call : CallBehaviour) :
    Except String BookingDetailResponse × ℕ :=
  match call.saveReply with
  | .failed message => (.error message, call.saveMillis)
  | .saved _ =>
      (getBookingDetail internalServerError call.detailReply,
        call.saveMillis + call.detailMillis)

def saveBooking (internalServerError : String) (call : CallBehaviour) :
    Except String BookingDetailResponse :=
  let result := saveBookingInternal internalServerError call
  if result.2 < BOOKING_API_TIMEOUT_SECONDS * 1000 then result.1
  else .error "Request took too long. Please try again."

theorem getBookingDetail_isOk (internalServerError : String) (reply : DetailReply) :
    (getBookingDetail internalServerError reply).isOk = true ↔
      ∃ response, reply = .loaded response := by
  cases reply with
  | loaded response => exact iff_of_true rfl ⟨response, rfl⟩
  | failed message =>
      refine iff_of_false ?_ ?_
      · rw [getBookingDetail]
        split <;> exact Bool.false_ne_true
      · rintro ⟨response, impossible⟩
        cases impossible

def AnsweredInTime (call : CallBehaviour) : Prop :=
  (∃ bookingId, call.saveReply = .saved bookingId) ∧
    (∃ response, call.detailReply = .loaded response) ∧
      call.saveMillis + call.detailMillis < BOOKING_API_TIMEOUT_SECONDS * 1000

theorem saveBooking_isOk_iff (internalServerError : String) (call : CallBehaviour) :
    (saveBooking internalServerError call).isOk = true ↔ AnsweredInTime call := by
  unfold saveBooking saveBookingInternal AnsweredInTime
  cases answered : call.saveReply with
  | failed message =>
      refine iff_of_false ?_ ?_
      · dsimp only
        split <;> exact Bool.false_ne_true
      · rintro ⟨⟨bookingId, impossible⟩, _⟩
        cases impossible
  | saved bookingId =>
      dsimp only
      by_cases inTime : call.saveMillis + call.detailMillis < BOOKING_API_TIMEOUT_SECONDS * 1000
      · rw [if_pos inTime, getBookingDetail_isOk]
        constructor
        · intro loaded
          exact ⟨⟨bookingId, rfl⟩, loaded, inTime⟩
        · intro all
          exact all.2.1
      · rw [if_neg inTime]
        refine iff_of_false Bool.false_ne_true ?_
        intro all
        exact inTime all.2.2

/-- An answer failed, or the second one came too late. -/
def LostOrLate (call : CallBehaviour) : Prop :=
  (∃ message, call.saveReply = .failed message) ∨
    (∃ message, call.detailReply = .failed message) ∨
      BOOKING_API_TIMEOUT_SECONDS * 1000 ≤ call.saveMillis + call.detailMillis

theorem not_answeredInTime_iff (call : CallBehaviour) :
    ¬ AnsweredInTime call ↔ LostOrLate call := by
  unfold AnsweredInTime LostOrLate
  cases call.saveReply with
  | failed message =>
      refine iff_of_true ?_ (Or.inl ⟨message, rfl⟩)
      rintro ⟨⟨bookingId, impossible⟩, _⟩
      cases impossible
  | saved bookingId =>
      cases call.detailReply with
      | failed message =>
          refine iff_of_true ?_ (Or.inr (Or.inl ⟨message, rfl⟩))
          rintro ⟨_, ⟨response, impossible⟩, _⟩
          cases impossible
      | loaded response =>
          constructor
          · intro unanswered
            right
            right
            by_contra early
            exact unanswered ⟨⟨bookingId, rfl⟩, ⟨response, rfl⟩, not_le.mp early⟩
          · rintro (⟨message, impossible⟩ | ⟨message, impossible⟩ | late) answered
            · cases impossible
            · cases impossible
            · exact absurd answered.2.2 (not_lt.mpr late)

theorem created_of_returns {internalServerError : String} {call : CallBehaviour}
    (returns : (saveBooking internalServerError call).isOk = true) : call.created = true := by
  obtain ⟨⟨bookingId, saved⟩, _⟩ := (saveBooking_isOk_iff internalServerError call).mp returns
  exact call.truthful bookingId saved

/-! ### The confirm dialog -/

/-- One tap on Confirm: the checkbox, what becomes of the call, and whether the
app still has a navigator when the call returns. -/
structure Tap where
  isSelected : Bool
  call : CallBehaviour
  hasNavigator : Bool

structure DialogState where
  isOpen : Bool := true
  bookings : ℕ := 0
  deriving DecidableEq, Repr

def DialogState.acts (state : DialogState) (tap : Tap) : Bool :=
  state.isOpen && tap.isSelected

def finishes (internalServerError : String) (tap : Tap) : Bool :=
  (saveBooking internalServerError tap.call).isOk && tap.hasNavigator

/-- Taps one after the other; the outputs are the payment screens launched. -/
def confirmDialog (internalServerError : String) : Machine DialogState Tap PaymentScreen :=
  { next := fun state tap =>
      if state.acts tap then
        { isOpen := !finishes internalServerError tap
          bookings := state.bookings + if tap.call.created then 1 else 0 }
      else state
    outputs := fun state tap =>
      match saveBooking internalServerError tap.call with
      | .error _ => []
      | .ok response =>
          if state.acts tap && tap.hasNavigator then
            [{ bookings := response, isForAdvancePayment := true }]
          else [] }

/-- A tap that does not finish the dialog has left no booking on the server. -/
def LeavesNoneBehind (internalServerError : String) (tap : Tap) : Prop :=
  finishes internalServerError tap = false → tap.call.created = false

theorem bookings_run_le (internalServerError : String) (state : DialogState) (taps : List Tap) :
    ((confirmDialog internalServerError).run state taps).bookings ≤
      state.bookings + taps.length := by
  induction taps generalizing state with
  | nil => exact Nat.le_refl _
  | cons tap rest ih =>
      have later := ih ((confirmDialog internalServerError).next state tap)
      have step : ((confirmDialog internalServerError).next state tap).bookings ≤
          state.bookings + 1 := by
        unfold confirmDialog
        dsimp only
        split
        · dsimp only
          split <;> omega
        · omega
      rw [Machine.run, List.length_cons]
      omega

def Settled (state : DialogState) : Prop :=
  state.isOpen = true ∧ state.bookings = 0 ∨ state.isOpen = false ∧ state.bookings ≤ 1

theorem next_settled {internalServerError : String} {state : DialogState} {tap : Tap}
    (settled : Settled state) (none : LeavesNoneBehind internalServerError tap) :
    Settled ((confirmDialog internalServerError).next state tap) := by
  unfold confirmDialog
  dsimp only
  rcases settled with ⟨isOpen, empty⟩ | ⟨closed, bound⟩
  · cases accepted : tap.isSelected with
    | false =>
        have idle : state.acts tap = false := by
          unfold DialogState.acts
          rw [accepted, Bool.and_false]
        rw [idle]
        exact Or.inl ⟨isOpen, empty⟩
    | true =>
        have acts : state.acts tap = true := by
          unfold DialogState.acts
          rw [accepted, isOpen]
          rfl
        rw [acts, if_pos rfl]
        cases ended : finishes internalServerError tap with
        | true =>
            right
            refine ⟨rfl, ?_⟩
            dsimp only
            split <;> omega
        | false =>
            left
            refine ⟨rfl, ?_⟩
            dsimp only
            rw [none ended, empty]
            rfl
  · have idle : state.acts tap = false := by
      unfold DialogState.acts
      rw [closed, Bool.false_and]
    rw [idle]
    exact Or.inr ⟨closed, bound⟩

/-- What a call leaves on the server, and what a dialog does: a call that
returns has created a booking; one that throws has left a created booking behind
exactly when an answer was lost, failed or late; a dialog creates at most one
booking for each tap, and at most one in all if no tap leaves one behind. -/
theorem saveBooking_leaves (internalServerError : String) :
    (∀ call, (saveBooking internalServerError call).isOk = true → call.created = true) ∧
    (∀ call, (saveBooking internalServerError call).isOk = false ∧ call.created = true ↔
      call.created = true ∧ LostOrLate call) ∧
    (∀ taps : List Tap,
      ((confirmDialog internalServerError).run {} taps).bookings ≤ taps.length) ∧
    (∀ taps : List Tap,
      (confirmDialog internalServerError).Every
          (fun _ tap => LeavesNoneBehind internalServerError tap) {} taps →
        ((confirmDialog internalServerError).run {} taps).bookings ≤ 1) := by
  refine ⟨?_, ?_, ?_, ?_⟩
  · intro call returns
    exact created_of_returns returns
  · intro call
    rw [← not_answeredInTime_iff, ← saveBooking_isOk_iff internalServerError, Bool.not_eq_true]
    exact and_comm
  · intro taps
    have bound := bookings_run_le internalServerError {} taps
    rw [Nat.zero_add] at bound
    exact bound
  · intro taps none
    have settled := Machine.invariant_run Settled
      (fun state tap held leaves => next_settled held leaves)
      (Or.inl ⟨rfl, rfl⟩) none
    rcases settled with ⟨_, empty⟩ | ⟨_, bound⟩
    · omega
    · exact bound

theorem saveBooking_leaves_two_taps :
    ((confirmDialog "Internal server error").run {}
      [{ isSelected := true
         call :=
           { created := false
             saveReply := .failed "Your internet is not working"
             saveMillis := 10
             detailReply := .failed ""
             detailMillis := 0
             truthful := by simp }
         hasNavigator := true },
       { isSelected := true
         call :=
           { created := true
             saveReply := .saved 5
             saveMillis := 800
             detailReply := .loaded { bookingDetail := {} }
             detailMillis := 300
             truthful := fun _ _ => rfl }
         hasNavigator := true }]).bookings ≤ 1 := by
  apply (saveBooking_leaves "Internal server error").2.2.2
  refine ⟨?_, ?_, trivial⟩
  · intro _
    rfl
  · intro unfinished
    revert unfinished
    decide +kernel

/-- The booking is created, reading it back fails, and the customer taps again. -/
theorem retried_after_detail_failure_counterexample :
    ∃ tap : Tap,
      (saveBooking "Internal server error" tap.call).isOk = false ∧
        tap.call.created = true ∧
          ((confirmDialog "Internal server error").run {} [tap, tap]).bookings = 2 := by
  refine ⟨{ isSelected := true
            call :=
              { created := true
                saveReply := .saved 5
                saveMillis := 800
                detailReply := .failed "Internal server error"
                detailMillis := 300
                truthful := fun _ _ => rfl }
            hasNavigator := true }, ?_, rfl, ?_⟩
  · decide +kernel
  · decide +kernel

end FiksOpp.SaveBooking
