/-
The global loading flag: `appStore.setLoading` and the operations that put it around a
network request, a gateway or a dialog.

An operation is the script of its writes.  Waits in a row without a write between them
are one wait; what a nested call does before its caller goes on is part of the caller's
stretch.  A call that nobody awaits is spawned, and a button of a dialog or a sheet
starts an operation of its own.
-/

import FiksOpp.Constants
import FiksOpp.Foundations.SharedFlag
import Mathlib.Algebra.Order.Field.Rat

namespace FiksOpp.LoadingFlag

open EventRun
open SharedFlag

/-- How a request, a gateway or a dialog answers. -/
inductive Answer where
  | completed
  /-- An answer that says no: a refused payment, an unsuccessful status. -/
  | declined
  | failed
  /-- The gateway has not decided yet. -/
  | pending
  /-- The caller stops waiting; the request itself goes on. -/
  | timedOut
  /-- Status 401, and the sign-in that renews the token succeeded; `depth` sign-ins had
  to renew the token themselves. -/
  | renewed (depth : ℕ)
  /-- Status 401, and the sign-in brought an account that may not use the app. -/
  | refused
  deriving DecidableEq, Repr

abbrev Operation := Script Answer

def ifCompleted (done otherwise : Operation) : Answer → Operation
  | .completed => done
  | _ => otherwise

/-- What `reGenerateToken` does after its sign-in, down to the request that is sent again
and is not renewed a second time. -/
def resent (resume : Answer → Operation) : ℕ → Operation
  | 0 => .helperWrite false (.await resume)
  | depth + 1 =>
      .helperWrite false (.await fun signedIn =>
        match signedIn with
        | .completed => resent resume depth
        | .refused => .helperWrite false (resume .failed)
        | _ => resume .failed)

/-- `buildHttpResponse` and `handleResponse` for a path of the back-end. -/
def request (resume : Answer → Operation) : Operation :=
  .await fun answer =>
    match answer with
    | .renewed depth => resent resume depth
    | .refused => .helperWrite false (resume .failed)
    | answer => resume answer

/-- `Future.timeout`: when the caller stops waiting, the call goes on without it. -/
def timeLimited (expired : Operation) : Operation → Operation → Operation
  | .await call, .await orphan =>
      .await fun answer =>
        if answer = .timedOut then .spawn (.await orphan) expired
        else timeLimited expired (call answer) (orphan answer)
  | .helperWrite value call, .helperWrite _ orphan =>
      .helperWrite value (timeLimited expired call orphan)
  | call, _ => call

/-- `absent` has no object for the chosen mode, or no value in it that the service
insists on; `empty` has an empty text. -/
inductive Credentials where
  | absent
  | empty
  | present
  deriving DecidableEq, Repr

structure Checkout where
  paymentMethod : PaymentMethod
  totalAmount : ℚ
  currencyCode : String
  credentials : Credentials
  /-- How often the page of the gateway reports before it is closed. -/
  reports : ℕ
  deriving DecidableEq, Repr

/-- `savePay`; both answers of `savePayment` reset the flag. -/
def savePay : Operation :=
  .write true (request fun _ => .write false .finished)

/-- What `stripePay` throws resets the flag in the service and in `_handleClick`. -/
def stripeFailed : Operation :=
  .write false (.write false .finished)

def presentPaymentSheet : Operation :=
  .await (ifCompleted (.spawn savePay .finished) stripeFailed)

/-- The request goes to Stripe, so no token is renewed. -/
def stripePay (checkout : Checkout) : Operation :=
  match checkout.credentials with
  | .present =>
      .await (ifCompleted
        (.write true (.await fun sent =>
          match sent with
          | .completed => .write false presentPaymentSheet
          | .declined => .write false stripeFailed
          | _ => stripeFailed))
        (.write false .finished))
  | .absent | .empty => .write false .finished

/-- The three handlers of the Razorpay events reset the flag. -/
def razorPayCheckout (checkout : Checkout) : Operation :=
  .write true
    (match checkout.credentials with
    | .present =>
        .await (ifCompleted (.write false (.spawn savePay .finished)) (.write false .finished))
    | .absent | .empty => .write false .finished)

/-- `checkout` is not awaited, and nobody catches what it throws. -/
def flutterWaveCheckout (checkout : Checkout) : Operation :=
  match checkout.credentials with
  | .absent => .finished
  | .empty | .present =>
      .await fun charged =>
        match charged with
        | .completed =>
            .write true (.await (ifCompleted (.spawn savePay .finished) (.write false .finished)))
        | .declined => .write false .finished
        | _ => .finished

/-- A page of a gateway that reports before it is closed. -/
def page (report : Answer → Operation → Operation) (closed : Operation) : ℕ → Operation
  | 0 => .await fun _ => closed
  | reports + 1 => .await fun answer => report answer (page report closed reports)

def supportedCurrencies : List String :=
  ["XOF", "XAF", "CDF", "GNF", "USD"]

/-- An accepted payment resets the flag and then fails on `onComplete`, which the
constructor does not set. -/
def cinetPayReport (answer : Answer) (rest : Operation) : Operation :=
  match answer with
  | .declined => rest
  | _ => .write false rest

def payWithCinetPay (checkout : Checkout) : Operation :=
  page cinetPayReport (.write false .finished) checkout.reports

/-- Each check returns after its toast. -/
def cinetPay (checkout : Checkout) : Operation :=
  if !supportedCurrencies.contains checkout.currencyCode then .finished
  else if checkout.totalAmount < 100 then .finished
  else if checkout.totalAmount > 1500000 then .finished
  else payWithCinetPay checkout

/-- `createInvoice` and the web view it opens; here too `onComplete` is not set, and what
it throws is caught. -/
def createInvoice : Operation :=
  .await (ifCompleted
    (.write false (.await (ifCompleted (.write false .finished) .finished)))
    (.write false .finished))

def payWithSadad (checkout : Checkout) : Operation :=
  match checkout.credentials with
  | .present => .write true (.await (ifCompleted createInvoice (.write false .finished)))
  | .absent | .empty => .write false .finished

def payPalReport (answer : Answer) (rest : Operation) : Operation :=
  match answer with
  | .completed => .write false (.spawn savePay rest)
  | _ => .write false rest

/-- `paypalCheckOut` is not awaited either. -/
def paypalCheckOut (checkout : Checkout) : Operation :=
  .write true
    (match checkout.credentials with
    | .present => page payPalReport (.write false .finished) checkout.reports
    | .absent | .empty => .finished)

/-- The dialog; its button is `airtelHandleClick`. -/
def airtelMoney : Operation :=
  .await fun _ => .write false .finished

def payStack : Operation :=
  .write true (.await fun _ => .write false (.write true (.write false .finished)))

/-- `initialize` does not keep the payment method, so `midtransPaymentCheckout` throws. -/
def midtrans : Operation :=
  .write true (.await fun _ => .write false (.write false .finished))

/-- The constructor throws without credentials; `phonePeCheckout` catches its errors and
never resets the flag.  The buttons of its sheet are `phonePePayClick`. -/
def phonePe (checkout : Checkout) : Operation :=
  match checkout.credentials with
  | .absent => .write false .finished
  | .empty | .present => .await fun _ => .finished

def payWith (checkout : Checkout) : Operation :=
  match checkout.paymentMethod with
  | .cod => .spawn savePay .finished
  | .stripe => stripePay checkout
  | .razor => razorPayCheckout checkout
  | .flutterWave => flutterWaveCheckout checkout
  | .cinetPay => cinetPay checkout
  | .sadadPayment => payWithSadad checkout
  | .payPal => paypalCheckOut checkout
  | .airtel => airtelMoney
  | .payStack => payStack
  | .midtrans => midtrans
  | .phonePe => phonePe checkout
  | .fromWallet => .spawn savePay .finished
  | .pix | .bank | .other _ => .finished

/-- `_handleClick`, with the reset of the button that catches what it throws. -/
def handleClick (checkout : Checkout) : Operation :=
  if checkout.paymentMethod ≠ .stripe then .write true (payWith checkout)
  else payWith checkout

/-- The button asks for the balance first when the wallet is to pay. -/
def getUserWalletBalance : Operation :=
  .write true (request (ifCompleted (.write false .finished)
    (.helperWrite false (.write false .finished))))

/-- `checkAirtelPaymentStatus` and what follows it in the dialog.  A payment that went
through is handed over and the flag is reset, whatever `savePay` has written. -/
def checkAirtelPaymentStatus : ℕ → Operation
  | 0 => .write false .finished
  | calls + 1 =>
      .await fun status =>
        match status with
        | .completed => .spawn savePay (.write false .finished)
        | .pending => checkAirtelPaymentStatus calls
        | .declined => .write false (.write false .finished)
        | _ => .finished

/-- `_handleClick` of the dialog, which nobody awaits; `calls` is `maxApiCallCount`. -/
def airtelHandleClick (calls : ℕ) : Operation :=
  .write true (.await (ifCompleted
    (.await fun paid =>
      match paid with
      | .pending => checkAirtelPaymentStatus calls
      | .completed | .declined => .write false .finished
      | _ => .finished)
    .finished))

def phonePePayClick : Operation :=
  .await (ifCompleted (.spawn savePay .finished) .finished)

/-- `getSingleTrans` of the web view, which nobody awaits. -/
def getSingleTrans : Operation :=
  .write true (.await (ifCompleted (.write false .finished) .finished))

/-- `getBookingDetail` resets the flag whether or not its caller has raised it. -/
def getBookingDetail (loaded failed : Operation) : Operation :=
  request (ifCompleted (.helperWrite false loaded) (.helperWrite false failed))

def saveBookingInternal (saved failed : Operation) : Operation :=
  request (ifCompleted (getBookingDetail saved failed) failed)

def saveBooking (saved failed : Operation) : Operation :=
  timeLimited failed (saveBookingInternal saved failed) (saveBookingInternal .finished .finished)

/-- After the reset the payment screen is awaited. -/
def bookServices : Operation :=
  .write true (saveBooking (.write false (.await fun _ => .finished)) (.write false .finished))

/-- `saveHoldClick` and the other dialogs: one request between the two writes. -/
def saveHoldClick : Operation :=
  .write true (request fun _ => .write false .finished)

/-! ### Which operations reset the flag -/

def Checkout.resetsFlag (checkout : Checkout) : Bool :=
  match checkout.paymentMethod with
  | .cod | .stripe | .razor | .sadadPayment | .airtel | .payStack | .midtrans
  | .fromWallet => true
  | .cinetPay =>
      supportedCurrencies.contains checkout.currencyCode &&
        decide (100 ≤ checkout.totalAmount) && decide (checkout.totalAmount ≤ 1500000)
  | .payPal => decide (checkout.credentials = .present)
  | .phonePe => decide (checkout.credentials = .absent)
  | .flutterWave | .pix | .bank | .other _ => false

/-- No token is renewed for a request inside an open bracket. -/
def Unrenewed (opened : Bool) (answer : Answer) : Prop :=
  opened = true → ∀ depth, answer ≠ .renewed depth

theorem unrenewed_failed : Unrenewed true .failed := nofun

theorem unrenewed_completed : Unrenewed true .completed := nofun

theorem not_steady_finished : ¬ Steady Unrenewed true .finished := by
  intro steady
  have down : true = false := steady.clean
  cases down

theorem reset_steady (opened : Bool) : Steady Unrenewed opened (.write false .finished) :=
  .ends rfl rfl

theorem finished_steady : Steady Unrenewed false (.finished : Operation) :=
  .ends rfl rfl

theorem ifCompleted_steady {done otherwise : Operation} {opened : Bool}
    (first : Steady Unrenewed opened done) (second : Steady Unrenewed opened otherwise)
    (answer : Answer) : Steady Unrenewed opened (ifCompleted done otherwise answer) := by
  cases answer with
  | completed => exact first
  | declined => exact second
  | failed => exact second
  | pending => exact second
  | timedOut => exact second
  | renewed depth => exact second
  | refused => exact second

section Requests

variable {resume orphan : Answer → Operation} {opened : Bool}

/-- Inside an open bracket a renewal takes the flag down while the request goes on. -/
theorem resent_not_clean (resume : Answer → Operation) (depth : ℕ) :
    ¬ Clean true (resent resume depth) := by
  intro clean
  cases depth with
  | zero =>
      have down : false = true := clean
      cases down
  | succ depth =>
      have down : false = true := clean
      cases down

theorem resent_steady (later : ∀ answer, Steady Unrenewed false (resume answer))
    (depth : ℕ) : Steady Unrenewed false (resent resume depth) := by
  induction depth with
  | zero => exact .helperWrite (.await fun answer _ => later answer)
  | succ depth ih =>
      refine .helperWrite (.await fun signedIn _ => ?_)
      cases signedIn with
      | completed => exact ih
      | refused => exact .helperWrite (later .failed)
      | declined => exact later .failed
      | failed => exact later .failed
      | pending => exact later .failed
      | timedOut => exact later .failed
      | renewed _ => exact later .failed

theorem request_steady (later : ∀ answer, Steady Unrenewed opened (resume answer))
    (refused : Steady Unrenewed opened (.helperWrite false (resume .failed))) :
    Steady Unrenewed opened (request resume) := by
  refine .await fun answer isAllowed => ?_
  cases answer with
  | renewed depth =>
      cases opened with
      | false => exact resent_steady later depth
      | true => exact absurd rfl (isAllowed rfl depth)
  | refused => exact refused
  | completed => exact later .completed
  | declined => exact later .declined
  | failed => exact later .failed
  | pending => exact later .pending
  | timedOut => exact later .timedOut

/-- After a timeout the caller resets the flag, and the request goes on with no bracket. -/
theorem timeLimited_request_steady
    (orphaned : ∀ answer, Steady Unrenewed false (orphan answer))
    (later : ∀ answer, Steady Unrenewed true
      (timeLimited (.write false .finished) (resume answer) (orphan answer)))
    (refused : Steady Unrenewed true (.helperWrite false
      (timeLimited (.write false .finished) (resume .failed) (orphan .failed)))) :
    Steady Unrenewed true
      (timeLimited (.write false .finished) (request resume) (request orphan)) := by
  have alone := request_steady orphaned (.helperWrite (orphaned .failed))
  rw [request, request, timeLimited]
  refine .await fun answer isAllowed => ?_
  cases answer with
  | timedOut =>
      exact .waits rfl rfl fun _ isAllowed => alone.later (List.mem_singleton_self _) isAllowed
  | renewed depth => exact absurd rfl (isAllowed rfl depth)
  | refused => exact refused
  | completed => exact later .completed
  | declined => exact later .declined
  | failed => exact later .failed
  | pending => exact later .pending

end Requests

theorem savePay_steady : Steady Unrenewed false savePay :=
  (steady_write_iff true).mpr (request_steady (fun _ => reset_steady true) (.ends rfl rfl))

theorem saveHoldClick_steady : Steady Unrenewed false saveHoldClick :=
  (steady_write_iff true).mpr (request_steady (fun _ => reset_steady true) (.ends rfl rfl))

theorem getUserWalletBalance_steady : Steady Unrenewed false getUserWalletBalance :=
  (steady_write_iff true).mpr
    (request_steady (ifCompleted_steady (reset_steady true) (.ends rfl rfl)) (.ends rfl rfl))

theorem getBookingDetail_steady :
    Steady Unrenewed false (getBookingDetail .finished .finished) :=
  request_steady (ifCompleted_steady (.ends rfl rfl) (.ends rfl rfl)) (.ends rfl rfl)

theorem timeLimited_ifCompleted (expired done otherwise lateDone lateOtherwise : Operation)
    (answer : Answer) :
    timeLimited expired (ifCompleted done otherwise answer)
        (ifCompleted lateDone lateOtherwise answer) =
      ifCompleted (timeLimited expired done lateDone)
        (timeLimited expired otherwise lateOtherwise) answer := by
  cases answer <;> rfl

theorem bookServices_steady : Steady Unrenewed false bookServices := by
  have loaded : Steady Unrenewed true
      (.helperWrite false (.write false (.await fun _ => .finished))) :=
    .waits rfl rfl fun _ _ => finished_steady
  have detail : Steady Unrenewed true
      (timeLimited (.write false .finished)
        (getBookingDetail (.write false (.await fun _ => .finished)) (.write false .finished))
        (getBookingDetail .finished .finished)) := by
    refine timeLimited_request_steady
      (ifCompleted_steady (.ends rfl rfl) (.ends rfl rfl)) ?_ (.ends rfl rfl)
    intro answer
    rw [timeLimited_ifCompleted]
    exact ifCompleted_steady loaded (.ends rfl rfl) answer
  refine (steady_write_iff true).mpr (timeLimited_request_steady
    (ifCompleted_steady getBookingDetail_steady finished_steady) ?_ (.ends rfl rfl))
  intro answer
  rw [timeLimited_ifCompleted]
  exact ifCompleted_steady detail (reset_steady true) answer

/-! ### The gateways -/

theorem spawn_savePay_steady {rest : Operation} {opened : Bool} (silent : rest.lastWrite = none)
    (later : ∀ process ∈ rest.left opened, ∀ answer, Unrenewed process.opened answer →
      Steady Unrenewed process.opened (process.resume answer)) :
    Steady Unrenewed opened (.spawn savePay rest) := by
  refine .intro ?_ ?_
  · unfold Clean
    change (rest.lastWrite.or (some true)).getD opened = true
    rw [silent]
    rfl
  · intro process waits answer isAllowed
    rcases List.mem_append.mp waits with paying | own
    · exact savePay_steady.later paying isAllowed
    · exact later process own answer isAllowed

theorem savePay_alone_steady (opened : Bool) :
    Steady Unrenewed opened (.spawn savePay .finished) :=
  spawn_savePay_steady rfl (fun _ waits => absurd waits List.not_mem_nil)

theorem stripeFailed_steady (opened : Bool) : Steady Unrenewed opened stripeFailed :=
  .ends rfl rfl

theorem presentPaymentSheet_steady : Steady Unrenewed false presentPaymentSheet :=
  .await fun answer _ =>
    ifCompleted_steady (savePay_alone_steady false) (stripeFailed_steady false) answer

theorem stripePay_steady (checkout : Checkout) :
    Steady Unrenewed false (stripePay checkout) := by
  unfold stripePay
  cases checkout.credentials with
  | absent => exact reset_steady false
  | empty => exact reset_steady false
  | present =>
      refine .await fun applied _ => ifCompleted_steady ?_ (reset_steady false) applied
      refine (steady_write_iff true).mpr (.await fun sent _ => ?_)
      cases sent with
      | completed => exact (steady_write_iff false).mpr presentPaymentSheet_steady
      | declined => exact (steady_write_iff false).mpr (stripeFailed_steady false)
      | failed => exact stripeFailed_steady true
      | pending => exact stripeFailed_steady true
      | timedOut => exact stripeFailed_steady true
      | renewed _ => exact stripeFailed_steady true
      | refused => exact stripeFailed_steady true

theorem razorPayCheckout_steady (checkout : Checkout) :
    Steady Unrenewed true (razorPayCheckout checkout) := by
  refine (steady_write_iff true).mpr ?_
  cases checkout.credentials with
  | absent => exact reset_steady true
  | empty => exact reset_steady true
  | present =>
      exact .await fun answer _ => ifCompleted_steady
        ((steady_write_iff false).mpr (savePay_alone_steady false)) (reset_steady true) answer

/-- A charge that throws leaves the flag up. -/
theorem flutterWaveCheckout_not_steady (checkout : Checkout) :
    ¬ Steady Unrenewed true (flutterWaveCheckout checkout) := by
  intro steady
  unfold flutterWaveCheckout at steady
  cases credentials : checkout.credentials with
  | absent =>
      rw [credentials] at steady
      exact not_steady_finished steady
  | empty =>
      rw [credentials] at steady
      exact not_steady_finished (steady.later (List.mem_singleton_self _) unrenewed_failed)
  | present =>
      rw [credentials] at steady
      exact not_steady_finished (steady.later (List.mem_singleton_self _) unrenewed_failed)

theorem page_lastWrite (report : Answer → Operation → Operation) (closed : Operation)
    (reports : ℕ) : (page report closed reports).lastWrite = none := by
  cases reports with
  | zero => rfl
  | succ reports => rfl

theorem page_steady {report : Answer → Operation → Operation} {closed : Operation}
    (closes : ∀ opened, Steady Unrenewed opened closed)
    (reporting : ∀ answer rest opened, rest.lastWrite = none →
      (∀ before, Steady Unrenewed before rest) → Steady Unrenewed opened (report answer rest))
    (reports : ℕ) (opened : Bool) : Steady Unrenewed opened (page report closed reports) := by
  induction reports generalizing opened with
  | zero => exact .await fun _ _ => closes opened
  | succ reports ih =>
      exact .await fun answer _ =>
        reporting answer _ opened (page_lastWrite report closed reports) ih

theorem payWithCinetPay_steady (checkout : Checkout) :
    Steady Unrenewed true (payWithCinetPay checkout) := by
  refine page_steady reset_steady ?_ checkout.reports true
  intro answer rest opened _ steady
  have reset : Steady Unrenewed opened (.write false rest) :=
    (steady_write_iff false).mpr (steady false)
  cases answer with
  | declined => exact steady opened
  | completed => exact reset
  | failed => exact reset
  | pending => exact reset
  | timedOut => exact reset
  | renewed _ => exact reset
  | refused => exact reset

theorem cinetPay_steady_iff (checkout : Checkout) :
    Steady Unrenewed true (cinetPay checkout) ↔
      (supportedCurrencies.contains checkout.currencyCode = true ∧
        100 ≤ checkout.totalAmount) ∧ checkout.totalAmount ≤ 1500000 := by
  unfold cinetPay
  cases supported : supportedCurrencies.contains checkout.currencyCode with
  | false => exact iff_of_false not_steady_finished (fun all => Bool.false_ne_true all.1.1)
  | true =>
      rw [if_neg (by decide)]
      by_cases small : checkout.totalAmount < 100
      · rw [if_pos small]
        exact iff_of_false not_steady_finished (fun all => absurd all.1.2 (not_le.mpr small))
      · rw [if_neg small]
        by_cases large : checkout.totalAmount > 1500000
        · rw [if_pos large]
          exact iff_of_false not_steady_finished (fun all => absurd all.2 (not_le.mpr large))
        · rw [if_neg large]
          exact iff_of_true (payWithCinetPay_steady checkout)
            ⟨⟨rfl, not_lt.mp small⟩, not_lt.mp large⟩

theorem createInvoice_steady : Steady Unrenewed true createInvoice := by
  have shown : Steady Unrenewed false
      (.await (ifCompleted (.write false .finished) .finished)) :=
    .await fun answer _ => ifCompleted_steady (reset_steady false) finished_steady answer
  exact .await fun answer _ =>
    ifCompleted_steady ((steady_write_iff false).mpr shown) (reset_steady true) answer

theorem payWithSadad_steady (checkout : Checkout) :
    Steady Unrenewed true (payWithSadad checkout) := by
  unfold payWithSadad
  cases checkout.credentials with
  | absent => exact reset_steady true
  | empty => exact reset_steady true
  | present =>
      exact (steady_write_iff true).mpr (.await fun answer _ =>
        ifCompleted_steady createInvoice_steady (reset_steady true) answer)

theorem payPalPage_steady (reports : ℕ) :
    Steady Unrenewed true (page payPalReport (.write false .finished) reports) := by
  refine page_steady reset_steady ?_ reports true
  intro answer rest opened silent steady
  have reset : Steady Unrenewed opened (.write false rest) :=
    (steady_write_iff false).mpr (steady false)
  have paid : Steady Unrenewed false (.spawn savePay rest) :=
    spawn_savePay_steady silent (fun _ waits _ isAllowed => (steady false).later waits isAllowed)
  cases answer with
  | completed => exact (steady_write_iff false).mpr paid
  | declined => exact reset
  | failed => exact reset
  | pending => exact reset
  | timedOut => exact reset
  | renewed _ => exact reset
  | refused => exact reset

theorem paypalCheckOut_steady_iff (checkout : Checkout) :
    Steady Unrenewed true (paypalCheckOut checkout) ↔ checkout.credentials = .present := by
  unfold paypalCheckOut
  rw [steady_write_iff]
  cases checkout.credentials with
  | absent => exact iff_of_false not_steady_finished nofun
  | empty => exact iff_of_false not_steady_finished nofun
  | present => exact iff_of_true (payPalPage_steady checkout.reports) rfl

theorem payStack_steady : Steady Unrenewed true payStack :=
  .waits rfl rfl fun _ _ => .ends rfl rfl

theorem midtrans_steady : Steady Unrenewed true midtrans :=
  .waits rfl rfl fun _ _ => .ends rfl rfl

theorem phonePe_steady_iff (checkout : Checkout) :
    Steady Unrenewed true (phonePe checkout) ↔ checkout.credentials = .absent := by
  have left_up : ¬ Steady Unrenewed true (.await fun _ => .finished) := fun steady =>
    not_steady_finished (steady.later (List.mem_singleton_self _) unrenewed_completed)
  unfold phonePe
  cases checkout.credentials with
  | absent => exact iff_of_true (reset_steady true) rfl
  | empty => exact iff_of_false left_up nofun
  | present => exact iff_of_false left_up nofun

theorem handleClick_steady_iff (checkout : Checkout) :
    Steady Unrenewed false (handleClick checkout) ↔ checkout.resetsFlag = true := by
  have loading {operation : Operation} :
      Steady Unrenewed false (.write true operation) ↔ Steady Unrenewed true operation :=
    steady_write_iff true
  have never : ¬ Steady Unrenewed false (.write true .finished) := fun steady =>
    not_steady_finished (loading.mp steady)
  obtain ⟨paymentMethod, totalAmount, currencyCode, credentials, reports⟩ := checkout
  cases paymentMethod with
  | cod => exact iff_of_true (loading.mpr (savePay_alone_steady true)) rfl
  | fromWallet => exact iff_of_true (loading.mpr (savePay_alone_steady true)) rfl
  | stripe => exact iff_of_true (stripePay_steady _) rfl
  | razor => exact iff_of_true (loading.mpr (razorPayCheckout_steady _)) rfl
  | flutterWave =>
      exact iff_of_false (fun steady => flutterWaveCheckout_not_steady _ (loading.mp steady))
        Bool.false_ne_true
  | cinetPay =>
      unfold Checkout.resetsFlag
      dsimp only
      rw [Bool.and_eq_true, Bool.and_eq_true, decide_eq_true_eq, decide_eq_true_eq]
      exact loading.trans (cinetPay_steady_iff _)
  | sadadPayment => exact iff_of_true (loading.mpr (payWithSadad_steady _)) rfl
  | payPal =>
      unfold Checkout.resetsFlag
      dsimp only
      rw [decide_eq_true_eq]
      exact loading.trans (paypalCheckOut_steady_iff _)
  | payStack => exact iff_of_true (loading.mpr payStack_steady) rfl
  | airtel =>
      have closed : Steady Unrenewed true airtelMoney := .await fun _ _ => reset_steady true
      exact iff_of_true (loading.mpr closed) rfl
  | phonePe =>
      unfold Checkout.resetsFlag
      dsimp only
      rw [decide_eq_true_eq]
      exact loading.trans (phonePe_steady_iff _)
  | pix => exact iff_of_false never Bool.false_ne_true
  | midtrans => exact iff_of_true (loading.mpr midtrans_steady) rfl
  | bank => exact iff_of_false never Bool.false_ne_true
  | other text => exact iff_of_false never Bool.false_ne_true

/-- A payment that cannot be authorized leaves the flag up. -/
theorem airtelHandleClick_not_steady (calls : ℕ) :
    ¬ Steady Unrenewed false (airtelHandleClick calls) := by
  intro steady
  have opened := (steady_write_iff true).mp steady
  exact not_steady_finished
    (opened.later (List.mem_singleton_self _) unrenewed_failed)

theorem getSingleTrans_not_steady : ¬ Steady Unrenewed false getSingleTrans := by
  intro steady
  have opened := (steady_write_iff true).mp steady
  exact not_steady_finished
    (opened.later (List.mem_singleton_self _) unrenewed_failed)

theorem phonePePayClick_steady : Steady Unrenewed false phonePePayClick :=
  .await fun answer _ => ifCompleted_steady (savePay_alone_steady false) finished_steady answer

/-- From the start of the app, the flag follows the brackets exactly while every stretch
keeps it on them.  For operations that reset the flag on each of their paths, in a run in
which no token is renewed inside an open bracket, this is that no reset of one falls into
the bracket of another.  `_handleClick` is such an operation where every path of the
gateway resets the flag; the buttons of Airtel's dialog and of Sadad's page are none. -/
theorem loadingFlag_iff (events : List (Event Answer)) :
    (machine.Every (fun before event => Brackets (machine.next before event)) {} events ↔
      machine.Every KeepsBrackets {} events) ∧
    (machine.Every (Behaves Unrenewed) {} events →
      (machine.Every (fun before event => Brackets (machine.next before event)) {} events ↔
        machine.Every ResetsAlone {} events)) ∧
    (∀ resume depth, ¬ Clean true (resent resume depth)) ∧
    (∀ checkout, Steady Unrenewed false (handleClick checkout) ↔ checkout.resetsFlag = true) ∧
    (Steady Unrenewed false savePay ∧ Steady Unrenewed false bookServices ∧
      Steady Unrenewed false saveHoldClick ∧ Steady Unrenewed false getUserWalletBalance ∧
      Steady Unrenewed false (getBookingDetail .finished .finished) ∧
      Steady Unrenewed false phonePePayClick) ∧
    (∀ calls, ¬ Steady Unrenewed false (airtelHandleClick calls)) ∧
    ¬ Steady Unrenewed false getSingleTrans := by
  have start : Brackets ({} : State Answer) := rfl
  have all := every_brackets_iff start events
  refine ⟨all, ?_, resent_not_clean, handleClick_steady_iff, ?_, airtelHandleClick_not_steady,
    getSingleTrans_not_steady⟩
  · intro behaves
    exact all.trans
      (every_keepsBrackets_iff (fun _ waits => absurd waits List.not_mem_nil) behaves)
  · exact ⟨savePay_steady, bookServices_steady, saveHoldClick_steady,
      getUserWalletBalance_steady, getBookingDetail_steady, phonePePayClick_steady⟩

/-- A hold request, a booking, and its payment in cash from the screen that stays open. -/
theorem loadingFlag_iff_example :
    machine.Every (fun before event => Brackets (machine.next before event)) {}
      [.start saveHoldClick, .resume 0 .completed, .start bookServices,
        .resume 0 .completed, .resume 0 .completed,
        .start (handleClick
          { paymentMethod := .cod, totalAmount := 500, currencyCode := "NOK",
            credentials := .absent, reports := 0 }),
        .resume 1 .completed, .resume 0 .completed] := by
  refine ((loadingFlag_iff _).2.1 ?_).mpr ?_
  · refine ⟨saveHoldClick_steady, ?_, bookServices_steady, ?_, ?_,
      (handleClick_steady_iff _).mpr rfl, ?_, ?_, trivial⟩
    all_goals exact fun _ _ _ => nofun
  · refine ⟨fun _ => rfl, ?_, fun _ => rfl, ?_, ?_, nofun, ?_, ?_, trivial⟩
    all_goals
      intro _ _ _
      rfl

/-- CinetPay in Norwegian kroner: the screen only shows a toast and goes on loading. -/
theorem cinetPay_leaves_flag :
    ¬ ∀ events : List (Event Answer),
      machine.Every (fun before event => Brackets (machine.next before event)) {} events := by
  intro always
  have up := (always [.start (handleClick
    { paymentMethod := .cinetPay, totalAmount := 500, currencyCode := "NOK",
      credentials := .present, reports := 0 })]).1
  revert up
  change ¬ (true = false)
  decide

end FiksOpp.LoadingFlag
