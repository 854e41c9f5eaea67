/-
Closed vocabularies of the client: payment methods, payment statuses, booking
statuses, service, tax and coupon kinds.

The server sends these as free text.  A text that no constant names is kept in
`other`, so every comparison the screens make has the source's answer.
-/

import Mathlib.Data.Rat.Defs

namespace FiksOpp

inductive PaymentMethod where
  | cod
  | fromWallet
  | stripe
  | razor
  | flutterWave
  | cinetPay
  | sadadPayment
  | payPal
  | payStack
  | airtel
  | phonePe
  | pix
  | midtrans
  | bank
  | other (text : String)
  deriving DecidableEq, Repr

inductive ServicePaymentStatus where
  | paid
  | pendingByAdmin
  | advancePaid
  | pending
  | advanceRefund
  | other (text : String)
  deriving DecidableEq, Repr

inductive BookingStatus where
  | pending
  | accept
  | onGoing
  | inProgress
  | hold
  | rejected
  | failed
  | complete
  | cancelled
  | pendingApproval
  | waitingAdvancedPayment
  | other (text : String)
  deriving DecidableEq, Repr

inductive ServiceType where
  | fixed
  | percent
  | hourly
  | free
  | other (text : String)
  deriving DecidableEq, Repr

inductive TaxType where
  | fixed
  | percent
  | other (text : String)
  deriving DecidableEq, Repr

inductive CouponType where
  | fixed
  | percent
  | other (text : String)
  deriving DecidableEq, Repr

inductive BookingType where
  | userPostJob
  | service
  deriving DecidableEq, Repr

inductive PrefValue where
  | flag (value : Bool)
  | text (value : String)
  | int (value : ℤ)
  | num (value : ℚ)
  deriving DecidableEq, Repr

/-- `validate()` of the widget toolkit: a missing number counts as zero. -/
def validate {α : Type*} [OfNat α 0] (value : Option α) : α :=
  value.getD 0

def validateText (text : Option String) : String :=
  text.getD ""

def validateList {α : Type*} (items : Option (List α)) : List α :=
  items.getD []

def isWhitespace (c : Char) : Bool :=
  (9 ≤ c.toNat && c.toNat ≤ 13) || (0x2000 ≤ c.toNat && c.toNat ≤ 0x200A) ||
    [0x20, 0x85, 0xA0, 0x1680, 0x2028, 0x2029, 0x202F, 0x205F, 0x3000, 0xFEFF].contains c.toNat

def trim (text : String) : String :=
  let front := text.toList.dropWhile isWhitespace
  String.ofList (front.reverse.dropWhile isWhitespace).reverse

@[simp] theorem validate_none {α : Type*} [OfNat α 0] : validate (none : Option α) = 0 := rfl

@[simp] theorem validate_some {α : Type*} [OfNat α 0] (value : α) :
    validate (some value) = value := rfl

end FiksOpp
