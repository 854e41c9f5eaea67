/-
Phone numbers of the sign-in and sign-up screens.

The country picker's example says how many digits the national number has; the screens
count the digits that were typed, and the number for Firebase is built from them.
-/

import FiksOpp.Constants
import Mathlib.Data.List.Basic

namespace FiksOpp.PhoneAuth

structure Country where
  phoneCode : String
  /-- The picker's `example`. -/
  exampleNumber : String
  fullExampleWithPlusSign : Option String := none
  deriving DecidableEq, Repr

/-- `replaceAll(RegExp(r'[^0-9]'), '')`, as is `\D`. -/
def digitsOnly (text : String) : List Char :=
  text.toList.filter Char.isDigit

/-- `startsWith('0')` with something after it. -/
def stripTrunkZero : List Char → List Char
  | '0' :: digit :: rest => digit :: rest
  | digits => digits

/-- The full example without the calling code it starts with. -/
def fullExampleDigits (country : Country) : Option (List Char) :=
  let cc := digitsOnly country.phoneCode
  match country.fullExampleWithPlusSign with
  | none => none
  | some full =>
      let all := digitsOnly full
      if cc ≠ [] ∧ cc.isPrefixOf all ∧ cc.length < all.length then some (all.drop cc.length)
      else none

def phoneAuthNationalDigitsSample (country : Country) : Option (List Char) :=
  match fullExampleDigits country with
  | some sample => some sample
  | none =>
      let ex := digitsOnly country.exampleNumber
      if ex = [] then none else some ex

def clamp (lower upper value : ℕ) : ℕ :=
  max lower (min upper value)

def phoneAuthFallbackLocalDigitLength (country : Country) : ℕ :=
  let cc := digitsOnly country.phoneCode
  if cc = [] then 15 else clamp 6 15 (15 - cc.length)

def phoneAuthExpectedLocalDigitLength (country : Country) : ℕ :=
  match phoneAuthNationalDigitsSample country with
  | none => phoneAuthFallbackLocalDigitLength country
  | some sample =>
      let n := (stripTrunkZero sample).length
      if n < 6 then phoneAuthFallbackLocalDigitLength country else clamp 6 15 n

def firebasePhoneAuthE164 (countryCallingCodeDigits localNumberRaw : String) : String :=
  let cc := digitsOnly countryCallingCodeDigits
  let national := stripTrunkZero (digitsOnly localNumberRaw)
  "+" ++ String.ofList cc ++ String.ofList national

inductive SendScreen where
  | signUp
  | otpLogin
  deriving DecidableEq, Repr

def SendScreen.accepts (screen : SendScreen) (country : Country) (text : String) : Bool :=
  match screen with
  | .signUp =>
      let mobile := trim text
      mobile ≠ "" &&
        (digitsOnly mobile).length = phoneAuthExpectedLocalDigitLength country
  | .otpLogin => (digitsOnly text).length = phoneAuthExpectedLocalDigitLength country

/-- The number that goes to `verifyPhoneNumber`; both screens trim the text. -/
def phoneNumber (country : Country) (text : String) : String :=
  firebasePhoneAuthE164 country.phoneCode (trim text)

/-! ### What is to be dialled -/

/-- '+', the calling code and the expected count of national digits, fifteen in all. -/
def WellFormed (country : Country) (number : String) : Prop :=
  ∃ national : List Char,
    number = "+" ++ String.ofList (digitsOnly country.phoneCode) ++ String.ofList national ∧
      national.all Char.isDigit = true ∧
      national.length = phoneAuthExpectedLocalDigitLength country ∧
      (digitsOnly country.phoneCode).length + national.length ≤ 15

/-- The digits of the picker's example, without a trunk zero. -/
def exampleLength (country : Country) : ℕ :=
  (stripTrunkZero ((phoneAuthNationalDigitsSample country).getD [])).length

/-- The calling code leaves room: for the example, or where that has less than six digits,
for six. -/
def LeavesRoom (country : Country) : Prop :=
  (digitsOnly country.phoneCode).length +
    (if exampleLength country < 6 then 6 else min (exampleLength country) 15) ≤ 15

def BeginsWithZero (text : String) : Prop :=
  (digitsOnly text).head? = some '0'

theorem isDigit_eq_false_of_isWhitespace {char : Char} (space : isWhitespace char = true) :
    char.isDigit = false := by
  rw [← Bool.not_eq_true]
  intro digit
  have bounds : 48 ≤ char.toNat ∧ char.toNat ≤ 57 := by
    unfold Char.isDigit at digit
    rw [Bool.and_eq_true, decide_eq_true_eq, decide_eq_true_eq] at digit
    exact digit
  unfold isWhitespace at space
  simp at space
  omega

private theorem filter_dropWhile {α : Type*} {kept dropped : α → Bool}
    (apart : ∀ item, dropped item = true → kept item = false) (items : List α) :
    (items.dropWhile dropped).filter kept = items.filter kept := by
  induction items with
  | nil => rfl
  | cons item rest ih =>
      cases drops : dropped item with
      | true =>
          rw [List.dropWhile_cons_of_pos drops, ih,
            List.filter_cons_of_neg (by rw [apart item drops]; decide)]
      | false => rw [List.dropWhile_cons_of_neg (by rw [drops]; decide)]

theorem digitsOnly_trim (text : String) : digitsOnly (trim text) = digitsOnly text := by
  have apart := fun char => @isDigit_eq_false_of_isWhitespace char
  unfold digitsOnly trim
  rw [String.toList_ofList, List.filter_reverse, filter_dropWhile apart, List.filter_reverse,
    List.reverse_reverse, filter_dropWhile apart]

theorem firebasePhoneAuthE164_congr {text text' : String}
    (same : digitsOnly text = digitsOnly text') (countryCallingCodeDigits : String) :
    firebasePhoneAuthE164 countryCallingCodeDigits text =
      firebasePhoneAuthE164 countryCallingCodeDigits text' := by
  unfold firebasePhoneAuthE164
  rw [same]

theorem stripTrunkZero_of_ne {digits : List Char} (other : digits.head? ≠ some '0') :
    stripTrunkZero digits = digits := by
  unfold stripTrunkZero
  split
  · exact absurd rfl other
  · rfl

theorem stripTrunkZero_cons {digits : List Char} (some_ : digits ≠ []) :
    stripTrunkZero ('0' :: digits) = digits := by
  cases digits with
  | nil => exact absurd rfl some_
  | cons digit rest => rfl

theorem length_stripTrunkZero_iff {digits : List Char} (long : 2 ≤ digits.length) :
    (stripTrunkZero digits).length = digits.length ↔ digits.head? ≠ some '0' := by
  constructor
  · intro same zero
    cases digits with
    | nil => cases zero
    | cons first rest =>
        cases zero
        have more : rest ≠ [] := by
          intro none_
          subst none_
          exact absurd long (by decide)
        rw [stripTrunkZero_cons more, List.length_cons] at same
        omega
  · intro other
    rw [stripTrunkZero_of_ne other]

theorem stripTrunkZero_trunk_iff (digits : List Char) :
    stripTrunkZero ('0' :: digits) = stripTrunkZero digits ↔
      digits = ['0'] ∨ (digits ≠ [] ∧ digits.head? ≠ some '0') := by
  cases digits with
  | nil => exact iff_of_false (by decide) (by simp)
  | cons first rest =>
      rw [stripTrunkZero_cons (List.cons_ne_nil first rest)]
      by_cases zero : first = '0'
      · subst zero
        cases rest with
        | nil => exact iff_of_true rfl (Or.inl rfl)
        | cons second rest =>
            rw [stripTrunkZero_cons (List.cons_ne_nil second rest)]
            apply iff_of_false
            · intro same
              have lengths := congrArg List.length same
              rw [List.length_cons] at lengths
              omega
            · simp
      · have other : (first :: rest).head? ≠ some '0' := by
          rw [List.head?_cons]
          exact fun same => zero (Option.some.inj same)
        rw [stripTrunkZero_of_ne other]
        exact iff_of_true rfl (Or.inr ⟨List.cons_ne_nil _ _, other⟩)

private theorem number_inj {cc left right : List Char}
    (same : "+" ++ String.ofList cc ++ String.ofList left =
      "+" ++ String.ofList cc ++ String.ofList right) : left = right := by
  have lists := congrArg String.toList same
  simp only [String.toList_append, String.toList_ofList] at lists
  exact List.append_cancel_left lists

theorem firebasePhoneAuthE164_eq_iff (cc text text' : String) :
    firebasePhoneAuthE164 cc text = firebasePhoneAuthE164 cc text' ↔
      stripTrunkZero (digitsOnly text) = stripTrunkZero (digitsOnly text') := by
  unfold firebasePhoneAuthE164
  constructor
  · exact number_inj
  · intro same
    rw [same]

theorem expectedLength_eq (country : Country) :
    phoneAuthExpectedLocalDigitLength country =
      if exampleLength country < 6 then phoneAuthFallbackLocalDigitLength country
      else clamp 6 15 (exampleLength country) := by
  unfold phoneAuthExpectedLocalDigitLength exampleLength
  cases phoneAuthNationalDigitsSample country with
  | none => rfl
  | some sample => rfl

theorem six_le_clamp (value : ℕ) : 6 ≤ clamp 6 15 value :=
  Nat.le_max_left 6 _

theorem six_le_expectedLength (country : Country) :
    6 ≤ phoneAuthExpectedLocalDigitLength country := by
  rw [expectedLength_eq]
  unfold phoneAuthFallbackLocalDigitLength
  by_cases short : exampleLength country < 6
  · rw [if_pos short]
    by_cases bare : digitsOnly country.phoneCode = []
    · rw [if_pos bare]
      decide
    · rw [if_neg bare]
      exact six_le_clamp _
  · rw [if_neg short]
    exact six_le_clamp _

theorem leavesRoom_iff (country : Country) :
    (digitsOnly country.phoneCode).length + phoneAuthExpectedLocalDigitLength country ≤ 15 ↔
      LeavesRoom country := by
  rw [expectedLength_eq]
  unfold LeavesRoom phoneAuthFallbackLocalDigitLength clamp
  by_cases short : exampleLength country < 6
  · rw [if_pos short, if_pos short]
    by_cases bare : digitsOnly country.phoneCode = []
    · rw [if_pos bare, bare, List.length_nil]
      decide
    · rw [if_neg bare]
      omega
  · rw [if_neg short, if_neg short]
    omega

theorem length_of_accepts {screen : SendScreen} {country : Country} {text : String}
    (accepted : screen.accepts country text = true) :
    (digitsOnly text).length = phoneAuthExpectedLocalDigitLength country := by
  cases screen with
  | signUp =>
      unfold SendScreen.accepts at accepted
      rw [Bool.and_eq_true, decide_eq_true_eq, digitsOnly_trim] at accepted
      exact of_decide_eq_true accepted.2
  | otpLogin => exact of_decide_eq_true accepted

theorem all_isDigit_stripTrunkZero {digits : List Char}
    (all : digits.all Char.isDigit = true) :
    (stripTrunkZero digits).all Char.isDigit = true := by
  unfold stripTrunkZero
  split
  · rw [List.all_cons, Bool.and_eq_true] at all
    exact all.2
  · exact all

theorem wellFormed_iff (country : Country) (text : String) :
    WellFormed country (phoneNumber country text) ↔
      (stripTrunkZero (digitsOnly text)).length = phoneAuthExpectedLocalDigitLength country ∧
        LeavesRoom country := by
  rw [← leavesRoom_iff]
  unfold WellFormed phoneNumber firebasePhoneAuthE164
  rw [digitsOnly_trim]
  constructor
  · rintro ⟨national, same, _, length, room⟩
    rw [number_inj same]
    exact ⟨length, length ▸ room⟩
  · rintro ⟨length, room⟩
    refine ⟨_, rfl, all_isDigit_stripTrunkZero ?_, length, length.symm ▸ room⟩
    rw [List.all_eq_true]
    exact fun _ digit => (List.mem_filter.mp digit).2

/-- An accepted text is dialled right exactly when it does not begin with a zero and the
calling code leaves room.  The number never depends on separators; it is the same with a
trunk zero exactly where there are digits that do not begin with one, or a lone zero. -/
theorem phoneNumbers_iff (country : Country) (text : String) :
    (∀ screen : SendScreen, screen.accepts country text = true →
      (WellFormed country (phoneNumber country text) ↔
        ¬ BeginsWithZero text ∧ LeavesRoom country)) ∧
    (∀ cc text' : String, digitsOnly text = digitsOnly text' →
      firebasePhoneAuthE164 cc text = firebasePhoneAuthE164 cc text') ∧
    (∀ cc trunk : String, digitsOnly trunk = '0' :: digitsOnly text →
      (firebasePhoneAuthE164 cc trunk = firebasePhoneAuthE164 cc text ↔
        digitsOnly text = ['0'] ∨ (digitsOnly text ≠ [] ∧ ¬ BeginsWithZero text))) := by
  refine ⟨?_, ?_, ?_⟩
  · intro screen accepted
    have length := length_of_accepts accepted
    have long := six_le_expectedLength country
    rw [wellFormed_iff, ← length, length_stripTrunkZero_iff (by omega)]
    rfl
  · intro cc text' same
    exact firebasePhoneAuthE164_congr same cc
  · intro cc trunk zero
    rw [firebasePhoneAuthE164_eq_iff, zero, stripTrunkZero_trunk_iff]
    rfl

def pakistan : Country where
  phoneCode := "92"
  exampleNumber := "3012345678"
  fullExampleWithPlusSign := some "+923012345678"

theorem phoneNumbers_iff_example :
    WellFormed pakistan (phoneNumber pakistan "317 4869556") ∧
      firebasePhoneAuthE164 "92" "0317-4869556" = firebasePhoneAuthE164 "92" "3174869556" := by
  constructor
  · refine ((phoneNumbers_iff pakistan "317 4869556").1 .signUp (by decide)).mpr ⟨?_, ?_⟩
    · unfold BeginsWithZero
      decide
    · unfold LeavesRoom
      decide
  · refine ((phoneNumbers_iff pakistan "3174869556").2.2 _ _ (by decide)).mpr
      (Or.inr ⟨by decide, ?_⟩)
    unfold BeginsWithZero
    decide

/-- Ten digits, the first of them the trunk zero: nine are dialled. -/
theorem trunk_zero_is_counted :
    ¬ ∀ (screen : SendScreen) (country : Country) (text : String),
      screen.accepts country text = true →
        WellFormed country (phoneNumber country text) := by
  intro always
  have dialled := always .signUp pakistan "0317486955" (by decide)
  have length := ((wellFormed_iff pakistan "0317486955").mp dialled).1
  exact absurd length (by decide)

end FiksOpp.PhoneAuth
