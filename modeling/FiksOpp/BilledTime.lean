/-
The time shown beside an hourly bill.

`calculateTimer` prints whole hours and minutes, and replaces a minute field of zero by one:
a job of some seconds counts as a minute, and so does the first minute after each full hour.
The text is read back the way `getMinHour` splits it.
-/

import FiksOpp.Foundations.CivilCalendar
import FiksOpp.PriceBounds

namespace FiksOpp.BilledTime

open BookingCalculations
open CivilCalendar
open DecimalRounding

/-- A number, with a zero in front of a single character. -/
def timePart (number : ℤ) : List Char :=
  let digits := (toString number).toList
  if digits.length < 2 then '0' :: digits else digits

def calculateTimer (secTime : ℤ) : List Char :=
  let hour := secTime.tdiv 3600
  let minute := (secTime - hour * 3600).tdiv 60
  let hourLeft := timePart hour
  let minuteLeft := timePart minute
  let minutes := if minuteLeft = ['0', '0'] then ['0', '1'] else minuteLeft
  hourLeft ++ ':' :: minutes

/-- The words of the language for a time below an hour and for any other. -/
inductive TimeWord where
  | min
  | hour
  deriving DecidableEq, Repr

/-- The part of a text before its first colon, `split(":").first`. -/
def firstPart (text : List Char) : List Char :=
  text.takeWhile fun char => char != ':'

def lastPart (text : List Char) : List Char :=
  (text.dropWhile fun char => char != ':').drop 1

def getMinHour (durationDiff : ℤ) : TimeWord :=
  if firstPart (calculateTimer durationDiff) = ['0', '0'] then .min else .hour

/-! ### What the text says -/

def readNumber (digits : List Char) : Option ℕ :=
  if digits ≠ [] ∧ digits.all Char.isDigit then some (Nat.ofDigitChars 10 digits 0) else none

def readTimer (text : List Char) : Option (ℕ × ℕ) :=
  (readNumber (firstPart text)).bind fun hours =>
    (readNumber (lastPart text)).map fun minutes => (hours, minutes)

/-- The text shows the whole minutes of the duration, and from one hour on those of the time
that is billed at a minute's share of the price. -/
def ShowsBilledTime (secTime : ℤ) : Prop :=
  ∃ hours minutes, readTimer (calculateTimer secTime) = some (hours, minutes) ∧
    (60 * hours + minutes : ℤ) = ⌊(secTime : ℚ) / 60⌋ ∧
    (3600 ≤ secTime → ∃ billed : ℚ, (60 * hours + minutes : ℤ) = ⌊billed⌋ ∧
      ∀ decimals price,
        hourlyCalculation decimals secTime price = toDecimals decimals (billed * (price / 60)))

theorem timePart_natCast (number : ℕ) : timePart number = paddedNumber 2 number := by
  have written : (toString (number : ℤ)).toList = Nat.toDigits 10 number := by
    change (Nat.repr number).toList = _
    exact Nat.toList_repr
  have present : 0 < (Nat.toDigits 10 number).length := Nat.length_toDigits_pos
  unfold timePart paddedNumber List.leftpad
  rw [written]
  by_cases single : (Nat.toDigits 10 number).length < 2
  · have one : (Nat.toDigits 10 number).length = 1 := by omega
    rw [if_pos single, one]
    rfl
  · have none : 2 - (Nat.toDigits 10 number).length = 0 := by omega
    rw [if_neg single, none]
    rfl

theorem paddedNumber_two_eq_zero_iff (number : ℕ) :
    paddedNumber 2 number = ['0', '0'] ↔ number = 0 := by
  constructor
  · intro equal
    have read := ofDigitChars_paddedNumber 2 number
    rw [equal] at read
    exact read.symm
  · intro zero
    rw [zero]
    rfl

def shownMinutes (minute : ℕ) : ℕ :=
  if minute = 0 then 1 else minute

theorem calculateTimer_natCast (seconds : ℕ) :
    calculateTimer seconds =
      paddedNumber 2 (seconds / 3600) ++
        ':' :: paddedNumber 2 (shownMinutes (seconds % 3600 / 60)) := by
  have hour : (seconds : ℤ).tdiv 3600 = ((seconds / 3600 : ℕ) : ℤ) := by
    rw [Int.tdiv_eq_ediv_of_nonneg (by omega)]
    omega
  have minute : ((seconds : ℤ) - ((seconds / 3600 : ℕ) : ℤ) * 3600).tdiv 60 =
      ((seconds % 3600 / 60 : ℕ) : ℤ) := by
    rw [Int.tdiv_eq_ediv_of_nonneg (by omega)]
    omega
  unfold calculateTimer shownMinutes
  simp only [hour, minute, timePart_natCast, paddedNumber_two_eq_zero_iff]
  by_cases zero : seconds % 3600 / 60 = 0
  · rw [if_pos zero, if_pos zero]
    rfl
  · rw [if_neg zero, if_neg zero]

theorem digit_ne_colon {width number : ℕ} {char : Char}
    (member : char ∈ paddedNumber width number) : (char != ':') = true := by
  have digit := isDigit_of_mem_paddedNumber member
  rw [bne_iff_ne]
  intro colon
  rw [colon] at digit
  exact absurd digit (by decide)

theorem firstPart_padded (width number : ℕ) (rest : List Char) :
    firstPart (paddedNumber width number ++ ':' :: rest) = paddedNumber width number := by
  unfold firstPart
  rw [List.takeWhile_append_of_pos fun _ member => digit_ne_colon member]
  simp

theorem lastPart_padded (width number : ℕ) (rest : List Char) :
    lastPart (paddedNumber width number ++ ':' :: rest) = rest := by
  unfold lastPart
  rw [List.dropWhile_append_of_pos fun _ member => digit_ne_colon member]
  simp

theorem readNumber_padded (width number : ℕ) (positive : 0 < width) :
    readNumber (paddedNumber width number) = some number := by
  have present : paddedNumber width number ≠ [] := by
    apply List.ne_nil_of_length_pos
    rw [length_paddedNumber]
    omega
  have digits : (paddedNumber width number).all Char.isDigit = true :=
    List.all_eq_true.mpr fun _ member => isDigit_of_mem_paddedNumber member
  unfold readNumber
  rw [if_pos ⟨present, digits⟩, ofDigitChars_paddedNumber]

theorem readTimer_natCast (seconds : ℕ) :
    readTimer (calculateTimer seconds) =
      some (seconds / 3600, shownMinutes (seconds % 3600 / 60)) := by
  rw [calculateTimer_natCast]
  unfold readTimer
  rw [firstPart_padded, lastPart_padded, readNumber_padded 2 _ (by decide),
    readNumber_padded 2 _ (by decide)]
  rfl

/-- The word beside the text is the one of the hours it shows. -/
theorem getMinHour_natCast (seconds : ℕ) :
    getMinHour seconds = if seconds < 3600 then .min else .hour := by
  unfold getMinHour
  rw [calculateTimer_natCast, firstPart_padded]
  have below : seconds / 3600 = 0 ↔ seconds < 3600 := by omega
  simp only [paddedNumber_two_eq_zero_iff, below]

theorem floor_minutes (seconds : ℕ) : ⌊((seconds : ℤ) : ℚ) / 60⌋ = ((seconds / 60 : ℕ) : ℤ) := by
  have floor := Rat.floor_intCast_div_natCast (seconds : ℤ) 60
  rw [Nat.cast_ofNat] at floor
  rw [floor]
  omega

theorem hourlyCalculation_eq (decimals : ℕ) (secTime : ℤ) (price : ℚ) :
    hourlyCalculation decimals secTime price =
      toDecimals decimals (billedMinutes secTime * (price / 60)) := rfl

theorem billedMinutes_of_hour {secTime : ℤ} (hour : 3600 ≤ secTime) :
    billedMinutes secTime = secTime / 60 := by
  unfold billedMinutes
  by_cases equal : secTime = 3600
  · rw [equal]
    norm_num
  · rw [if_neg (by omega)]

/-- The shown time is that of the duration unless less than a minute of the hour has
passed. -/
theorem calculateTimer_iff (secTime : ℤ) (minute : 60 ≤ secTime) :
    ShowsBilledTime secTime ↔ 60 ≤ secTime % 3600 := by
  obtain ⟨seconds, rfl⟩ := Int.eq_ofNat_of_zero_le (by omega : 0 ≤ secTime)
  have shown : (60 * (seconds / 3600 : ℕ) + shownMinutes (seconds % 3600 / 60) : ℤ) =
      ((seconds / 60 : ℕ) : ℤ) ↔ 60 ≤ (seconds : ℤ) % 3600 := by
    unfold shownMinutes
    split <;> omega
  rw [← shown]
  constructor
  · rintro ⟨hours, minutes, read, whole, _⟩
    rw [readTimer_natCast] at read
    cases read
    rw [floor_minutes] at whole
    exact whole
  · intro whole
    refine ⟨_, _, readTimer_natCast seconds, ?_, ?_⟩
    · rw [floor_minutes]
      exact whole
    · intro hour
      refine ⟨billedMinutes seconds, ?_, fun decimals price =>
        hourlyCalculation_eq decimals seconds price⟩
      rw [billedMinutes_of_hour hour, floor_minutes]
      exact whole

theorem calculateTimer_ninety_minutes : 60 ≤ (5400 : ℤ) ∧ ShowsBilledTime 5400 :=
  ⟨by decide, (calculateTimer_iff 5400 (by decide)).mpr (by decide)⟩

/-- Two hours of work are shown as "02:01". -/
theorem two_hours_show_a_minute_more :
    calculateTimer 7200 = "02:01".toList ∧
      ¬ ∀ secTime : ℤ, 60 ≤ secTime → ShowsBilledTime secTime := by
  constructor
  · decide
  · intro always
    obtain ⟨hours, minutes, read, whole, _⟩ := always 7200 (by decide)
    have shown := readTimer_natCast 7200
    rw [Nat.cast_ofNat] at shown
    rw [shown] at read
    cases read
    have floor := floor_minutes 7200
    rw [Nat.cast_ofNat] at floor
    rw [floor] at whole
    exact absurd whole (by decide)

end FiksOpp.BilledTime
