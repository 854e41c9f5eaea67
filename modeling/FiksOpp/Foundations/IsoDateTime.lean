/-
Dates as text: a calendar date-time, the text a `toString` gives it and the reader
of ISO texts that goes with it.  A text that is printed is read back as the same
instant, and a text that is read holds no characters but those of the grammar.
-/

import Mathlib.Data.Int.Notation
import Mathlib.Data.List.GetD
import Mathlib.Data.Nat.Notation
import Mathlib.Tactic.IntervalCases

namespace FiksOpp.IsoDateTime

def isLeapYear (year : ℤ) : Bool :=
  year % 4 == 0 && (year % 100 != 0 || year % 400 == 0)

/-- Days before the month, which is counted from 0. -/
def daysBeforeMonth (leap : Bool) (month : ℕ) : ℤ :=
  let days : ℤ := [0, 31, 59, 90, 120, 151, 181, 212, 243, 273, 304, 334].getD month 0
  if leap && decide (2 ≤ month) then days + 1 else days

/-- Days since the first of January of year 0; months beyond December and days
beyond the month carry over. -/
def dayNumber (year month day : ℤ) : ℤ :=
  let carried := year + (month - 1) / 12
  365 * carried + (carried + 3) / 4 - (carried + 99) / 100 + (carried + 399) / 400 +
    daysBeforeMonth (isLeapYear carried) ((month - 1) % 12).toNat + (day - 1)

def daysInMonth (year month : ℕ) : ℕ :=
  if month = 2 then (if isLeapYear year then 29 else 28)
  else if month = 4 ∨ month = 6 ∨ month = 9 ∨ month = 11 then 30
  else 31

structure DateTime where
  year : ℕ
  month : ℕ
  day : ℕ
  hour : ℕ := 0
  minute : ℕ := 0
  second : ℕ := 0
  microsecond : ℕ := 0
  year_le : year ≤ 9999
  month_pos : 1 ≤ month
  month_le : month ≤ 12
  day_pos : 1 ≤ day
  day_le : day ≤ daysInMonth year month
  hour_lt : hour < 24 := by decide
  minute_lt : minute < 60 := by decide
  second_lt : second < 60 := by decide
  microsecond_lt : microsecond < 1000000 := by decide

/-- The clock reading in microseconds since the beginning of year 0. -/
structure Instant where
  microseconds : ℤ
  isUtc : Bool
  deriving DecidableEq, Repr

def Instant.dayOf (instant : Instant) : ℤ :=
  instant.microseconds / 86400000000

def clock (hour minute second microsecond : ℤ) : ℤ :=
  ((hour * 60 + minute) * 60 + second) * 1000000 + microsecond

namespace DateTime

def days (date : DateTime) : ℤ :=
  dayNumber date.year date.month date.day

def instant (date : DateTime) : Instant :=
  { microseconds :=
      date.days * 86400000000 + clock date.hour date.minute date.second date.microsecond
    isUtc := false }

def ofMinute (year month day hour minute : ℕ) (year_le : year ≤ 9999) (month_pos : 1 ≤ month)
    (month_le : month ≤ 12) (day_pos : 1 ≤ day) (day_le : day ≤ daysInMonth year month)
    (hour_lt : hour < 24) (minute_lt : minute < 60) : DateTime :=
  { year := year
    month := month
    day := day
    hour := hour
    minute := minute
    year_le := year_le
    month_pos := month_pos
    month_le := month_le
    day_pos := day_pos
    day_le := day_le
    hour_lt := hour_lt
    minute_lt := minute_lt }

def midnight (date : DateTime) : DateTime :=
  { year := date.year
    month := date.month
    day := date.day
    year_le := date.year_le
    month_pos := date.month_pos
    month_le := date.month_le
    day_pos := date.day_pos
    day_le := date.day_le }

theorem day_le_31 (date : DateTime) : date.day ≤ 31 := by
  have bound := date.day_le
  unfold daysInMonth at bound
  split at bound
  · split at bound <;> omega
  · split at bound <;> omega

end DateTime

def digitChar (digit : ℕ) : Char :=
  Char.ofNat (48 + digit)

def twoDigits (number : ℕ) : List Char :=
  [digitChar (number / 10), digitChar (number % 10)]

def threeDigits (number : ℕ) : List Char :=
  [digitChar (number / 100), digitChar (number / 10 % 10), digitChar (number % 10)]

def fourDigits (number : ℕ) : List Char :=
  [digitChar (number / 1000), digitChar (number / 100 % 10), digitChar (number / 10 % 10),
    digitChar (number % 10)]

def DateTime.dayText (date : DateTime) : List Char :=
  fourDigits date.year ++ '-' :: twoDigits date.month ++ '-' :: twoDigits date.day

/-- Microseconds are printed only when there are any. -/
def fractionText (microsecond : ℕ) : List Char :=
  if microsecond % 1000 = 0 then threeDigits (microsecond / 1000)
  else threeDigits (microsecond / 1000) ++ threeDigits (microsecond % 1000)

def DateTime.toText (date : DateTime) : List Char :=
  date.dayText ++ ' ' :: twoDigits date.hour ++ ':' :: twoDigits date.minute ++
    ':' :: twoDigits date.second ++ '.' :: fractionText date.microsecond

def takeNumber : ℕ → ℕ → List Char → Option (ℕ × List Char)
  | 0, value, rest => some (value, rest)
  | _ + 1, _, [] => none
  | count + 1, value, char :: rest =>
      if char.isDigit then takeNumber count (10 * value + (char.toNat - 48)) rest else none

def skip (char : Char) : List Char → List Char
  | [] => []
  | first :: rest => if first = char then rest else first :: rest

def spanDigits : List Char → List Char × List Char
  | [] => ([], [])
  | char :: rest =>
      if char.isDigit then (char :: (spanDigits rest).1, (spanDigits rest).2)
      else ([], char :: rest)

/-- The first six digits of a fraction, filled up with zeros. -/
def sixDigits : ℕ → ℕ → List Char → ℕ
  | 0, value, _ => value
  | count + 1, value, [] => sixDigits count (10 * value) []
  | count + 1, value, char :: rest =>
      sixDigits count (10 * value + (char.toNat - 48)) rest

/-- The rest of a time: nothing, `Z`, or an offset in minutes. -/
def readZone (rest : List Char) : Option (Option ℤ) :=
  match rest with
  | [] => some none
  | _ =>
      match skip ' ' rest with
      | [] => none
      | sign :: more =>
          if sign = 'z' ∨ sign = 'Z' then (if more = [] then some (some 0) else none)
          else if sign = '+' ∨ sign = '-' then
            match takeNumber 2 0 more with
            | none => none
            | some (hours, []) => some (some (if sign = '-' then -(60 * hours) else 60 * hours))
            | some (hours, after) =>
                match takeNumber 2 0 (skip ':' after) with
                | some (minutes, []) =>
                    some (some (if sign = '-' then -(60 * hours + minutes)
                      else 60 * hours + minutes))
                | _ => none
          else none

structure Fields where
  year : ℤ
  month : ℤ
  day : ℤ
  hour : ℤ := 0
  minute : ℤ := 0
  second : ℤ := 0
  microsecond : ℤ := 0
  /-- Minutes from UTC; none for a local time. -/
  offset : Option ℤ := none
  deriving DecidableEq, Repr

def readFraction (found : Fields) (rest : List Char) : Option Fields :=
  match rest with
  | [] => some found
  | first :: more =>
      if first = '.' ∨ first = ',' then
        if (spanDigits more).1 = [] then none
        else
          (readZone (spanDigits more).2).map fun offset =>
            { found with microsecond := sixDigits 6 0 (spanDigits more).1, offset := offset }
      else (readZone (first :: more)).map fun offset => { found with offset := offset }

def readSecond (found : Fields) (rest : List Char) : Option Fields :=
  match takeNumber 2 0 (skip ':' rest) with
  | none => (readZone rest).map fun offset => { found with offset := offset }
  | some (second, after) => readFraction { found with second := second } after

def readMinute (found : Fields) (rest : List Char) : Option Fields :=
  match takeNumber 2 0 (skip ':' rest) with
  | none => (readZone rest).map fun offset => { found with offset := offset }
  | some (minute, after) => readSecond { found with minute := minute } after

def readTime (found : Fields) (rest : List Char) : Option Fields :=
  match rest with
  | [] => some found
  | separator :: more =>
      if separator = ' ' ∨ separator = 'T' then
        match takeNumber 2 0 more with
        | none => none
        | some (hour, after) => readMinute { found with hour := hour } after
      else none

def readDay (negative : Bool) (yearDigits : ℕ) (text : List Char) : Option Fields :=
  match takeNumber yearDigits 0 text with
  | none => none
  | some (year, afterYear) =>
      match takeNumber 2 0 (skip '-' afterYear) with
      | none => none
      | some (month, afterMonth) =>
          match takeNumber 2 0 (skip '-' afterMonth) with
          | none => none
          | some (day, afterDay) =>
              readTime
                { year := if negative then -(year : ℤ) else year, month := month, day := day }
                afterDay

/-- The year has four to six digits, as many as lead to a match. -/
def readUnsigned (negative : Bool) (text : List Char) : Option Fields :=
  ((readDay negative 6 text).or (readDay negative 5 text)).or (readDay negative 4 text)

def readFields (text : List Char) : Option Fields :=
  match text with
  | [] => none
  | first :: rest =>
      if first = '-' then readUnsigned true rest
      else if first = '+' then readUnsigned false rest
      else readUnsigned false (first :: rest)

def Fields.instant (found : Fields) : Instant :=
  { microseconds :=
      dayNumber found.year found.month found.day * 86400000000 +
        clock found.hour found.minute found.second found.microsecond -
          (found.offset.getD 0) * 60000000
    isUtc := found.offset.isSome }

/-- At most 8.64e15 milliseconds from 1970, which is day 719528. -/
def inRange (instant : Instant) : Bool :=
  decide (-8640000000000000000 ≤ instant.microseconds - 719528 * 86400000000) &&
    decide (instant.microseconds - 719528 * 86400000000 ≤ 8640000000000000000)

/-- `DateTime.parse`; nothing where it throws. -/
def parse (text : List Char) : Option Instant :=
  match readFields text with
  | none => none
  | some found => if inRange found.instant then some found.instant else none

theorem isDigit_digitChar : ∀ digit < 10, (digitChar digit).isDigit = true := by decide

theorem toNat_digitChar : ∀ digit < 10, (digitChar digit).toNat - 48 = digit := by decide

theorem takeNumber_digitChar (count value digit : ℕ) (rest : List Char) (small : digit < 10) :
    takeNumber (count + 1) value (digitChar digit :: rest) =
      takeNumber count (10 * value + digit) rest := by
  change (if (digitChar digit).isDigit then
    takeNumber count (10 * value + ((digitChar digit).toNat - 48)) rest else none) = _
  rw [if_pos (isDigit_digitChar digit small), toNat_digitChar digit small]

theorem takeNumber_twoDigits {number : ℕ} (small : number < 100) (rest : List Char) :
    takeNumber 2 0 (twoDigits number ++ rest) = some (number, rest) := by
  have tens : number / 10 < 10 := by omega
  have units : number % 10 < 10 := by omega
  unfold twoDigits
  rw [List.cons_append, List.cons_append, List.nil_append,
    takeNumber_digitChar _ _ _ _ tens, takeNumber_digitChar _ _ _ _ units]
  unfold takeNumber
  congr 2
  omega

theorem takeNumber_fourDigits {number : ℕ} (small : number ≤ 9999) (more : ℕ)
    (rest : List Char) :
    takeNumber (more + 4) 0 (fourDigits number ++ rest) = takeNumber more number rest := by
  have thousands : number / 1000 < 10 := by omega
  have hundreds : number / 100 % 10 < 10 := by omega
  have tens : number / 10 % 10 < 10 := by omega
  have units : number % 10 < 10 := by omega
  unfold fourDigits
  simp only [List.cons_append, List.nil_append]
  rw [takeNumber_digitChar _ _ _ _ thousands, takeNumber_digitChar _ _ _ _ hundreds,
    takeNumber_digitChar _ _ _ _ tens, takeNumber_digitChar _ _ _ _ units]
  congr 1
  omega

theorem takeNumber_of_not_digit (count value : ℕ) {char : Char} (other : char.isDigit = false)
    (rest : List Char) : takeNumber (count + 1) value (char :: rest) = none := by
  unfold takeNumber
  rw [other, if_neg Bool.false_ne_true]

theorem skip_self (char : Char) (rest : List Char) : skip char (char :: rest) = rest := by
  exact if_pos rfl

theorem spanDigits_of_all {digits : List Char} (all : ∀ char ∈ digits, char.isDigit = true) :
    spanDigits digits = (digits, []) := by
  induction digits with
  | nil => rfl
  | cons first rest ih =>
      have here := all first List.mem_cons_self
      have later := ih (fun char member => all char (List.mem_cons_of_mem first member))
      unfold spanDigits
      rw [if_pos here, later]

theorem isDigit_of_mem_threeDigits {number : ℕ} (small : number < 1000) {char : Char}
    (member : char ∈ threeDigits number) : char.isDigit = true := by
  unfold threeDigits at member
  rcases List.mem_cons.mp member with first | member
  · rw [first]
    exact isDigit_digitChar _ (by omega)
  · rcases List.mem_cons.mp member with second | member
    · rw [second]
      exact isDigit_digitChar _ (by omega)
    · rw [List.mem_singleton.mp member]
      exact isDigit_digitChar _ (by omega)

theorem isDigit_of_mem_fractionText {microsecond : ℕ} (small : microsecond < 1000000) {char : Char}
    (member : char ∈ fractionText microsecond) : char.isDigit = true := by
  have high : microsecond / 1000 < 1000 := by omega
  have low : microsecond % 1000 < 1000 := by omega
  unfold fractionText at member
  split at member
  · exact isDigit_of_mem_threeDigits high member
  · rcases List.mem_append.mp member with first | second
    · exact isDigit_of_mem_threeDigits high first
    · exact isDigit_of_mem_threeDigits low second

theorem sixDigits_digitChar (count value digit : ℕ) (rest : List Char) (small : digit < 10) :
    sixDigits (count + 1) value (digitChar digit :: rest) =
      sixDigits count (10 * value + digit) rest := by
  change sixDigits count (10 * value + ((digitChar digit).toNat - 48)) rest = _
  rw [toNat_digitChar digit small]

theorem sixDigits_threeDigits (count value : ℕ) {number : ℕ} (small : number < 1000)
    (rest : List Char) :
    sixDigits (count + 3) value (threeDigits number ++ rest) =
      sixDigits count (1000 * value + number) rest := by
  have hundreds : number / 100 < 10 := by omega
  have tens : number / 10 % 10 < 10 := by omega
  have units : number % 10 < 10 := by omega
  unfold threeDigits
  simp only [List.cons_append, List.nil_append]
  rw [sixDigits_digitChar _ _ _ _ hundreds, sixDigits_digitChar _ _ _ _ tens,
    sixDigits_digitChar _ _ _ _ units]
  congr 1
  omega

theorem sixDigits_fractionText {microsecond : ℕ} (small : microsecond < 1000000) :
    sixDigits 6 0 (fractionText microsecond) = microsecond := by
  have high : microsecond / 1000 < 1000 := by omega
  have low : microsecond % 1000 < 1000 := by omega
  unfold fractionText
  split
  · rename_i whole
    have padded := sixDigits_threeDigits 3 0 high []
    rw [List.append_nil] at padded
    rw [padded]
    unfold sixDigits sixDigits sixDigits sixDigits
    omega
  · have both := sixDigits_threeDigits 3 0 high (threeDigits (microsecond % 1000))
    have rest := sixDigits_threeDigits 0 (1000 * 0 + microsecond / 1000) low []
    rw [List.append_nil] at rest
    rw [both, rest]
    unfold sixDigits
    omega

/-! ### What is printed is read back -/

theorem readDay_dayText (date : DateTime) (rest : List Char) :
    readDay false 4 (date.dayText ++ rest) =
      readTime { year := date.year, month := date.month, day := date.day } rest := by
  have month : date.month < 100 := by
    have bound := date.month_le
    omega
  have day : date.day < 100 := by
    have bound := date.day_le_31
    omega
  unfold readDay DateTime.dayText
  simp only [List.append_assoc]
  rw [takeNumber_fourDigits date.year_le 0]
  simp only [takeNumber, List.cons_append, skip_self, takeNumber_twoDigits month,
    takeNumber_twoDigits day]
  rfl

theorem readDay_dayText_longer (date : DateTime) (more : ℕ) (rest : List Char) :
    readDay false (more + 5) (date.dayText ++ rest) = none := by
  unfold readDay DateTime.dayText
  simp only [List.append_assoc]
  rw [takeNumber_fourDigits date.year_le (more + 1), List.cons_append,
    takeNumber_of_not_digit _ _ rfl]

theorem readFields_dayText (date : DateTime) (rest : List Char) :
    readFields (date.dayText ++ rest) =
      readTime { year := date.year, month := date.month, day := date.day } rest := by
  have thousands : date.year / 1000 < 10 := by
    have bound := date.year_le
    omega
  have unsigned : readUnsigned false (date.dayText ++ rest) =
      readTime { year := date.year, month := date.month, day := date.day } rest := by
    unfold readUnsigned
    rw [readDay_dayText_longer date 1, readDay_dayText_longer date 0, readDay_dayText]
    rfl
  rw [← unsigned]
  have digit := isDigit_digitChar _ thousands
  unfold DateTime.dayText fourDigits
  simp only [List.cons_append]
  unfold readFields
  dsimp only
  have noMinus : digitChar (date.year / 1000) ≠ '-' := by
    intro same
    rw [same] at digit
    cases digit
  have noPlus : digitChar (date.year / 1000) ≠ '+' := by
    intro same
    rw [same] at digit
    cases digit
  rw [if_neg noMinus, if_neg noPlus]

theorem readHour_twoDigits (found : Fields) {hour : ℕ} (small : hour < 100) (rest : List Char) :
    readTime found (' ' :: (twoDigits hour ++ rest)) =
      readMinute { found with hour := hour } rest := by
  unfold readTime
  dsimp only
  rw [if_pos (Or.inl rfl), takeNumber_twoDigits small]

theorem readMinute_twoDigits (found : Fields) {minute : ℕ} (small : minute < 100)
    (rest : List Char) :
    readMinute found (':' :: (twoDigits minute ++ rest)) =
      readSecond { found with minute := minute } rest := by
  unfold readMinute
  rw [skip_self, takeNumber_twoDigits small]

theorem readSecond_twoDigits (found : Fields) {second : ℕ} (small : second < 100)
    (rest : List Char) :
    readSecond found (':' :: (twoDigits second ++ rest)) =
      readFraction { found with second := second } rest := by
  unfold readSecond
  rw [skip_self, takeNumber_twoDigits small]

theorem readFraction_fractionText (found : Fields) {microsecond : ℕ}
    (small : microsecond < 1000000) :
    readFraction found ('.' :: fractionText microsecond) =
      some { found with microsecond := microsecond, offset := none } := by
  have span := spanDigits_of_all
    (fun _ member => isDigit_of_mem_fractionText small member)
  have printed : fractionText microsecond ≠ [] := by
    unfold fractionText threeDigits
    split
    · exact List.cons_ne_nil _ _
    · exact List.cons_ne_nil _ _
  unfold readFraction
  dsimp only
  rw [if_pos (Or.inl rfl), span, if_neg printed]
  unfold readZone
  rw [Option.map_some, sixDigits_fractionText small]

theorem readFields_toText (date : DateTime) :
    readFields date.toText =
      some
        { year := date.year
          month := date.month
          day := date.day
          hour := date.hour
          minute := date.minute
          second := date.second
          microsecond := date.microsecond } := by
  have hour : date.hour < 100 := by
    have bound := date.hour_lt
    omega
  have minute : date.minute < 100 := by
    have bound := date.minute_lt
    omega
  have second : date.second < 100 := by
    have bound := date.second_lt
    omega
  unfold DateTime.toText
  simp only [List.append_assoc, List.cons_append]
  rw [readFields_dayText, readHour_twoDigits _ hour, readMinute_twoDigits _ minute,
    readSecond_twoDigits _ second, readFraction_fractionText _ date.microsecond_lt]

theorem daysBeforeMonth_bounds (leap : Bool) (month : ℕ) :
    0 ≤ daysBeforeMonth leap month ∧ daysBeforeMonth leap month ≤ 335 := by
  have table : ∀ index, 0 ≤ ([0, 31, 59, 90, 120, 151, 181, 212, 243, 273, 304,
      334] : List ℤ).getD index 0 ∧ ([0, 31, 59, 90, 120, 151, 181, 212, 243, 273, 304,
      334] : List ℤ).getD index 0 ≤ 334 := by
    intro index
    by_cases inside : index < 12
    · interval_cases index <;> decide
    · rw [List.getD_eq_default _ _ (by simpa using inside)]
      decide
  have bounds := table month
  unfold daysBeforeMonth
  dsimp only
  split
  · omega
  · omega

theorem DateTime.days_bounds (date : DateTime) : 0 ≤ date.days ∧ date.days ≤ 3700000 := by
  have yearBound := date.year_le
  have monthPos := date.month_pos
  have monthBound := date.month_le
  have dayPos := date.day_pos
  have dayBound := date.day_le_31
  unfold DateTime.days dayNumber
  have before := daysBeforeMonth_bounds
    (isLeapYear (date.year + ((date.month : ℤ) - 1) / 12)) (((date.month : ℤ) - 1) % 12).toNat
  dsimp only
  omega

theorem DateTime.clock_bounds (date : DateTime) :
    0 ≤ clock date.hour date.minute date.second date.microsecond ∧
      clock date.hour date.minute date.second date.microsecond < 86400000000 := by
  have hour := date.hour_lt
  have minute := date.minute_lt
  have second := date.second_lt
  have microsecond := date.microsecond_lt
  unfold clock
  omega

theorem DateTime.dayOf_instant (date : DateTime) : date.instant.dayOf = date.days := by
  have bounds := date.clock_bounds
  unfold DateTime.instant Instant.dayOf
  dsimp only
  omega

theorem DateTime.inRange_instant (date : DateTime) : inRange date.instant = true := by
  have days := date.days_bounds
  have time := date.clock_bounds
  unfold inRange DateTime.instant
  rw [Bool.and_eq_true, decide_eq_true_eq, decide_eq_true_eq]
  dsimp only
  omega

/-- A printed date-time is read back. -/
theorem parse_toText (date : DateTime) : parse date.toText = some date.instant := by
  have same : (Fields.instant
      { year := date.year
        month := date.month
        day := date.day
        hour := date.hour
        minute := date.minute
        second := date.second
        microsecond := date.microsecond }) = date.instant := by
    unfold Fields.instant DateTime.instant DateTime.days
    simp only [Option.getD_none, zero_mul, sub_zero, Option.isSome_none]
  unfold parse
  rw [readFields_toText]
  dsimp only
  rw [same, if_pos date.inRange_instant]

/-- A printed day is read back as its midnight. -/
theorem parse_dayText (date : DateTime) :
    parse date.dayText = some date.midnight.instant := by
  have found := readFields_dayText date []
  rw [List.append_nil] at found
  have same : (Fields.instant { year := date.year, month := date.month, day := date.day }) =
      date.midnight.instant := by
    unfold Fields.instant DateTime.instant DateTime.days DateTime.midnight
    simp only [Option.getD_none, zero_mul, sub_zero, Option.isSome_none, Nat.cast_zero]
  unfold parse
  rw [found]
  unfold readTime
  dsimp only
  rw [same, if_pos date.midnight.inRange_instant]

/-! ### What is never read -/

def grammarChar (char : Char) : Bool :=
  char.isDigit || ['-', '+', ' ', 'T', ':', '.', ',', 'z', 'Z'].contains char

def InGrammar (text : List Char) : Prop :=
  ∀ char ∈ text, grammarChar char = true

theorem inGrammar_nil : InGrammar [] :=
  fun _ impossible => absurd impossible List.not_mem_nil

theorem inGrammar_cons {char : Char} {rest : List Char} (here : grammarChar char = true)
    (later : InGrammar rest) : InGrammar (char :: rest) := by
  intro other member
  rcases List.mem_cons.mp member with first | inside
  · rw [first]
    exact here
  · exact later other inside

theorem inGrammar_of_takeNumber {count value number : ℕ} {text rest : List Char}
    (taken : takeNumber count value text = some (number, rest)) (later : InGrammar rest) :
    InGrammar text := by
  induction count generalizing value text with
  | zero =>
      unfold takeNumber at taken
      cases taken
      exact later
  | succ count ih =>
      cases text with
      | nil => exact inGrammar_nil
      | cons first more =>
          unfold takeNumber at taken
          split at taken
          · rename_i digit
            have here : grammarChar first = true := by
              unfold grammarChar
              rw [digit, Bool.true_or]
            exact inGrammar_cons here (ih taken)
          · cases taken

theorem inGrammar_of_skip {char : Char} (allowed : grammarChar char = true) {text : List Char}
    (later : InGrammar (skip char text)) : InGrammar text := by
  cases text with
  | nil => exact inGrammar_nil
  | cons first rest =>
      change InGrammar (if first = char then rest else first :: rest) at later
      by_cases same : first = char
      · rw [if_pos same] at later
        rw [same]
        exact inGrammar_cons allowed later
      · rw [if_neg same] at later
        exact later

theorem inGrammar_of_spanDigits {text : List Char} (later : InGrammar (spanDigits text).2) :
    InGrammar text := by
  induction text with
  | nil => exact inGrammar_nil
  | cons first rest ih =>
      unfold spanDigits at later
      split at later
      · rename_i digit
        have here : grammarChar first = true := by
          unfold grammarChar
          rw [digit, Bool.true_or]
        exact inGrammar_cons here (ih later)
      · exact later

theorem inGrammar_of_readZone {text : List Char} {offset : Option ℤ}
    (zone : readZone text = some offset) : InGrammar text := by
  have space : grammarChar ' ' = true := by decide
  have colon : grammarChar ':' = true := by decide
  cases text with
  | nil => exact inGrammar_nil
  | cons first rest =>
      apply inGrammar_of_skip space
      unfold readZone at zone
      dsimp only at zone
      cases skipped : skip ' ' (first :: rest) with
      | nil => exact inGrammar_nil
      | cons sign more =>
          rw [skipped] at zone
          dsimp only at zone
          split at zone
          · rename_i utc
            split at zone
            · rename_i ends
              rw [ends]
              apply inGrammar_cons ?_ inGrammar_nil
              rcases utc with lower | upper
              · rw [lower]
                decide
              · rw [upper]
                decide
            · cases zone
          · split at zone
            · rename_i signed
              have here : grammarChar sign = true := by
                rcases signed with plus | minus
                · rw [plus]
                  decide
                · rw [minus]
                  decide
              apply inGrammar_cons here
              split at zone
              · cases zone
              · rename_i hours taken
                exact inGrammar_of_takeNumber taken inGrammar_nil
              · rename_i hours after _ taken
                split at zone
                · rename_i minutes takenMinutes
                  apply inGrammar_of_takeNumber taken
                  apply inGrammar_of_skip colon
                  exact inGrammar_of_takeNumber takenMinutes inGrammar_nil
                · cases zone
            · cases zone

theorem inGrammar_of_map_readZone {text : List Char} {build : Option ℤ → Fields}
    {found : Fields} (zone : (readZone text).map build = some found) : InGrammar text := by
  obtain ⟨offset, read, _⟩ := Option.map_eq_some_iff.mp zone
  exact inGrammar_of_readZone read

theorem inGrammar_of_readFraction {before found : Fields} {text : List Char}
    (read : readFraction before text = some found) : InGrammar text := by
  cases text with
  | nil => exact inGrammar_nil
  | cons first more =>
      unfold readFraction at read
      dsimp only at read
      split at read
      · rename_i mark
        have here : grammarChar first = true := by
          rcases mark with point | comma
          · rw [point]
            decide
          · rw [comma]
            decide
        split at read
        · cases read
        · apply inGrammar_cons here
          apply inGrammar_of_spanDigits
          exact inGrammar_of_map_readZone read
      · exact inGrammar_of_map_readZone read

theorem inGrammar_of_readSecond {before found : Fields} {text : List Char}
    (read : readSecond before text = some found) : InGrammar text := by
  have colon : grammarChar ':' = true := by decide
  unfold readSecond at read
  split at read
  · exact inGrammar_of_map_readZone read
  · rename_i second after taken
    apply inGrammar_of_skip colon
    exact inGrammar_of_takeNumber taken (inGrammar_of_readFraction read)

theorem inGrammar_of_readMinute {before found : Fields} {text : List Char}
    (read : readMinute before text = some found) : InGrammar text := by
  have colon : grammarChar ':' = true := by decide
  unfold readMinute at read
  split at read
  · exact inGrammar_of_map_readZone read
  · rename_i minute after taken
    apply inGrammar_of_skip colon
    exact inGrammar_of_takeNumber taken (inGrammar_of_readSecond read)

theorem inGrammar_of_readTime {before found : Fields} {text : List Char}
    (read : readTime before text = some found) : InGrammar text := by
  cases text with
  | nil => exact inGrammar_nil
  | cons separator more =>
      unfold readTime at read
      dsimp only at read
      split at read
      · rename_i separates
        have here : grammarChar separator = true := by
          rcases separates with space | letter
          · rw [space]
            decide
          · rw [letter]
            decide
        split at read
        · cases read
        · rename_i hour after taken
          apply inGrammar_cons here
          exact inGrammar_of_takeNumber taken (inGrammar_of_readMinute read)
      · cases read

theorem inGrammar_of_readDay {negative : Bool} {yearDigits : ℕ} {text : List Char}
    {found : Fields} (read : readDay negative yearDigits text = some found) : InGrammar text := by
  have dash : grammarChar '-' = true := by decide
  unfold readDay at read
  split at read
  · cases read
  · rename_i year afterYear takenYear
    split at read
    · cases read
    · rename_i month afterMonth takenMonth
      split at read
      · cases read
      · rename_i day afterDay takenDay
        apply inGrammar_of_takeNumber takenYear
        apply inGrammar_of_skip dash
        apply inGrammar_of_takeNumber takenMonth
        apply inGrammar_of_skip dash
        exact inGrammar_of_takeNumber takenDay (inGrammar_of_readTime read)

theorem inGrammar_of_readUnsigned {negative : Bool} {text : List Char} {found : Fields}
    (read : readUnsigned negative text = some found) : InGrammar text := by
  unfold readUnsigned at read
  rcases Option.or_eq_some_iff.mp read with longer | ⟨_, four⟩
  · rcases Option.or_eq_some_iff.mp longer with six | ⟨_, five⟩
    · exact inGrammar_of_readDay six
    · exact inGrammar_of_readDay five
  · exact inGrammar_of_readDay four

theorem inGrammar_of_readFields {text : List Char} {found : Fields}
    (read : readFields text = some found) : InGrammar text := by
  cases text with
  | nil => exact inGrammar_nil
  | cons first rest =>
      unfold readFields at read
      dsimp only at read
      split at read
      · rename_i minus
        rw [minus]
        exact inGrammar_cons (by decide) (inGrammar_of_readUnsigned read)
      · split at read
        · rename_i plus
          rw [plus]
          exact inGrammar_cons (by decide) (inGrammar_of_readUnsigned read)
        · exact inGrammar_of_readUnsigned read

/-- A text with a character outside the grammar is not read. -/
theorem parse_eq_none_of_not_grammar {text : List Char} {char : Char} (member : char ∈ text)
    (outside : grammarChar char = false) : parse text = none := by
  unfold parse
  cases read : readFields text with
  | none => rfl
  | some found =>
      have inside := inGrammar_of_readFields read char member
      rw [outside] at inside
      cases inside

theorem parse_eq_none_of_twoDigits {number : ℕ} (small : number < 100) (rest : List Char) :
    parse (twoDigits number ++ '-' :: rest) = none := by
  have tens : number / 10 < 10 := by omega
  have units : number % 10 < 10 := by omega
  have noYear : ∀ more, takeNumber (more + 3) 0 (twoDigits number ++ '-' :: rest) = none := by
    intro more
    unfold twoDigits
    rw [List.cons_append, List.cons_append, List.nil_append,
      takeNumber_digitChar _ _ _ _ tens, takeNumber_digitChar _ _ _ _ units,
      takeNumber_of_not_digit _ _ rfl]
  have noDay : ∀ more, readDay false (more + 3) (twoDigits number ++ '-' :: rest) = none := by
    intro more
    unfold readDay
    rw [noYear more]
  have unsigned : readUnsigned false (twoDigits number ++ '-' :: rest) = none := by
    unfold readUnsigned
    rw [noDay 3, noDay 2, noDay 1]
    rfl
  have digit := isDigit_digitChar _ tens
  have noMinus : digitChar (number / 10) ≠ '-' := by
    intro same
    rw [same] at digit
    cases digit
  have noPlus : digitChar (number / 10) ≠ '+' := by
    intro same
    rw [same] at digit
    cases digit
  unfold parse
  have fields : readFields (twoDigits number ++ '-' :: rest) = none := by
    rw [← unsigned]
    unfold twoDigits
    rw [List.cons_append]
    unfold readFields
    dsimp only
    rw [if_neg noMinus, if_neg noPlus]
  rw [fields]

end FiksOpp.IsoDateTime
