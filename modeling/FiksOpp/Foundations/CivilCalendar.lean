/-
Clock readings in every year of the calendar: a reading, counted in microseconds,
shows a date and a time of day, and a date printed with its year in full is read
back number by number.
-/

import FiksOpp.Foundations.IsoDateTime

namespace FiksOpp.CivilCalendar

open IsoDateTime

def daysBeforeYear (year : ℤ) : ℤ :=
  365 * year + (year + 3) / 4 - (year + 99) / 100 + (year + 399) / 400

def yearLength (leap : Bool) : ℕ :=
  if leap then 366 else 365

def monthLength (leap : Bool) (month : ℕ) : ℕ :=
  if month = 2 then (if leap then 29 else 28)
  else if month = 4 ∨ month = 6 ∨ month = 9 ∨ month = 11 then 30
  else 31

theorem daysBeforeYear_succ (year : ℤ) :
    daysBeforeYear (year + 1) = daysBeforeYear year + yearLength (isLeapYear year) := by
  unfold daysBeforeYear yearLength
  by_cases leap : isLeapYear year = true
  · rw [if_pos leap]
    unfold isLeapYear at leap
    simp only [Bool.and_eq_true, Bool.or_eq_true, beq_iff_eq, bne_iff_ne, ne_eq] at leap
    omega
  · rw [if_neg leap]
    unfold isLeapYear at leap
    simp only [Bool.and_eq_true, Bool.or_eq_true, beq_iff_eq, bne_iff_ne, ne_eq] at leap
    omega

theorem daysBeforeYear_strict {earlier later : ℤ} (before : earlier < later) :
    daysBeforeYear earlier + 365 ≤ daysBeforeYear later := by
  unfold daysBeforeYear
  omega

theorem dayNumber_of_month {year : ℤ} {month day : ℕ} (positive : 1 ≤ month)
    (bounded : month ≤ 12) :
    dayNumber year month day =
      daysBeforeYear year + daysBeforeMonth (isLeapYear year) (month - 1) + (day - 1) := by
  have carry : ((month : ℤ) - 1) / 12 = 0 := by omega
  have index : (((month : ℤ) - 1) % 12).toNat = month - 1 := by omega
  unfold dayNumber daysBeforeYear
  rw [carry, index, add_zero]

/-- The year a day lies in: 400 years have 146097 days, which leaves three candidates. -/
def yearOf (days : ℤ) : ℤ :=
  let guess := days * 400 / 146097
  if days < daysBeforeYear guess then guess - 1
  else if daysBeforeYear (guess + 1) ≤ days then guess + 1
  else guess

theorem yearOf_spec (days : ℤ) :
    daysBeforeYear (yearOf days) ≤ days ∧ days < daysBeforeYear (yearOf days + 1) := by
  unfold yearOf
  dsimp only
  split
  · rename_i early
    rw [sub_add_cancel]
    refine ⟨?_, early⟩
    unfold daysBeforeYear
    omega
  · split
    · rename_i late
      refine ⟨late, ?_⟩
      unfold daysBeforeYear
      omega
    · rename_i notEarly notLate
      exact ⟨by omega, by omega⟩

def monthOf (leap : Bool) (dayOfYear : ℕ) : ℕ :=
  ((List.range 12).filter fun month =>
    decide (daysBeforeMonth leap month ≤ dayOfYear)).length

theorem monthOf_spec : ∀ leap : Bool, ∀ dayOfYear < yearLength leap,
    1 ≤ monthOf leap dayOfYear ∧ monthOf leap dayOfYear ≤ 12 ∧
      daysBeforeMonth leap (monthOf leap dayOfYear - 1) ≤ dayOfYear ∧
      dayOfYear < daysBeforeMonth leap (monthOf leap dayOfYear - 1) +
        monthLength leap (monthOf leap dayOfYear) := by
  decide +kernel

structure CivilTime where
  year : ℤ
  month : ℕ
  day : ℕ
  hour : ℕ
  minute : ℕ
  second : ℕ
  microsecond : ℕ
  month_pos : 1 ≤ month
  month_le : month ≤ 12
  day_pos : 1 ≤ day
  day_le : day ≤ monthLength (isLeapYear year) month
  hour_lt : hour < 24
  minute_lt : minute < 60
  second_lt : second < 60
  microsecond_lt : microsecond < 1000000

namespace CivilTime

def reading (shown : CivilTime) : ℤ :=
  dayNumber shown.year shown.month shown.day * 86400000000 +
    clock shown.hour shown.minute shown.second shown.microsecond

theorem day_le_31 (shown : CivilTime) : shown.day ≤ 31 := by
  have bound := shown.day_le
  unfold monthLength at bound
  split at bound
  · split at bound <;> omega
  · split at bound <;> omega

end CivilTime

def dayOfYear (days : ℤ) : ℕ :=
  (days - daysBeforeYear (yearOf days)).toNat

def dayOfMonth (days : ℤ) : ℕ :=
  let leap := isLeapYear (yearOf days)
  (dayOfYear days - daysBeforeMonth leap (monthOf leap (dayOfYear days) - 1)).toNat + 1

theorem dayOfYear_spec (days : ℤ) :
    (dayOfYear days : ℤ) = days - daysBeforeYear (yearOf days) ∧
      dayOfYear days < yearLength (isLeapYear (yearOf days)) := by
  have spec := yearOf_spec days
  rw [daysBeforeYear_succ] at spec
  unfold dayOfYear
  omega

theorem dayOfMonth_spec (days : ℤ) :
    let leap := isLeapYear (yearOf days)
    let month := monthOf leap (dayOfYear days)
    (dayOfYear days : ℤ) = daysBeforeMonth leap (month - 1) + (dayOfMonth days - 1) ∧
      1 ≤ dayOfMonth days ∧ dayOfMonth days ≤ monthLength leap month := by
  have inYear := (dayOfYear_spec days).2
  obtain ⟨_, _, first, last⟩ := monthOf_spec _ _ inYear
  unfold dayOfMonth
  dsimp only
  omega

def ofReading (reading : ℤ) : CivilTime :=
  let days := reading / 86400000000
  let time := (reading % 86400000000).toNat
  let leap := isLeapYear (yearOf days)
  have month := monthOf_spec leap (dayOfYear days) (dayOfYear_spec days).2
  have day := (dayOfMonth_spec days).2
  { year := yearOf days
    month := monthOf leap (dayOfYear days)
    day := dayOfMonth days
    hour := time / 3600000000
    minute := time / 60000000 % 60
    second := time / 1000000 % 60
    microsecond := time % 1000000
    month_pos := month.1
    month_le := month.2.1
    day_pos := day.1
    day_le := day.2
    hour_lt := by
      have bound : 0 ≤ reading % 86400000000 ∧ reading % 86400000000 < 86400000000 := by omega
      omega
    minute_lt := Nat.mod_lt _ (by decide)
    second_lt := Nat.mod_lt _ (by decide)
    microsecond_lt := Nat.mod_lt _ (by decide) }

theorem dayNumber_ofReading (reading : ℤ) :
    dayNumber (ofReading reading).year (ofReading reading).month (ofReading reading).day =
      reading / 86400000000 := by
  have month := monthOf_spec _ _ (dayOfYear_spec (reading / 86400000000)).2
  have inMonth := (dayOfMonth_spec (reading / 86400000000)).1
  have inYear := (dayOfYear_spec (reading / 86400000000)).1
  rw [dayNumber_of_month (ofReading reading).month_pos (ofReading reading).month_le]
  unfold ofReading
  dsimp only at inMonth ⊢
  omega

theorem clock_ofReading (reading : ℤ) :
    clock (ofReading reading).hour (ofReading reading).minute (ofReading reading).second
      (ofReading reading).microsecond = reading % 86400000000 := by
  unfold clock ofReading
  dsimp only
  omega

theorem reading_ofReading (reading : ℤ) : (ofReading reading).reading = reading := by
  unfold CivilTime.reading
  rw [dayNumber_ofReading, clock_ofReading]
  omega

theorem year_ofReading_bounds {reading : ℤ}
    (bounds : -10000000000000000000 ≤ reading ∧ reading ≤ 10000000000000000000) :
    (ofReading reading).year.natAbs ≤ 999999 := by
  have spec := yearOf_spec (reading / 86400000000)
  change (yearOf (reading / 86400000000)).natAbs ≤ 999999
  unfold daysBeforeYear at spec
  omega

/-! ### Numbers padded with zeros -/

def paddedNumber (width number : ℕ) : List Char :=
  (Nat.toDigits 10 number).leftpad width '0'

theorem isDigit_of_mem_paddedNumber {width number : ℕ} {char : Char}
    (member : char ∈ paddedNumber width number) : char.isDigit = true := by
  unfold paddedNumber List.leftpad at member
  rcases List.mem_append.mp member with padding | digit
  · rw [List.eq_of_mem_replicate padding]
    decide
  · exact Nat.isDigit_of_mem_toDigits (by decide) (by decide) digit

theorem ofDigitChars_paddedNumber (width number : ℕ) :
    Nat.ofDigitChars 10 (paddedNumber width number) 0 = number := by
  unfold paddedNumber List.leftpad
  rw [Nat.ofDigitChars_append, Nat.ofDigitChars_replicate_zero, Nat.mul_zero,
    Nat.ofDigitChars_ten_toDigits]

theorem length_paddedNumber (width number : ℕ) :
    (paddedNumber width number).length = max width (Nat.toDigits 10 number).length := by
  unfold paddedNumber List.leftpad
  rw [List.length_append, List.length_replicate]
  omega

theorem length_paddedNumber_of_lt {width number : ℕ} (positive : 0 < width)
    (small : number < 10 ^ width) : (paddedNumber width number).length = width := by
  have digits := (Nat.length_toDigits_le_iff (by decide) positive).mpr small
  rw [length_paddedNumber]
  omega

theorem takeNumber_of_digits {digits : List Char}
    (all : ∀ char ∈ digits, char.isDigit = true) (value : ℕ) (rest : List Char) :
    takeNumber digits.length value (digits ++ rest) =
      some (Nat.ofDigitChars 10 digits value, rest) := by
  induction digits generalizing value with
  | nil => rfl
  | cons first more ih =>
      have here := all first List.mem_cons_self
      have later := fun char member => all char (List.mem_cons_of_mem first member)
      rw [List.length_cons, List.cons_append, Nat.ofDigitChars_cons, ← ih later]
      exact if_pos here

theorem takeNumber_of_few_digits {digits : List Char}
    (all : ∀ char ∈ digits, char.isDigit = true) {count : ℕ} (more : digits.length < count)
    (value : ℕ) {char : Char} (other : char.isDigit = false) (rest : List Char) :
    takeNumber count value (digits ++ char :: rest) = none := by
  induction digits generalizing count value with
  | nil =>
      obtain ⟨less, rfl⟩ := Nat.exists_eq_succ_of_ne_zero (Nat.ne_of_gt more)
      exact takeNumber_of_not_digit less value other rest
  | cons first digits ih =>
      have here := all first List.mem_cons_self
      have later := fun other member => all other (List.mem_cons_of_mem first member)
      rw [List.length_cons] at more
      obtain ⟨less, rfl⟩ := Nat.exists_eq_succ_of_ne_zero (Nat.ne_of_gt (Nat.zero_lt_of_lt more))
      have fewer := ih later (Nat.lt_of_succ_lt_succ more) (10 * value + (first.toNat - 48))
      rw [List.cons_append, ← fewer]
      exact if_pos here

theorem takeNumber_paddedNumber {width number : ℕ} (positive : 0 < width)
    (small : number < 10 ^ width) (rest : List Char) :
    takeNumber width 0 (paddedNumber width number ++ rest) = some (number, rest) := by
  have taken := takeNumber_of_digits
    (fun char member => @isDigit_of_mem_paddedNumber width number char member)
    0 rest
  rw [length_paddedNumber_of_lt positive small, ofDigitChars_paddedNumber] at taken
  exact taken

def dateText (year month day : ℕ) (rest : List Char) : List Char :=
  paddedNumber 4 year ++ '-' :: (paddedNumber 2 month ++ '-' :: (paddedNumber 2 day ++ rest))

def secondsText (year month day hour minute second : ℕ) : List Char :=
  dateText year month day
    (' ' :: (paddedNumber 2 hour ++ ':' :: (paddedNumber 2 minute ++
      ':' :: paddedNumber 2 second)))

section Reading

variable {year month day : ℕ} (rest : List Char)

theorem readDay_dateText (monthSmall : month < 100) (daySmall : day < 100) :
    readDay false (paddedNumber 4 year).length (dateText year month day rest) =
      readTime { year := year, month := month, day := day } rest := by
  have yearTaken := takeNumber_of_digits
    (fun char member => @isDigit_of_mem_paddedNumber 4 year char member) 0
  unfold readDay dateText
  rw [yearTaken, ofDigitChars_paddedNumber]
  dsimp only
  rw [skip_self, takeNumber_paddedNumber (by decide) monthSmall]
  dsimp only
  rw [skip_self, takeNumber_paddedNumber (by decide) daySmall]
  rfl

theorem readDay_dateText_longer {count : ℕ} (more : (paddedNumber 4 year).length < count) :
    readDay false count (dateText year month day rest) = none := by
  have none_taken := takeNumber_of_few_digits
    (fun char member => @isDigit_of_mem_paddedNumber 4 year char member) more 0
    (by decide : ('-').isDigit = false)
  unfold readDay dateText
  rw [none_taken]

theorem readUnsigned_dateText (yearSmall : year ≤ 999999) (monthSmall : month < 100)
    (daySmall : day < 100) {found : Fields}
    (read : readTime { year := year, month := month, day := day } rest = some found) :
    readUnsigned false (dateText year month day rest) = some found := by
  have digits : (Nat.toDigits 10 year).length ≤ 6 :=
    (Nat.length_toDigits_le_iff (by decide) (by decide)).mpr (by omega)
  have length := length_paddedNumber 4 year
  have same := @readDay_dateText year month day rest monthSmall daySmall
  have longer := fun count more => @readDay_dateText_longer year month day rest count more
  rw [read] at same
  unfold readUnsigned
  have cases : (paddedNumber 4 year).length = 4 ∨ (paddedNumber 4 year).length = 5 ∨
      (paddedNumber 4 year).length = 6 := by omega
  rcases cases with four | five | six
  · rw [four] at same
    rw [longer 6 (by omega), longer 5 (by omega), same]
    rfl
  · rw [five] at same
    rw [longer 6 (by omega), same]
    rfl
  · rw [six] at same
    rw [same]
    rfl

end Reading

theorem readFields_secondsText {year month day hour minute second : ℕ}
    (yearSmall : year ≤ 999999) (monthSmall : month < 100) (daySmall : day < 100)
    (hourSmall : hour < 100) (minuteSmall : minute < 100) (secondSmall : second < 100) :
    readFields (secondsText year month day hour minute second) =
      some
        { year := year
          month := month
          day := day
          hour := hour
          minute := minute
          second := second } := by
  have last := @takeNumber_paddedNumber 2 second (by decide) secondSmall []
  rw [List.append_nil] at last
  have time : readTime { year := year, month := month, day := day }
      (' ' :: (paddedNumber 2 hour ++ ':' :: (paddedNumber 2 minute ++
        ':' :: paddedNumber 2 second))) =
      some { year := year, month := month, day := day, hour := hour, minute := minute,
             second := second } := by
    unfold readTime
    dsimp only
    rw [if_pos (Or.inl rfl), takeNumber_paddedNumber (by decide) hourSmall]
    unfold readMinute
    dsimp only
    rw [skip_self, takeNumber_paddedNumber (by decide) minuteSmall]
    unfold readSecond
    dsimp only
    rw [skip_self, last]
    rfl
  have unsigned := readUnsigned_dateText _ yearSmall monthSmall daySmall time
  obtain ⟨first, more, shown⟩ : ∃ first more, paddedNumber 4 year = first :: more := by
    cases printed : paddedNumber 4 year with
    | nil =>
        have length := length_paddedNumber 4 year
        rw [printed, List.length_nil] at length
        omega
    | cons first more => exact ⟨first, more, rfl⟩
  have digit : first.isDigit = true := by
    apply @isDigit_of_mem_paddedNumber 4 year first
    rw [shown]
    exact List.mem_cons_self
  have noMinus : first ≠ '-' := by
    intro same
    rw [same] at digit
    cases digit
  have noPlus : first ≠ '+' := by
    intro same
    rw [same] at digit
    cases digit
  unfold secondsText dateText at *
  rw [shown, List.cons_append] at unsigned ⊢
  unfold readFields
  dsimp only
  rw [if_neg noMinus, if_neg noPlus]
  exact unsigned

end FiksOpp.CivilCalendar
