/-
Months counted through all years: the first day of each, in which month a day lies,
and dates whose month or day carries over.
-/

import FiksOpp.Foundations.CivilCalendar

namespace FiksOpp.CivilCalendar

open IsoDateTime

/-- The first day of a month; month 0 is January of year 0. -/
def monthStart (index : ℤ) : ℤ :=
  dayNumber 0 (index + 1) 1

theorem dayNumber_eq_monthStart (year month day : ℤ) :
    dayNumber year month day = monthStart (12 * year + month - 1) + (day - 1) := by
  have carried : 0 + (12 * year + month - 1 + 1 - 1) / 12 = year + (month - 1) / 12 := by omega
  have index : (12 * year + month - 1 + 1 - 1) % 12 = (month - 1) % 12 := by omega
  unfold monthStart dayNumber
  dsimp only
  rw [carried, index]
  omega

theorem daysBeforeMonth_succ : ∀ leap : Bool, ∀ month < 11,
    daysBeforeMonth leap (month + 1) =
      daysBeforeMonth leap month + monthLength leap (month + 1) := by
  decide

theorem daysBeforeMonth_december (leap : Bool) :
    daysBeforeMonth leap 11 + monthLength leap 12 = yearLength leap := by
  cases leap <;> rfl

theorem monthLength_bounds (leap : Bool) (month : ℕ) :
    28 ≤ monthLength leap month ∧ monthLength leap month ≤ 31 := by
  unfold monthLength
  cases leap with
  | false => split_ifs <;> omega
  | true => split_ifs <;> omega

theorem monthStart_eq (year : ℤ) {month : ℕ} (small : month < 12) :
    monthStart (12 * year + month) =
      daysBeforeYear year + daysBeforeMonth (isLeapYear year) month := by
  have carried : 0 + (12 * year + (month : ℤ) + 1 - 1) / 12 = year := by omega
  have index : ((12 * year + (month : ℤ) + 1 - 1) % 12).toNat = month := by omega
  unfold monthStart dayNumber daysBeforeYear
  dsimp only
  rw [carried, index]
  omega

theorem monthStart_succ (year : ℤ) {month : ℕ} (small : month < 12) :
    monthStart (12 * year + month + 1) =
      monthStart (12 * year + month) + monthLength (isLeapYear year) (month + 1) := by
  rw [monthStart_eq year small]
  by_cases last : month = 11
  · have next := monthStart_eq (year + 1) (by decide : 0 < 12)
    have december := daysBeforeMonth_december (isLeapYear year)
    have january : daysBeforeMonth (isLeapYear (year + 1)) 0 = 0 := by
      cases isLeapYear (year + 1) <;> rfl
    have index : 12 * year + (month : ℤ) + 1 = 12 * (year + 1) + (0 : ℕ) := by omega
    rw [index, next, daysBeforeYear_succ, january]
    subst last
    change _ = _ + (monthLength (isLeapYear year) 12 : ℤ)
    omega
  · have next := monthStart_eq year (by omega : month + 1 < 12)
    have index : 12 * year + (month : ℤ) + 1 = 12 * year + ((month + 1 : ℕ) : ℤ) := by omega
    rw [index, next, daysBeforeMonth_succ _ month (by omega)]
    omega

theorem monthStart_lt_succ (index : ℤ) :
    monthStart index + 28 ≤ monthStart (index + 1) ∧
      monthStart (index + 1) ≤ monthStart index + 31 := by
  have whole : index = 12 * (index / 12) + ((index % 12).toNat : ℕ) := by omega
  have step := monthStart_succ (index / 12) (by omega : (index % 12).toNat < 12)
  have length := monthLength_bounds (isLeapYear (index / 12)) ((index % 12).toNat + 1)
  rw [← whole] at step
  omega

theorem monthStart_add (index : ℤ) (count : ℕ) :
    monthStart index + 28 * count ≤ monthStart (index + count) := by
  induction count with
  | zero => simp
  | succ count ih =>
      have step := (monthStart_lt_succ (index + count)).1
      have next : index + ((count + 1 : ℕ) : ℤ) = index + count + 1 := by omega
      rw [next]
      omega

theorem monthStart_le {earlier later : ℤ} (before : earlier ≤ later) :
    monthStart earlier ≤ monthStart later := by
  have added := monthStart_add earlier (later - earlier).toNat
  have reached : earlier + ((later - earlier).toNat : ℤ) = later := by omega
  rw [reached] at added
  omega

def CivilTime.monthIndex (shown : CivilTime) : ℤ :=
  12 * shown.year + shown.month - 1

theorem CivilTime.monthIndex_spec (reading : ℤ) :
    monthStart (ofReading reading).monthIndex ≤ reading / 86400000000 ∧
      reading / 86400000000 < monthStart ((ofReading reading).monthIndex + 1) := by
  have first := (ofReading reading).day_pos
  have last := (ofReading reading).day_le
  have positive := (ofReading reading).month_pos
  have bounded := (ofReading reading).month_le
  have date := dayNumber_ofReading reading
  rw [dayNumber_eq_monthStart] at date
  have index : (ofReading reading).monthIndex =
      12 * (ofReading reading).year + (((ofReading reading).month - 1 : ℕ) : ℤ) := by
    unfold CivilTime.monthIndex
    omega
  have length := monthStart_succ (ofReading reading).year
    (by omega : (ofReading reading).month - 1 < 12)
  rw [← index, Nat.sub_add_cancel positive] at length
  change monthStart (ofReading reading).monthIndex + _ = _ at date
  omega

theorem CivilTime.monthIndex_eq {reading index : ℤ}
    (first : monthStart index ≤ reading / 86400000000)
    (last : reading / 86400000000 < monthStart (index + 1)) :
    (ofReading reading).monthIndex = index := by
  obtain ⟨lower, upper⟩ := CivilTime.monthIndex_spec reading
  rcases Int.lt_trichotomy (ofReading reading).monthIndex index with before | same | after
  · have early := monthStart_le (by omega : (ofReading reading).monthIndex + 1 ≤ index)
    omega
  · exact same
  · have late := monthStart_le (by omega : index + 1 ≤ (ofReading reading).monthIndex)
    omega

end FiksOpp.CivilCalendar
