/-
The month grid of the date range picker, `CustomCalendar`.

The grid is built from the last day of the month before, at its midnight, by whole
numbers of 24 hours, so the clock decides what day a cell shows.  The arrows go to
the first day of the month before, and to the last day of the month after.
-/

import FiksOpp.BookingSlots
import FiksOpp.DateStrip
import FiksOpp.Foundations.CalendarMonths
import FiksOpp.Foundations.EventRun

namespace FiksOpp.CustomCalendar

open BookingTimestamps
open CivilCalendar
open DateStrip
open EventRun
open IsoDateTime

section Grid

variable (zone : Zone)

def shownAt (instant : ℤ) : CivilTime :=
  ofReading (zone.clockOf instant)

def localDate (year month day : ℤ) : ℤ :=
  zone.resolve (dayNumber year month day * oneDay)

def weekday (instant : ℤ) : ℕ :=
  BookingSlots.weekday { microseconds := zone.clockOf instant, isUtc := false }

def monthIndex (instant : ℤ) : ℤ :=
  (shownAt zone instant).monthIndex

/-- The `newDate` of `setListOfDate`: day 0 of the month. -/
def newDate (monthDate : ℤ) : ℤ :=
  localDate zone (shownAt zone monthDate).year (shownAt zone monthDate).month 0

def previousMothDay (monthDate : ℤ) : ℕ :=
  if weekday zone (newDate zone monthDate) < 7 then weekday zone (newDate zone monthDate) else 0

def setListOfDate (monthDate : ℤ) : List ℤ :=
  ((List.range (previousMothDay zone monthDate)).map fun (i : ℕ) =>
      newDate zone monthDate - ((previousMothDay zone monthDate : ℤ) - (i + 1)) * oneDay) ++
    (List.range (42 - previousMothDay zone monthDate)).map fun (i : ℕ) =>
      newDate zone monthDate + (i + 1) * oneDay

/-- All cells lie the same number of days apart. -/
def cell (monthDate : ℤ) (index : ℕ) : ℤ :=
  newDate zone monthDate + (index + 1 - previousMothDay zone monthDate) * oneDay

def mondayOf (day : ℤ) : ℤ :=
  day - (day + 5) % 7

def firstOfMonth (monthDate : ℤ) : ℤ :=
  monthStart (monthIndex zone monthDate)

def lastOfMonth (monthDate : ℤ) : ℤ :=
  monthStart (monthIndex zone monthDate + 1) - 1

/-- Six whole weeks, the first of which holds the first of the month. -/
def ShowsWeeks (monthDate : ℤ) : Prop :=
  (setListOfDate zone monthDate).map (dayOf zone) =
    daysFrom (mondayOf (firstOfMonth zone monthDate))
      (mondayOf (firstOfMonth zone monthDate) + 41)

/-- Each day of the month is in one cell, below the name of its weekday. -/
def ShowsMonthOnce (monthDate : ℤ) : Prop :=
  ∀ day, firstOfMonth zone monthDate ≤ day → day ≤ lastOfMonth zone monthDate →
    ∃ index : ℕ, index < 42 ∧ dayOf zone (cell zone monthDate index) = day ∧
      weekday zone (cell zone monthDate index) = index % 7 + 1 ∧
        ∀ other : ℕ, other < 42 → dayOf zone (cell zone monthDate other) = day → other = index

/-- No change of the clock moves a cell's midnight out of its day. -/
def NoDayLost (monthDate : ℤ) : Prop :=
  ∀ index : ℕ, index < 42 →
    StaysInDay zone (newDate zone monthDate) (cell zone monthDate index) 0

/-- The day before the month begins at a midnight that the zone takes for that day. -/
def StartsInDay (monthDate : ℤ) : Prop :=
  dayOf zone (newDate zone monthDate) = firstOfMonth zone monthDate - 1

theorem weekday_eq (instant : ℤ) :
    (weekday zone instant : ℤ) = (dayOf zone instant + 5) % 7 + 1 := by
  unfold weekday BookingSlots.weekday Instant.dayOf dayOf oneDay
  dsimp only
  omega

theorem previousMothDay_le (monthDate : ℤ) : previousMothDay zone monthDate ≤ 6 := by
  unfold previousMothDay
  split <;> omega

theorem setListOfDate_eq (monthDate : ℤ) :
    setListOfDate zone monthDate = (List.range 42).map (cell zone monthDate) := by
  have few := previousMothDay_le zone monthDate
  have split : 42 = previousMothDay zone monthDate + (42 - previousMothDay zone monthDate) := by
    omega
  rw [split, List.range_add, List.map_append, List.map_map]
  unfold setListOfDate cell
  congr 1
  · apply List.map_congr_left
    intro index _
    ring
  · apply List.map_congr_left
    intro index _
    rw [Function.comp_apply]
    push_cast
    ring

theorem mondayOf_firstOfMonth {monthDate : ℤ} (starts : StartsInDay zone monthDate) :
    mondayOf (firstOfMonth zone monthDate) =
      dayOf zone (newDate zone monthDate) + 1 - previousMothDay zone monthDate := by
  have number := weekday_eq zone (newDate zone monthDate)
  unfold StartsInDay at starts
  unfold previousMothDay mondayOf
  split <;> omega

theorem dayOf_cell_iff (monthDate : ℤ) (index : ℕ) :
    dayOf zone (cell zone monthDate index) =
        dayOf zone (newDate zone monthDate) + (index + 1 - previousMothDay zone monthDate) ↔
      StaysInDay zone (newDate zone monthDate) (cell zone monthDate index) 0 := by
  apply dayOf_eq_iff
  unfold cell
  ring

theorem showsWeeks_iff {monthDate : ℤ} (starts : StartsInDay zone monthDate) :
    ShowsWeeks zone monthDate ↔ NoDayLost zone monthDate := by
  have monday := mondayOf_firstOfMonth zone starts
  unfold ShowsWeeks NoDayLost
  rw [setListOfDate_eq, List.map_map, daysFrom_eq_iff]
  constructor
  · rintro ⟨_, each⟩ index inside
    have shown := each index (by omega)
    rw [Function.comp_apply] at shown
    apply (dayOf_cell_iff zone monthDate index).mp
    omega
  · intro stays
    refine ⟨rfl, fun index inside => ?_⟩
    have shown := (dayOf_cell_iff zone monthDate index).mpr (stays index (by omega))
    rw [Function.comp_apply]
    omega

theorem showsMonthOnce {monthDate : ℤ} (starts : StartsInDay zone monthDate)
    (stays : NoDayLost zone monthDate) : ShowsMonthOnce zone monthDate := by
  have monday := mondayOf_firstOfMonth zone starts
  have shown := fun (index : ℕ) (inside : index < 42) =>
    (dayOf_cell_iff zone monthDate index).mpr (stays index inside)
  have length := (monthStart_lt_succ (monthIndex zone monthDate)).2
  intro day notBefore notAfter
  unfold lastOfMonth at notAfter
  unfold firstOfMonth at notBefore
  unfold mondayOf firstOfMonth at monday
  obtain ⟨index, position⟩ : ∃ index : ℕ,
      (index : ℤ) = day - (monthStart (monthIndex zone monthDate) -
        (monthStart (monthIndex zone monthDate) + 5) % 7) :=
    ⟨(day - (monthStart (monthIndex zone monthDate) -
      (monthStart (monthIndex zone monthDate) + 5) % 7)).toNat, by omega⟩
  have inside : index < 42 := by omega
  have here := shown index inside
  refine ⟨index, inside, by omega, ?_, ?_⟩
  · have number := weekday_eq zone (cell zone monthDate index)
    omega
  · intro other otherInside same
    have there := shown other otherInside
    omega

/-! ### The arrows -/

inductive Arrow where
  | left
  | right
  deriving DecidableEq, Repr

def currentMonthDate (monthDate : ℤ) : Arrow → ℤ
  | .left =>
      localDate zone (shownAt zone monthDate).year ((shownAt zone monthDate).month - 1) 1
  | .right =>
      localDate zone (shownAt zone monthDate).year ((shownAt zone monthDate).month + 2) 0

def arrows : Machine ℤ Arrow Unit where
  next := currentMonthDate zone
  outputs _ _ := []

def Arrow.months : Arrow → ℤ
  | .left => -1
  | .right => 1

/-- The date a constructor makes lies in the day it names, also where the clock is changed
at midnight. -/
def KeepsMidnights : Prop :=
  ∀ day, dayOf zone (zone.resolve (day * oneDay)) = day

variable {zone}

theorem dayOf_localDate (keeps : KeepsMidnights zone) (year month day : ℤ) :
    dayOf zone (localDate zone year month day) =
      monthStart (12 * year + month - 1) + (day - 1) := by
  unfold localDate
  rw [keeps, dayNumber_eq_monthStart]

theorem startsInDay (keeps : KeepsMidnights zone) (monthDate : ℤ) :
    StartsInDay zone monthDate := by
  unfold StartsInDay newDate firstOfMonth
  rw [dayOf_localDate keeps]
  change monthStart (monthIndex zone monthDate) + (0 - 1) = _
  omega

theorem monthIndex_eq_of_dayOf {instant index : ℤ}
    (first : monthStart index ≤ dayOf zone instant)
    (last : dayOf zone instant < monthStart (index + 1)) : monthIndex zone instant = index :=
  CivilTime.monthIndex_eq first last

theorem dayOf_currentMonthDate (keeps : KeepsMidnights zone) (monthDate : ℤ) :
    dayOf zone (currentMonthDate zone monthDate .left) =
        monthStart (monthIndex zone monthDate - 1) ∧
      dayOf zone (currentMonthDate zone monthDate .right) =
        monthStart (monthIndex zone monthDate + 2) - 1 := by
  unfold currentMonthDate monthIndex CivilTime.monthIndex
  dsimp only
  rw [dayOf_localDate keeps, dayOf_localDate keeps]
  constructor
  · rw [sub_self, add_zero]
    congr 1
    ring
  · rw [zero_sub, ← sub_eq_add_neg]
    congr 2
    ring

theorem monthIndex_currentMonthDate (keeps : KeepsMidnights zone) (monthDate : ℤ)
    (arrow : Arrow) :
    monthIndex zone (currentMonthDate zone monthDate arrow) =
      monthIndex zone monthDate + arrow.months := by
  obtain ⟨first, last⟩ := dayOf_currentMonthDate keeps monthDate
  cases arrow with
  | left =>
      have length := (monthStart_lt_succ (monthIndex zone monthDate - 1)).1
      exact monthIndex_eq_of_dayOf (le_of_eq first.symm) (by
        change _ < monthStart (monthIndex zone monthDate - 1 + 1)
        omega)
  | right =>
      have length := (monthStart_lt_succ (monthIndex zone monthDate + 1)).1
      rw [add_assoc, one_add_one_eq_two] at length
      apply monthIndex_eq_of_dayOf
      · rw [last]
        change monthStart (monthIndex zone monthDate + 1) ≤ _
        omega
      · rw [last]
        change _ < monthStart (monthIndex zone monthDate + 1 + 1)
        rw [add_assoc, one_add_one_eq_two]
        omega

theorem monthIndex_run (keeps : KeepsMidnights zone) (start : ℤ) (taps : List Arrow) :
    monthIndex zone ((arrows zone).run start taps) =
      monthIndex zone start + taps.count .right - taps.count .left := by
  induction taps generalizing start with
  | nil => simp [Machine.run]
  | cons arrow rest ih =>
      change monthIndex zone ((arrows zone).run (currentMonthDate zone start arrow) rest) = _
      rw [ih, monthIndex_currentMonthDate keeps]
      cases arrow with
      | left =>
          rw [List.count_cons_self, List.count_cons_of_ne (by decide)]
          unfold Arrow.months
          push_cast
          ring
      | right =>
          rw [List.count_cons_self, List.count_cons_of_ne (by decide)]
          unfold Arrow.months
          push_cast
          ring

/-- However the arrows are tapped, the grid's month is as many months after the first one as
there were more taps on the right arrow than on the left; the grid is six whole weeks
exactly when the clock moves no midnight of it out of its day, and then the month is
complete. -/
theorem grid_after_arrows (zone : Zone) (keeps : KeepsMidnights zone) (start : ℤ)
    (taps : List Arrow) :
    firstOfMonth zone ((arrows zone).run start taps) =
        monthStart (monthIndex zone start + taps.count .right - taps.count .left) ∧
      (ShowsWeeks zone ((arrows zone).run start taps) ↔
        NoDayLost zone ((arrows zone).run start taps)) ∧
      (NoDayLost zone ((arrows zone).run start taps) →
        ShowsMonthOnce zone ((arrows zone).run start taps)) := by
  have starts := startsInDay keeps ((arrows zone).run start taps)
  refine ⟨?_, showsWeeks_iff zone starts, showsMonthOnce zone starts⟩
  unfold firstOfMonth
  rw [monthIndex_run keeps]

end Grid

theorem keepsMidnights_norwegianSpring : KeepsMidnights norwegianSpring := by
  intro day
  unfold dayOf Zone.clockOf norwegianSpring springZone oneDay
  dsimp only
  split_ifs <;> omega

/-- From 1 March 2025, two months on and one back: the grid of April. -/
theorem grid_of_april_2025 :
    firstOfMonth norwegianSpring
        ((arrows norwegianSpring).run (dayNumber 2025 3 1 * oneDay) [.right, .right, .left]) =
      dayNumber 2025 4 1 := by
  have shown := (grid_after_arrows norwegianSpring keepsMidnights_norwegianSpring
    (dayNumber 2025 3 1 * oneDay) [.right, .right, .left]).1
  rw [shown]
  decide +kernel

end FiksOpp.CustomCalendar
