/-
The timestamps of a booking: texts printed by `DateFormat(BOOKING_SAVE_FORMAT)`
and read by `DateTime.parse`, and the duration a hold request is sent with.

The formatter is the `intl` package's, described by what it prints for the one
pattern; the time zone is the platform's, described by how far its clock is ahead
and by the instant it takes for a clock reading.
-/

import FiksOpp.Foundations.CivilCalendar

namespace FiksOpp.BookingTimestamps

open IsoDateTime
open CivilCalendar

def bookingSaveFormat : String :=
  "yyyy-MM-dd kk:mm:ss"

/-- `yyyy` prints the year without its sign, `kk` counts the hours from 1 to 24. -/
structure DateFormat where
  format : String → CivilTime → List Char
  format_save : ∀ shown, format bookingSaveFormat shown =
    secondsText shown.year.natAbs shown.month shown.day
      (if shown.hour = 0 then 24 else shown.hour) shown.minute shown.second

/-- A time zone: instants and readings in microseconds, offsets in seconds. -/
structure Zone where
  offset : ℤ → ℤ
  resolve : ℤ → ℤ
  offset_bounds : ∀ instant, -86400 < offset instant ∧ offset instant < 86400
  resolve_bounds : ∀ reading, ∃ seconds, -86400 < seconds ∧ seconds < 86400 ∧
    resolve reading = reading - seconds * 1000000
  /-- Clocks are changed at whole seconds. -/
  offset_whole : ∀ instant, offset (instant - instant % 1000000) = offset instant
  /-- A reading that the clock shows is taken for an instant at which it shows it. -/
  resolve_shown : ∀ instant,
    resolve (instant + offset instant * 1000000) +
        offset (resolve (instant + offset instant * 1000000)) * 1000000 =
      instant + offset instant * 1000000

def Zone.clockOf (zone : Zone) (instant : ℤ) : ℤ :=
  instant + zone.offset instant * 1000000

def Zone.fixed (seconds : ℤ) (bounds : -86400 < seconds ∧ seconds < 86400) : Zone where
  offset _ := seconds
  resolve reading := reading - seconds * 1000000
  offset_bounds _ := bounds
  resolve_bounds _ := ⟨seconds, bounds.1, bounds.2, rfl⟩
  offset_whole _ := rfl
  resolve_shown _ := by omega

section Client

variable (dateFormat : DateFormat) (zone : Zone)

/-- `DateTime.parse`: a text without an offset is read on the zone's clock. -/
def parseIn (text : List Char) : Option Instant :=
  match readFields text with
  | none => none
  | some found =>
      let absolute : Instant :=
        { microseconds :=
            if found.instant.isUtc then found.instant.microseconds
            else zone.resolve found.instant.microseconds
          isUtc := found.instant.isUtc }
      if inRange absolute then some absolute else none

def saveText (now : ℤ) : List Char :=
  dateFormat.format bookingSaveFormat (ofReading (zone.clockOf now))

def inSeconds (started ended : ℤ) : ℤ :=
  (ended - started).tdiv 1000000

/-- The `duration_diff` of `saveHoldClick`; nothing where a text is not read, which
throws before the request. -/
def durationDiff (now : ℤ) (startAt : Option (List Char)) : Option ℤ :=
  match parseIn zone (saveText dateFormat zone now) with
  | none => none
  | some ended =>
      match parseIn zone (startAt.getD []) with
      | none => none
      | some started => some (inSeconds started.microseconds ended.microseconds)

def truncated (instant : ℤ) : ℤ :=
  instant - instant % 1000000

def atInstant (instant : ℤ) : Instant :=
  { microseconds := instant, isUtc := false }

def RoundTrips (now : ℤ) : Prop :=
  parseIn zone (saveText dateFormat zone now) = some (atInstant (truncated now))

def SendsElapsed (now : ℤ) : Prop :=
  ∀ startAt start, parseIn zone startAt = some start →
    durationDiff dateFormat zone now (some startAt) =
      some (inSeconds start.microseconds (truncated now))

/-- The year is not negative, and the zone takes the clock reading for the instant, or
the reading a day later where the hour is 0. -/
def ReadsBack (now : ℤ) : Prop :=
  let shown := ofReading (zone.clockOf now)
  0 ≤ shown.year ∧
    zone.resolve
        (truncated (zone.clockOf now) + if shown.hour = 0 then 86400000000 else 0) =
      truncated now

end Client

def printedReading (shown : CivilTime) : ℤ :=
  dayNumber shown.year.natAbs shown.month shown.day * 86400000000 +
    clock (if shown.hour = 0 then 24 else shown.hour : ℕ) shown.minute shown.second 0

theorem readFields_format (dateFormat : DateFormat) {shown : CivilTime}
    (yearSmall : shown.year.natAbs ≤ 999999) :
    ∃ found, readFields (dateFormat.format bookingSaveFormat shown) = some found ∧
      found.instant = atInstant (printedReading shown) := by
  have month := shown.month_le
  have day := shown.day_le_31
  have hour := shown.hour_lt
  have minute := shown.minute_lt
  have second := shown.second_lt
  have hourSmall : (if shown.hour = 0 then 24 else shown.hour) < 100 := by
    split <;> omega
  have read := @readFields_secondsText _ shown.month shown.day _ shown.minute shown.second
    yearSmall (by omega) (by omega) hourSmall (by omega) (by omega)
  rw [← dateFormat.format_save] at read
  refine ⟨_, read, ?_⟩
  unfold Fields.instant atInstant printedReading
  simp only [Option.getD_none, zero_mul, sub_zero, Option.isSome_none]

theorem printedReading_of_nonneg {reading : ℤ} (nonneg : 0 ≤ (ofReading reading).year) :
    printedReading (ofReading reading) =
      truncated reading + if (ofReading reading).hour = 0 then 86400000000 else 0 := by
  have whole := reading_ofReading reading
  have small := (ofReading reading).microsecond_lt
  have same : ((ofReading reading).year.natAbs : ℤ) = (ofReading reading).year :=
    Int.natAbs_of_nonneg nonneg
  unfold CivilTime.reading clock at whole
  unfold printedReading clock truncated
  rw [same]
  split
  · omega
  · omega

/-- A year before year 0 is read without its sign, which is two years away at least. -/
theorem printedReading_of_neg {reading : ℤ} (negative : (ofReading reading).year < 0) :
    reading + 300 * 86400000000 < printedReading (ofReading reading) := by
  have whole := reading_ofReading reading
  have hour := (ofReading reading).hour_lt
  have minute := (ofReading reading).minute_lt
  have second := (ofReading reading).second_lt
  have small := (ofReading reading).microsecond_lt
  have later := daysBeforeYear_strict
    (by omega : (ofReading reading).year < (ofReading reading).year + 1)
  have muchLater := daysBeforeYear_strict
    (by omega : (ofReading reading).year + 1 < ((ofReading reading).year.natAbs : ℤ))
  have before := daysBeforeMonth_bounds (isLeapYear (ofReading reading).year)
    ((ofReading reading).month - 1)
  have after := daysBeforeMonth_bounds (isLeapYear ((ofReading reading).year.natAbs : ℤ))
    ((ofReading reading).month - 1)
  unfold CivilTime.reading clock at whole
  unfold printedReading clock
  rw [dayNumber_of_month (ofReading reading).month_pos (ofReading reading).month_le]
    at whole ⊢
  omega

/-! ### The round trip -/

theorem inRange_atInstant (instant : ℤ) :
    inRange (atInstant instant) = true ↔
      -8640000000000000000 ≤ instant - 719528 * 86400000000 ∧
        instant - 719528 * 86400000000 ≤ 8640000000000000000 := by
  unfold inRange atInstant
  rw [Bool.and_eq_true, decide_eq_true_eq, decide_eq_true_eq]

section RoundTrip

variable (dateFormat : DateFormat) (zone : Zone)

theorem parseIn_saveText {now : ℤ} (inside : inRange (atInstant now) = true) :
    parseIn zone (saveText dateFormat zone now) =
      let ended := atInstant (zone.resolve (printedReading (ofReading (zone.clockOf now))))
      if inRange ended then some ended else none := by
  have range := (inRange_atInstant now).mp inside
  have ahead := zone.offset_bounds now
  have yearSmall : (ofReading (zone.clockOf now)).year.natAbs ≤ 999999 := by
    apply year_ofReading_bounds
    unfold Zone.clockOf
    omega
  obtain ⟨found, read, same⟩ := readFields_format dateFormat yearSmall
  unfold parseIn saveText
  rw [read]
  dsimp only
  rw [same]
  rfl

theorem roundTrips_iff {now : ℤ} (inside : inRange (atInstant now) = true) :
    RoundTrips dateFormat zone now ↔
      zone.resolve (printedReading (ofReading (zone.clockOf now))) = truncated now := by
  have range := (inRange_atInstant now).mp inside
  have whole : inRange (atInstant (truncated now)) = true := by
    rw [inRange_atInstant]
    unfold truncated
    omega
  unfold RoundTrips
  rw [parseIn_saveText dateFormat zone inside]
  dsimp only
  constructor
  · intro read
    split at read
    · have same := Option.some.inj read
      exact congrArg Instant.microseconds same
    · cases read
  · intro same
    rw [same, if_pos whole]

theorem readsBack_iff {now : ℤ} :
    zone.resolve (printedReading (ofReading (zone.clockOf now))) = truncated now ↔
      ReadsBack zone now := by
  unfold ReadsBack
  dsimp only
  by_cases nonneg : 0 ≤ (ofReading (zone.clockOf now)).year
  · rw [printedReading_of_nonneg nonneg]
    exact (and_iff_right nonneg).symm
  · refine iff_of_false ?_ (fun both => nonneg both.1)
    intro same
    have later := @printedReading_of_neg (zone.clockOf now) (by omega)
    have ahead := zone.offset_bounds now
    obtain ⟨seconds, above, below, resolved⟩ :=
      zone.resolve_bounds (printedReading (ofReading (zone.clockOf now)))
    rw [resolved] at same
    unfold Zone.clockOf at later same
    unfold truncated at same
    omega

theorem parseIn_epoch :
    parseIn zone "1970-01-01T00:00:00Z".toList =
      some { microseconds := 719528 * 86400000000, isUtc := true } := by
  have read : readFields "1970-01-01T00:00:00Z".toList =
      some { year := 1970, month := 1, day := 1, offset := some 0 } := by decide +kernel
  unfold parseIn
  rw [read]
  rfl

theorem eq_zero_of_tdiv {span : ℤ} (whole : span % 1000000 = 0)
    (zero : span.tdiv 1000000 = 0) : span = 0 := by
  have seconds : span = 1000000 * (span / 1000000) := by omega
  rw [seconds, Int.mul_tdiv_cancel_left _ (by decide)] at zero
  omega

theorem printedReading_mod (shown : CivilTime) : printedReading shown % 1000000 = 0 := by
  unfold printedReading clock
  omega

theorem sendsElapsed_of_roundTrips {now : ℤ} (roundTrips : RoundTrips dateFormat zone now) :
    SendsElapsed dateFormat zone now := by
  intro startAt start read
  unfold RoundTrips at roundTrips
  unfold durationDiff
  rw [roundTrips]
  dsimp only
  rw [Option.getD_some, read]
  rfl

/-- A booking that starts when the hold is sent tells the two instants apart. -/
theorem roundTrips_of_sendsElapsed {now : ℤ} (inside : inRange (atInstant now) = true)
    (sends : SendsElapsed dateFormat zone now) : RoundTrips dateFormat zone now := by
  have printed := parseIn_saveText dateFormat zone inside
  dsimp only at printed
  rw [roundTrips_iff dateFormat zone inside]
  by_cases range : inRange (atInstant (zone.resolve
      (printedReading (ofReading (zone.clockOf now))))) = true
  · rw [if_pos range] at printed
    have sent := sends _ _ printed
    unfold durationDiff at sent
    rw [Option.getD_some, printed] at sent
    have zero := Option.some.inj sent
    obtain ⟨seconds, _, _, resolved⟩ :=
      zone.resolve_bounds (printedReading (ofReading (zone.clockOf now)))
    unfold inSeconds atInstant at zero
    dsimp only at zero
    rw [sub_self, Int.zero_tdiv, resolved] at zero
    rw [resolved]
    have whole := printedReading_mod (ofReading (zone.clockOf now))
    have exact_ := eq_zero_of_tdiv (by unfold truncated; omega) zero.symm
    omega
  · rw [if_neg range] at printed
    have sent := sends _ _ (parseIn_epoch zone)
    unfold durationDiff at sent
    rw [printed] at sent
    cases sent

end RoundTrip

/-- A timestamp is read back, and the elapsed seconds are sent for every start,
exactly when the printed reading is taken for the instant.  In the hour after
midnight it is not wherever the clock shows the reading a day later too, and where
clocks are never changed the hour and the sign of the year decide. -/
theorem bookingTimestamps_iff (dateFormat : DateFormat) (zone : Zone) :
    (∀ now, inRange (atInstant now) = true →
      ((RoundTrips dateFormat zone now ∧ SendsElapsed dateFormat zone now) ↔
        ReadsBack zone now)) ∧
    (∀ now later, zone.clockOf later = truncated (zone.clockOf now) + 86400000000 →
      ReadsBack zone now → (ofReading (zone.clockOf now)).hour ≠ 0) ∧
    ∀ seconds bounds now, ReadsBack (Zone.fixed seconds bounds) now ↔
      0 ≤ (ofReading ((Zone.fixed seconds bounds).clockOf now)).year ∧
        (ofReading ((Zone.fixed seconds bounds).clockOf now)).hour ≠ 0 := by
  refine ⟨?_, ?_, ?_⟩
  · intro now inside
    rw [← readsBack_iff zone, ← roundTrips_iff dateFormat zone inside]
    constructor
    · intro both
      exact both.1
    · intro roundTrips
      exact ⟨roundTrips, sendsElapsed_of_roundTrips dateFormat zone roundTrips⟩
  · intro now later shown readsBack midnight
    have same := readsBack.2
    have taken := zone.resolve_shown later
    change zone.resolve (zone.clockOf later) +
      zone.offset (zone.resolve (zone.clockOf later)) * 1000000 = zone.clockOf later at taken
    rw [if_pos midnight, ← shown] at same
    have ahead := zone.offset_whole now
    rw [same, shown] at taken
    unfold truncated Zone.clockOf at taken
    rw [ahead] at taken
    omega
  · intro seconds bounds now
    unfold ReadsBack
    dsimp only
    apply and_congr_right
    intro _
    change truncated (now + seconds * 1000000) + _ - seconds * 1000000 = truncated now ↔ _
    unfold truncated
    split
    · rename_i midnight
      exact iff_of_false (by omega) (fun other => other midnight)
    · rename_i other
      exact iff_of_true (by omega) other

/-- Numbers are printed with zeros in front. -/
def intlDateFormat : DateFormat where
  format pattern shown :=
    if pattern = bookingSaveFormat then
      secondsText shown.year.natAbs shown.month shown.day
        (if shown.hour = 0 then 24 else shown.hour) shown.minute shown.second
    else []
  format_save _ := if_pos rfl

def norwegianWinter : Zone :=
  Zone.fixed 3600 (by decide)

def afternoon : ℤ :=
  (740045 * 86400 + 13 * 3600 + 30 * 60) * 1000000

def afterMidnight : ℤ :=
  (740045 * 86400 + 23 * 3600 + 30 * 60) * 1000000

theorem bookingTimestamps_iff_example :
    RoundTrips intlDateFormat norwegianWinter afternoon ∧
      SendsElapsed intlDateFormat norwegianWinter afternoon ∧
      (ofReading (norwegianWinter.clockOf afternoon)).hour ≠ 0 := by
  have spec := bookingTimestamps_iff intlDateFormat norwegianWinter
  have other : (ofReading (norwegianWinter.clockOf afternoon)).hour ≠ 0 := by decide +kernel
  have readsBack : ReadsBack norwegianWinter afternoon :=
    (spec.2.2 3600 (by decide) afternoon).mpr ⟨by decide +kernel, other⟩
  have both := (spec.1 afternoon (by decide +kernel)).mpr readsBack
  have hour := spec.2.1 afternoon (afternoon + 86400000000) (by decide +kernel) readsBack
  exact ⟨both.1, both.2, hour⟩

/-- Half an hour after midnight is printed as `2026-03-06 24:30:00`, which is read
as half an hour after the next midnight. -/
theorem afterMidnight_not_roundTrips :
    saveText intlDateFormat norwegianWinter afterMidnight = "2026-03-06 24:30:00".toList ∧
      ¬ ∀ dateFormat zone now, inRange (atInstant now) = true →
        RoundTrips dateFormat zone now ∧ SendsElapsed dateFormat zone now := by
  constructor
  · decide +kernel
  · intro always
    have read := (always intlDateFormat norwegianWinter afterMidnight (by decide +kernel)).1
    have printed : parseIn norwegianWinter
        (saveText intlDateFormat norwegianWinter afterMidnight) =
          some (atInstant (afterMidnight + 86400000000)) := by decide +kernel
    unfold RoundTrips at read
    rw [printed] at read
    cases read

end FiksOpp.BookingTimestamps
