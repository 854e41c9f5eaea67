/-
When a booking starts: the readers of its date and its slot.

The cancellation fee reads the date alone, the screens print the day of the date and
the time of the slot, and the edit button reads both from one text.  The first part is
about the window in which cancelling is charged for, the second about the three readers.
The texts are the ones that the readers' patterns spell; the formatter is the `intl`
package's, described by what it prints and reads for them.
-/

import FiksOpp.BookingDetailAction
import FiksOpp.BookingTimestamps

namespace FiksOpp.BookingStart

open IsoDateTime
open CivilCalendar
open BookingTimestamps (Zone parseIn atInstant inRange_atInstant)

structure AppConfigurationStore where
  cancellationCharge : Bool
  cancellationChargeHours : ℤ
  deriving DecidableEq, Repr

def inHours (span : ℤ) : ℤ :=
  span.tdiv 3600000000

/-- Both of the later branches of the source answer no. -/
def checkTimeDifference (appConfigurationStore : AppConfigurationStore)
    (inputDateTime currentTime : ℤ) : Bool :=
  decide (currentTime < inputDateTime) &&
    decide (inHours (inputDateTime - currentTime) ≤
      appConfigurationStore.cancellationChargeHours)

inductive CancelDialog where
  | cancellationsBookingChargeDialog
  | reasonDialog
  deriving DecidableEq, Repr

inductive CancelClick where
  | nothing
  | showInDialog (dialog : CancelDialog)
  | throws
  deriving DecidableEq, Repr

def handleCancelClick (appConfigurationStore : AppConfigurationStore)
    (status : BookingDetailResponse) (isDurationMode : Bool) : CancelClick :=
  if status.bookingDetail.status = some .pending ∨
      status.bookingDetail.status = some .accept then
    if isDurationMode then
      match status.service with
      | none => .throws
      | some service =>
          if !service.isFreeService && appConfigurationStore.cancellationCharge then
            .showInDialog .cancellationsBookingChargeDialog
          else .showInDialog .reasonDialog
    else .showInDialog .reasonDialog
  else .nothing

/-- The button's `onTap`, with the instant that its date was read as. -/
def onCancelTap (appConfigurationStore : AppConfigurationStore) (status : BookingDetailResponse)
    (inputDateTime : Option Instant) (currentTime : ℤ) : CancelClick :=
  match inputDateTime with
  | none => .throws
  | some start =>
      handleCancelClick appConfigurationStore status
        (checkTimeDifference appConfigurationStore start.microseconds currentTime)

def InWindow (hours start now : ℤ) : Prop :=
  0 < start - now ∧ start - now ≤ hours * 3600000000

theorem inHours_le_iff {span hours : ℤ} (positive : 0 < span) :
    inHours span ≤ hours ↔ span < (hours + 1) * 3600000000 := by
  unfold inHours
  rw [Int.tdiv_eq_ediv_of_nonneg positive.le]
  omega

theorem checkTimeDifference_iff (appConfigurationStore : AppConfigurationStore)
    (start now : ℤ) :
    checkTimeDifference appConfigurationStore start now = true ↔
      0 < start - now ∧
        start - now < (appConfigurationStore.cancellationChargeHours + 1) * 3600000000 := by
  unfold checkTimeDifference
  rw [Bool.and_eq_true, decide_eq_true_eq, decide_eq_true_eq, Int.sub_pos]
  apply and_congr_right
  intro later
  exact inHours_le_iff (Int.sub_pos.mpr later)

section Charge

variable {appConfigurationStore : AppConfigurationStore} {status : BookingDetailResponse}
  {service : ServiceData}

theorem handleCancelClick_charges_iff
    (cancellable : status.bookingDetail.status = some .pending ∨
      status.bookingDetail.status = some .accept)
    (served : status.service = some service) (paid : service.isFreeService = false)
    (charges : appConfigurationStore.cancellationCharge = true) (isDurationMode : Bool) :
    handleCancelClick appConfigurationStore status isDurationMode =
        .showInDialog .cancellationsBookingChargeDialog ↔ isDurationMode = true := by
  unfold handleCancelClick
  rw [if_pos cancellable, served]
  cases isDurationMode with
  | true =>
      dsimp only
      rw [if_pos rfl, paid, charges]
      exact iff_of_true rfl rfl
  | false =>
      rw [if_neg Bool.false_ne_true]
      exact iff_of_false nofun Bool.false_ne_true

/-- The charge is asked for exactly in the window, unless the booking starts less than an
hour after its end. -/
theorem cancellationCharge_iff
    (cancellable : status.bookingDetail.status = some .pending ∨
      status.bookingDetail.status = some .accept)
    (served : status.service = some service) (paid : service.isFreeService = false)
    (charges : appConfigurationStore.cancellationCharge = true)
    (nonneg : 0 ≤ appConfigurationStore.cancellationChargeHours) (start : Instant) (now : ℤ) :
    (onCancelTap appConfigurationStore status (some start) now =
          .showInDialog .cancellationsBookingChargeDialog ↔
        InWindow appConfigurationStore.cancellationChargeHours start.microseconds now) ↔
      ¬ (appConfigurationStore.cancellationChargeHours * 3600000000 <
            start.microseconds - now ∧
          start.microseconds - now <
            (appConfigurationStore.cancellationChargeHours + 1) * 3600000000) := by
  unfold onCancelTap InWindow
  rw [handleCancelClick_charges_iff cancellable served paid charges, checkTimeDifference_iff]
  omega

end Charge

def dayCharge : AppConfigurationStore :=
  { cancellationCharge := true, cancellationChargeHours := 24 }

def pendingBooking : BookingDetailResponse :=
  { bookingDetail := { status := some .pending }
    service := some { price := some 100 } }

def morning : Instant :=
  atInstant ((740045 * 86400 + 10 * 3600) * 1000000)

theorem cancellationCharge_iff_hour_before :
    (onCancelTap dayCharge pendingBooking (some morning) (morning.microseconds - 3600000000) =
        .showInDialog .cancellationsBookingChargeDialog ↔
      InWindow dayCharge.cancellationChargeHours morning.microseconds
        (morning.microseconds - 3600000000)) :=
  (cancellationCharge_iff (Or.inl rfl) rfl (by decide +kernel) rfl (by decide) morning
    (morning.microseconds - 3600000000)).mpr (by decide +kernel)

/-- Twenty-four and a half hours before the start, a window of twenty-four is charged. -/
theorem half_hour_early_counterexample :
    onCancelTap dayCharge pendingBooking (some morning)
        (morning.microseconds - 49 * 1800000000) =
      .showInDialog .cancellationsBookingChargeDialog ∧
    ¬ InWindow dayCharge.cancellationChargeHours morning.microseconds
        (morning.microseconds - 49 * 1800000000) := by
  constructor
  · decide +kernel
  · rintro ⟨_, within⟩
    revert within
    decide +kernel

/-! ### The three readers of the start -/

structure BookingTexts where
  date : Option (List Char)
  bookingSlot : Option (List Char)
  deriving DecidableEq, Repr

structure TimeOfDay where
  hour : ℕ
  minute : ℕ
  second : ℕ
  hour_lt : hour < 24
  minute_lt : minute < 60
  second_lt : second < 60

namespace TimeOfDay

def text (time : TimeOfDay) : List Char :=
  paddedNumber 2 time.hour ++ ':' :: (paddedNumber 2 time.minute ++
    ':' :: paddedNumber 2 time.second)

def onClock (time : TimeOfDay) : ℤ :=
  clock time.hour time.minute time.second 0

theorem onClock_bounds (time : TimeOfDay) : 0 ≤ time.onClock ∧ time.onClock < 86400000000 := by
  have hour := time.hour_lt
  have minute := time.minute_lt
  have second := time.second_lt
  unfold onClock clock
  omega

theorem eq_of_onClock {left right : TimeOfDay} (same : left.onClock = right.onClock) :
    left = right := by
  obtain ⟨hour, minute, second, hour_lt, minute_lt, second_lt⟩ := left
  obtain ⟨hour', minute', second', hour_lt', minute_lt', second_lt'⟩ := right
  unfold onClock clock at same
  dsimp only at same
  rw [mk.injEq]
  omega

end TimeOfDay

def timeOf (shown : CivilTime) : TimeOfDay :=
  { hour := shown.hour
    minute := shown.minute
    second := shown.second
    hour_lt := shown.hour_lt
    minute_lt := shown.minute_lt
    second_lt := shown.second_lt }

def dayReading (shown : CivilTime) : ℤ :=
  dayNumber shown.year shown.month shown.day * 86400000000

def printed (shown : CivilTime) : List Char :=
  dateText shown.year.natAbs shown.month shown.day (' ' :: (timeOf shown).text)

def savePattern : String :=
  "yyyy-MM-dd HH:mm:ss"

def clockPattern : String :=
  "HH:mm:ss"

/-- The package's `DateFormat`.  A reading is the clock reading that the numbers of a text
spell; numbers that the pattern leaves out are those of the beginning of 1970. -/
structure Intl where
  format : String → CivilTime → List Char
  parse : String → List Char → Option ℤ
  format_save : ∀ shown, format savePattern shown = printed shown
  parse_save : ∀ shown, 0 ≤ shown.year → shown.year ≤ 9999 →
    parse savePattern (printed shown) = some (dayReading shown + (timeOf shown).onClock)
  parse_clock : ∀ time : TimeOfDay,
    parse clockPattern time.text = some (719528 * 86400000000 + time.onClock)

section Readers

variable (intl : Intl) (zone : Zone)

def shownFor (reading : ℤ) : ℤ :=
  zone.clockOf (zone.resolve reading)

def clockReading (dateTime : Instant) : ℤ :=
  if dateTime.isUtc then dateTime.microseconds else zone.clockOf dateTime.microseconds

/-- Nothing where a text is not read, which throws. -/
def getSlotWithDate (date slotTime : List Char) : Option (List Char) :=
  match intl.parse savePattern date, intl.parse clockPattern slotTime with
  | some original, some new =>
      let originalDateTime := ofReading (shownFor zone original)
      let newTime := ofReading (shownFor zone new)
      some (intl.format savePattern (ofReading (shownFor zone
        (dayReading originalDateTime + (timeOf newTime).onClock))))
  | _, _ => none

def feeStart (booking : BookingTexts) : Option Instant :=
  parseIn zone (booking.date.getD [])

/-- The date-time of which `buildTimeString` and `buildTimeWidget` print the time. -/
def buildTime (booking : BookingTexts) : Option Instant :=
  match booking.bookingSlot with
  | none => parseIn zone (booking.date.getD [])
  | some slotTime =>
      match getSlotWithDate intl zone (booking.date.getD []) slotTime with
      | none => none
      | some text => parseIn zone text

/-- The reading on the screen: `formatDate(date)` and the time beside it. -/
def displayedStart (booking : BookingTexts) : Option ℤ :=
  match parseIn zone (booking.date.getD []), buildTime intl zone booking with
  | some date, some time =>
      some (clockReading zone date / 86400000000 * 86400000000 +
        clockReading zone time % 86400000000)
  | _, _ => none

def firstWord (text : List Char) : List Char :=
  text.takeWhile fun char => char != ' '

/-- The instant that `isDateTimeAfterNow` compares with the clock. -/
def editStart (booking : BookingTexts) : Option Instant :=
  match booking.bookingSlot with
  | some slot => parseIn zone (firstWord (booking.date.getD []) ++ ' ' :: slot)
  | none => parseIn zone (booking.date.getD [])

/-- What cannot be read counts as past. -/
def isDateTimeAfterNow (booking : BookingTexts) (now : ℤ) : Bool :=
  match editStart zone booking with
  | some start => decide (now < start.microseconds)
  | none => false

/-- The three readers agree, the screen by the reading that the clock shows at the start. -/
def SameStart (booking : BookingTexts) : Prop :=
  editStart zone booking = feeStart zone booking ∧
    displayedStart intl zone booking = (feeStart zone booking).map (clockReading zone)

end Readers

/-- A booking whose texts the patterns spell: a date with a time of day, and a slot. -/
structure SlotBooking where
  date : CivilTime
  slot : TimeOfDay
  year_pos : 1 ≤ date.year
  year_le : date.year ≤ 9999

namespace SlotBooking

def texts (booking : SlotBooking) : BookingTexts :=
  { date := some (printed booking.date), bookingSlot := some booking.slot.text }

def dateReading (booking : SlotBooking) : ℤ :=
  dayReading booking.date + (timeOf booking.date).onClock

def slotReading (booking : SlotBooking) : ℤ :=
  dayReading booking.date + booking.slot.onClock

end SlotBooking

theorem dayReading_bounds {shown : CivilTime} (year_pos : 1 ≤ shown.year)
    (year_le : shown.year ≤ 9999) :
    366 * 86400000000 ≤ dayReading shown ∧ dayReading shown ≤ 3700000 * 86400000000 := by
  have before := daysBeforeMonth_bounds (isLeapYear shown.year) (shown.month - 1)
  have day := shown.day_le_31
  have first := shown.day_pos
  unfold dayReading
  rw [dayNumber_of_month shown.month_pos shown.month_le]
  unfold daysBeforeYear
  omega

theorem year_nonneg_of_reading {reading : ℤ} (nonneg : 0 ≤ reading) :
    0 ≤ (ofReading reading).year := by
  by_contra negative
  have spec := (yearOf_spec (reading / 86400000000)).2
  have later := @daysBeforeYear_strict (ofReading reading).year 0 (by omega)
  change _ < daysBeforeYear ((ofReading reading).year + 1) at spec
  unfold daysBeforeYear at spec later
  omega

theorem reading_of_whole {reading : ℤ} (whole : reading % 1000000 = 0) :
    dayReading (ofReading reading) + (timeOf (ofReading reading)).onClock = reading := by
  have day := dayNumber_ofReading reading
  have time := clock_ofReading reading
  have micro : ((ofReading reading).microsecond : ℤ) = 0 := by
    unfold clock at time
    have small := (ofReading reading).microsecond_lt
    omega
  rw [micro] at time
  unfold dayReading TimeOfDay.onClock timeOf
  dsimp only
  rw [day, time]
  omega

section Printed

variable (zone : Zone)

theorem shownFor_near (reading : ℤ) :
    reading - 2 * 86400000000 < shownFor zone reading ∧
      shownFor zone reading < reading + 2 * 86400000000 := by
  obtain ⟨seconds, above, below, resolved⟩ := zone.resolve_bounds reading
  have ahead := zone.offset_bounds (zone.resolve reading)
  unfold shownFor Zone.clockOf
  omega

theorem shownFor_whole {reading : ℤ} (whole : reading % 1000000 = 0) :
    shownFor zone reading % 1000000 = 0 := by
  obtain ⟨seconds, _, _, resolved⟩ := zone.resolve_bounds reading
  unfold shownFor Zone.clockOf
  omega

theorem shownFor_shownFor (reading : ℤ) :
    shownFor zone (shownFor zone reading) = shownFor zone reading :=
  zone.resolve_shown (zone.resolve reading)

theorem parseIn_printed {shown : CivilTime} (year_nonneg : 0 ≤ shown.year)
    (bounds : -86400000000 ≤ dayReading shown ∧
      dayReading shown ≤ 3800000 * 86400000000) :
    parseIn zone (printed shown) =
      some (atInstant (zone.resolve (dayReading shown + (timeOf shown).onClock))) := by
  have month := shown.month_le
  have day := shown.day_le_31
  have hour := shown.hour_lt
  have minute := shown.minute_lt
  have second := shown.second_lt
  have yearSmall : shown.year.natAbs ≤ 999999 := by
    have before := daysBeforeMonth_bounds (isLeapYear shown.year) (shown.month - 1)
    have first := shown.day_pos
    unfold dayReading at bounds
    rw [dayNumber_of_month shown.month_pos shown.month_le] at bounds
    unfold daysBeforeYear at bounds
    omega
  have read := @readFields_secondsText shown.year.natAbs shown.month shown.day shown.hour
    shown.minute shown.second yearSmall (by omega) (by omega) (by omega) (by omega) (by omega)
  have same : ((shown.year.natAbs : ℕ) : ℤ) = shown.year := Int.natAbs_of_nonneg year_nonneg
  obtain ⟨seconds, above, below, resolved⟩ :=
    zone.resolve_bounds (dayReading shown + (timeOf shown).onClock)
  have time := (timeOf shown).onClock_bounds
  have inside : inRange (atInstant (zone.resolve
      (dayReading shown + (timeOf shown).onClock))) = true := by
    rw [inRange_atInstant, resolved]
    omega
  have text : printed shown = secondsText shown.year.natAbs shown.month shown.day shown.hour
      shown.minute shown.second := rfl
  unfold parseIn
  rw [text, read]
  unfold Fields.instant
  simp only [Option.getD_none, zero_mul, sub_zero, Option.isSome_none, Bool.false_eq_true,
    if_false, same]
  exact if_pos inside

end Printed

theorem firstWord_printed (shown : CivilTime) :
    firstWord (printed shown) =
      dateText shown.year.natAbs shown.month shown.day [] := by
  have apart : printed shown =
      dateText shown.year.natAbs shown.month shown.day [] ++ ' ' :: (timeOf shown).text := by
    unfold printed dateText
    simp only [List.append_assoc, List.cons_append, List.append_nil]
  have digits : ∀ (width number : ℕ), ∀ char ∈ paddedNumber width number,
      (char != ' ') = true := by
    intro width number char member
    have digit := isDigit_of_mem_paddedNumber member
    rw [bne_iff_ne]
    intro blank
    rw [blank] at digit
    cases digit
  have joined : ∀ char ∈ dateText shown.year.natAbs shown.month shown.day [],
      (char != ' ') = true := by
    intro char member
    unfold dateText at member
    simp only [List.mem_append, List.mem_cons, List.append_nil] at member
    rcases member with inYear | dash | inMonth | dash | inDay
    · exact digits _ _ char inYear
    · rw [dash]
      rfl
    · exact digits _ _ char inMonth
    · rw [dash]
      rfl
    · exact digits _ _ char inDay
  rw [apart, firstWord, List.takeWhile_append_of_pos joined, List.takeWhile_cons_of_neg (by decide),
    List.append_nil]

/-! ### Agreement -/

theorem sameStart_of_no_slot (intl : Intl) (zone : Zone) {booking : BookingTexts}
    (unslotted : booking.bookingSlot = none) : SameStart intl zone booking := by
  unfold SameStart editStart displayedStart buildTime feeStart
  rw [unslotted]
  refine ⟨rfl, ?_⟩
  dsimp only
  cases parseIn zone (booking.date.getD []) with
  | none => rfl
  | some date =>
      dsimp only
      rw [Option.map_some]
      congr 1
      omega

def OnClock (zone : Zone) (booking : SlotBooking) : Prop :=
  shownFor zone booking.dateReading = booking.dateReading ∧
    shownFor zone (719528 * 86400000000 + booking.slot.onClock) =
      719528 * 86400000000 + booking.slot.onClock

theorem onClock_fixed (seconds : ℤ) (bounds : -86400 < seconds ∧ seconds < 86400)
    (reading : ℤ) : shownFor (Zone.fixed seconds bounds) reading = reading := by
  change reading - seconds * 1000000 + seconds * 1000000 = reading
  omega

section Slot

variable (intl : Intl) (zone : Zone) (booking : SlotBooking)

theorem feeStart_texts :
    feeStart zone booking.texts = some (atInstant (zone.resolve booking.dateReading)) := by
  have bounds := dayReading_bounds booking.year_pos booking.year_le
  have positive := booking.year_pos
  exact parseIn_printed zone (by omega) (by omega)

theorem printed_slot :
    ∃ shown : CivilTime, shown.year = booking.date.year ∧
      dayReading shown = dayReading booking.date ∧ timeOf shown = booking.slot ∧
      printed shown = firstWord (printed booking.date) ++ ' ' :: booking.slot.text := by
  refine ⟨{ booking.date with
      hour := booking.slot.hour
      minute := booking.slot.minute
      second := booking.slot.second
      hour_lt := booking.slot.hour_lt
      minute_lt := booking.slot.minute_lt
      second_lt := booking.slot.second_lt }, rfl, rfl, rfl, ?_⟩
  rw [firstWord_printed]
  unfold printed dateText
  simp only [List.append_assoc, List.cons_append, List.append_nil]
  rfl

theorem editStart_texts :
    editStart zone booking.texts = some (atInstant (zone.resolve booking.slotReading)) := by
  obtain ⟨shown, sameYear, sameDay, time, text⟩ := printed_slot booking
  have bounds := dayReading_bounds booking.year_pos booking.year_le
  have positive := booking.year_pos
  have read := @parseIn_printed zone shown (by omega) (by omega)
  rw [text, sameDay, time] at read
  exact read

variable {zone} {booking} (onClock : OnClock zone booking)
include onClock

theorem getSlotWithDate_texts :
    getSlotWithDate intl zone (printed booking.date) booking.slot.text =
      some (printed (ofReading (shownFor zone booking.slotReading))) := by
  have positive := booking.year_pos
  have small := booking.year_le
  have dateClock := (timeOf booking.date).onClock_bounds
  have slotClock := booking.slot.onClock_bounds
  have day : dayReading (ofReading booking.dateReading) = dayReading booking.date := by
    unfold dayReading
    rw [dayNumber_ofReading]
    unfold SlotBooking.dateReading dayReading
    omega
  have slotWhole : (719528 * 86400000000 + booking.slot.onClock) % 1000000 = 0 := by
    unfold TimeOfDay.onClock clock
    omega
  have time : (timeOf (ofReading (719528 * 86400000000 + booking.slot.onClock))).onClock =
      booking.slot.onClock := by
    have whole := reading_of_whole slotWhole
    have sameDay : dayReading (ofReading (719528 * 86400000000 + booking.slot.onClock)) =
        719528 * 86400000000 := by
      unfold dayReading
      rw [dayNumber_ofReading]
      omega
    omega
  unfold getSlotWithDate
  rw [intl.parse_save _ (by omega) small, intl.parse_clock]
  dsimp only
  have dateShown : shownFor zone (dayReading booking.date + (timeOf booking.date).onClock) =
      booking.dateReading := onClock.1
  rw [dateShown, onClock.2, day, time, intl.format_save]
  rfl

theorem buildTime_texts :
    buildTime intl zone booking.texts =
      some (atInstant (zone.resolve (shownFor zone booking.slotReading))) := by
  have bounds := dayReading_bounds booking.year_pos booking.year_le
  have near := shownFor_near zone booking.slotReading
  have slotClock := booking.slot.onClock_bounds
  have whole : booking.slotReading % 1000000 = 0 := by
    unfold SlotBooking.slotReading dayReading TimeOfDay.onClock clock
    omega
  have reading := reading_of_whole (shownFor_whole zone whole)
  have time := (timeOf (ofReading (shownFor zone booking.slotReading))).onClock_bounds
  have expanded : booking.slotReading = dayReading booking.date + booking.slot.onClock := rfl
  have read := parseIn_printed zone
    (@year_nonneg_of_reading (shownFor zone booking.slotReading) (by omega)) (by omega)
  rw [reading] at read
  unfold buildTime SlotBooking.texts
  dsimp only
  rw [Option.getD_some, getSlotWithDate_texts intl onClock]
  exact read

theorem displayedStart_texts :
    displayedStart intl zone booking.texts =
      some (booking.dateReading / 86400000000 * 86400000000 +
        shownFor zone booking.slotReading % 86400000000) := by
  have date := feeStart_texts zone booking
  have dateShown : clockReading zone (atInstant (zone.resolve booking.dateReading)) =
      booking.dateReading := onClock.1
  have slotShown : clockReading zone
      (atInstant (zone.resolve (shownFor zone booking.slotReading))) =
        shownFor zone booking.slotReading := shownFor_shownFor zone booking.slotReading
  unfold feeStart at date
  unfold displayedStart
  rw [date, buildTime_texts intl onClock]
  dsimp only
  rw [dateShown, slotShown]

/-- The three readers of a date with a slot agree exactly if the zone takes the two times
for one instant. -/
theorem sameStart_iff_resolve :
    SameStart intl zone booking.texts ↔
      zone.resolve booking.slotReading = zone.resolve booking.dateReading := by
  unfold SameStart
  rw [editStart_texts, feeStart_texts, displayedStart_texts intl onClock, Option.map_some,
    Option.some.injEq, Option.some.injEq]
  have dateShown : clockReading zone (atInstant (zone.resolve booking.dateReading)) =
      booking.dateReading := onClock.1
  constructor
  · intro both
    exact congrArg Instant.microseconds both.1
  · intro same
    have shown : shownFor zone booking.slotReading = booking.dateReading := by
      unfold shownFor
      rw [same]
      exact onClock.1
    rw [same, dateShown, shown]
    refine ⟨rfl, ?_⟩
    omega

theorem sameStart_iff_slot
    (slotShown : shownFor zone booking.slotReading = booking.slotReading) :
    SameStart intl zone booking.texts ↔ booking.slot = timeOf booking.date := by
  rw [sameStart_iff_resolve intl onClock]
  constructor
  · intro same
    have reading : booking.slotReading = booking.dateReading := by
      rw [← slotShown, ← onClock.1]
      unfold shownFor
      rw [same]
    apply TimeOfDay.eq_of_onClock
    unfold SlotBooking.slotReading SlotBooking.dateReading at reading
    omega
  · intro same
    unfold SlotBooking.slotReading SlotBooking.dateReading
    rw [same]

end Slot

/-- Without a slot the fee, the screens and the edit button start from one instant.  With
one they do exactly if the zone takes the time of the slot and the time of the date for one
instant, which is where the two times are the same, unless the clock is set forward over
one of them. -/
theorem bookingStarts_iff (intl : Intl) (zone : Zone) :
    (∀ booking : BookingTexts, booking.bookingSlot = none → SameStart intl zone booking) ∧
    (∀ booking : SlotBooking, OnClock zone booking →
      (SameStart intl zone booking.texts ↔
        zone.resolve booking.slotReading = zone.resolve booking.dateReading)) ∧
    ∀ booking : SlotBooking, OnClock zone booking →
      shownFor zone booking.slotReading = booking.slotReading →
        (SameStart intl zone booking.texts ↔ booking.slot = timeOf booking.date) := by
  refine ⟨?_, ?_, ?_⟩
  · intro booking unslotted
    exact sameStart_of_no_slot intl zone unslotted
  · intro booking onClock
    exact sameStart_iff_resolve intl onClock
  · intro booking onClock slotShown
    exact sameStart_iff_slot intl onClock slotShown

/-- The numbers are read as `DateTime.parse` reads them. -/
def numbersIntl : Intl where
  format _ shown := printed shown
  parse pattern text :=
    (readFields (if pattern = clockPattern then dateText 1970 1 1 (' ' :: text) else text)).map
      fun found => found.instant.microseconds
  format_save _ := rfl
  parse_save shown year_nonneg year_le := by
    have month := shown.month_le
    have day := shown.day_le_31
    have hour := shown.hour_lt
    have minute := shown.minute_lt
    have second := shown.second_lt
    have same : ((shown.year.natAbs : ℕ) : ℤ) = shown.year := Int.natAbs_of_nonneg year_nonneg
    have read := @readFields_secondsText shown.year.natAbs shown.month shown.day shown.hour
      shown.minute shown.second (by omega) (by omega) (by omega) (by omega) (by omega) (by omega)
    rw [if_neg (by decide)]
    change (readFields (secondsText _ _ _ shown.hour shown.minute shown.second)).map _ = _
    rw [read, Option.map_some]
    unfold Fields.instant dayReading TimeOfDay.onClock timeOf
    simp only [Option.getD_none, zero_mul, sub_zero, same]
  parse_clock time := by
    have hour := time.hour_lt
    have minute := time.minute_lt
    have second := time.second_lt
    have read := @readFields_secondsText 1970 1 1 time.hour time.minute time.second
      (by omega) (by omega) (by omega) (by omega) (by omega) (by omega)
    rw [if_pos rfl]
    change (readFields (secondsText _ _ _ _ _ _)).map _ = _
    rw [read, Option.map_some]
    unfold Fields.instant TimeOfDay.onClock
    simp only [Option.getD_none, zero_mul, sub_zero]
    rfl

def midnightTime : TimeOfDay :=
  timeOf (ofReading 0)

def twoInTheAfternoon : TimeOfDay :=
  timeOf (ofReading (14 * 3600000000))

def fifthOfMarch : CivilTime :=
  ofReading (dayNumber 2026 3 5 * 86400000000)

def marchBooking (time slot : TimeOfDay) : SlotBooking :=
  { date :=
      { fifthOfMarch with
        hour := time.hour
        minute := time.minute
        second := time.second
        hour_lt := time.hour_lt
        minute_lt := time.minute_lt
        second_lt := time.second_lt }
    slot := slot
    year_pos := (by decide +kernel : 1 ≤ fifthOfMarch.year)
    year_le := (by decide +kernel : fifthOfMarch.year ≤ 9999) }

theorem bookingStarts_iff_same_time :
    SameStart numbersIntl BookingTimestamps.norwegianWinter { date := none, bookingSlot := none } ∧
    SameStart numbersIntl BookingTimestamps.norwegianWinter
      (marchBooking twoInTheAfternoon twoInTheAfternoon).texts ∧
    BookingTimestamps.norwegianWinter.resolve
        (marchBooking twoInTheAfternoon twoInTheAfternoon).slotReading =
      BookingTimestamps.norwegianWinter.resolve
        (marchBooking twoInTheAfternoon twoInTheAfternoon).dateReading := by
  have spec := bookingStarts_iff numbersIntl BookingTimestamps.norwegianWinter
  have shown := onClock_fixed 3600 (by decide)
  have same := (spec.2.2 (marchBooking twoInTheAfternoon twoInTheAfternoon)
    ⟨shown _, shown _⟩ (shown _)).mpr rfl
  exact ⟨spec.1 _ rfl, same, (spec.2.1 _ ⟨shown _, shown _⟩).mp same⟩

/-- A slot at two on a date that is stored with midnight: the fee is decided by midnight,
the screens and the edit button go by two. -/
theorem afternoon_slot_counterexample :
    ¬ SameStart numbersIntl BookingTimestamps.norwegianWinter
      (marchBooking midnightTime twoInTheAfternoon).texts := by
  have shown : ∀ reading, shownFor BookingTimestamps.norwegianWinter reading = reading :=
    onClock_fixed 3600 (by decide)
  rw [sameStart_iff_slot numbersIntl ⟨shown _, shown _⟩ (shown _)]
  intro same
  have hours := congrArg TimeOfDay.hour same
  revert hours
  decide +kernel

end FiksOpp.BookingStart
