/-
Rescheduling a booking: the edit dialog for a free time, the slot sheet for a slot.

The dialog takes the time for changed when the text of the last pick is not the text it
opened with, which another pattern has printed; the sheet compares the slots and no dates.
Neither asks the clock or the package before an update is sent.
-/

import FiksOpp.BookingStart
import FiksOpp.PastSlots

namespace FiksOpp.Rescheduling

open BookingDates (AppLanguage Settings containsText replaceFirst withoutS dayDigits
  addOrdinalSuffix)
open BookingSlots (ServiceDetail Sheet SheetEvent SlotsState SlotWrite accepts
  openBookingSheet sheetNext sheetOutputs slotInstant slotMinutes slotToWrite usable)
open BookingStart (clockReading shownFor)
open BookingTimestamps (Zone parseIn atInstant)
open CivilCalendar
open EventRun
open IsoDateTime

/-- What the two flows read of a booking; the end date is its package's. -/
structure Booking extends BookingSlots.BookingData where
  endDate : Option String
  deriving DecidableEq, Repr

def Booking.isSlotBooking (booking : Booking) : Bool :=
  booking.bookingSlot.isSome

structure TimeOfDay where
  hour : ℕ
  minute : ℕ
  hour_lt : hour < 24
  minute_lt : minute < 60
  deriving DecidableEq, Repr

def TimeOfDay.fromReading (reading : ℤ) : TimeOfDay :=
  { hour := (ofReading reading).hour
    minute := (ofReading reading).minute
    hour_lt := (ofReading reading).hour_lt
    minute_lt := (ofReading reading).minute_lt }

section Rules

variable (zone : Zone)

/-- Truncated, from 1970 on. -/
def millisecondsSinceEpoch (instant : ℤ) : ℤ :=
  (instant - 719528 * 86400000000).tdiv 1000

/-- The test of `BookServiceScreen.selectDateAndTime`: one minute is tolerated. -/
def isPast (finalDate now : ℤ) : Bool :=
  decide (millisecondsSinceEpoch finalDate < millisecondsSinceEpoch (now - 60000000))

/-- Nothing where there is no end date, or one that cannot be read. -/
def packageExpiry (booking : Booking) : Option Instant :=
  match booking.endDate with
  | none => none
  | some text => if text = "" then none else parseIn zone text.toList

/-- The instant of a clock reading is not past, nor after the package's expiry. -/
def InTime (booking : Booking) (reading now : ℤ) : Prop :=
  isPast (zone.resolve reading) now = false ∧
    ∀ expiry, packageExpiry zone booking = some expiry →
      zone.resolve reading ≤ expiry.microseconds

/-- The minute that is chosen is another than the booking's, and in time. -/
def UpdateDue (booking : Booking) (chosen current : Option ℤ) (now : ℤ) : Prop :=
  ∃ reading, chosen = some reading ∧ current ≠ some reading ∧ InTime zone booking reading now

end Rules

/-- The two branches of `formatDate`, by what the formatter prints of the date. -/
def formatDateBy (print : String → Option (List Char)) (dateFormat : String) (day : ℕ) :
    Option (List Char) :=
  if containsText dateFormat.toList ['d', 'S'] then
    match print dateFormat with
    | none => none
    | some text =>
        if containsText text (dayDigits day) then
          (print (withoutS dateFormat)).map fun plain =>
            replaceFirst plain (dayDigits day) (addOrdinalSuffix day)
        else some text
  else print dateFormat

theorem formatDate_eq_by (intl : BookingDates.Intl) (settings : Settings) (date : DateTime) :
    BookingDates.formatDate intl settings date =
      formatDateBy (fun pattern => intl.format pattern settings.language date)
        settings.dateFormat date.day :=
  rfl

def dateFormat1 : String :=
  "dd-MMM-yyyy hh:mm a"

inductive Picker where
  | closed
  | date (firstDate lastDate : ℤ)
  | time (date : ℤ)
  deriving DecidableEq, Repr

structure Dialog where
  /-- What the booking's date is read as; nothing where it cannot be. -/
  date : Option Instant
  prevDateTimeCont : List Char := []
  dateTimeCont : List Char := []
  /-- The clock reading that the date shows. -/
  selectedDate : Option ℤ := none
  pickedTime : Option TimeOfDay := none
  packageExpiryDate : Option Instant := none
  finalDate : Option ℤ := none
  picker : Picker := .closed
  inFlight : ℕ := 0
  finished : Bool := false
  deriving DecidableEq, Repr

/-- Days are counted on the clock; each `now` is an instant. -/
inductive DialogEvent where
  | selectDateAndTime (now : ℤ)
  | chooseDate (date : Option ℤ)
  | chooseTime (time : Option TimeOfDay)
  | handleSubmitClick (now : ℤ)
  | answer (accepted : Bool)
  | cancel
  deriving DecidableEq, Repr

/-- The slot sheet, with what the booking's date is read as. -/
structure SlotSheet where
  sheet : Sheet
  date : Option Instant
  deriving DecidableEq, Repr

/-- The sheet's events happen at instants; it reads them on the clock. -/
def onClock (zone : Zone) : SheetEvent → SheetEvent
  | .pickDate date now => .pickDate date (zone.clockOf now)
  | .tapSlot index now => .tapSlot index (zone.clockOf now)
  | .rebuild now => .rebuild (zone.clockOf now)
  | .apply confirmed now => .apply confirmed (zone.clockOf now)
  | .answer accepted => .answer accepted
  | .cancel => .cancel

inductive Reschedule where
  | editDialog (dialog : Dialog)
  | slotSheet (sheet : SlotSheet)
  deriving DecidableEq, Repr

inductive RescheduleEvent where
  | inDialog (event : DialogEvent)
  | inSheet (event : SheetEvent)
  deriving DecidableEq, Repr

/-- The date of a request, or what the slot sheet writes into one. -/
inductive Update where
  | editDialog (finalDate : ℤ)
  | slotSheet (write : SlotWrite)
  deriving DecidableEq, Repr

section Flows

-- `DateFormat(pattern, language).format`, nothing where it throws, and `TimeOfDay.format`.
variable (zone : Zone) (toLowerCase : String → String)
  (format : String → AppLanguage → CivilTime → Option (List Char))
  (timeText : TimeOfDay → List Char) (settings : Settings)

def formatDate (reading : ℤ) : Option (List Char) :=
  formatDateBy (fun pattern => format pattern settings.language (ofReading reading))
    settings.dateFormat (ofReading reading).day

def initDialog (booking : Booking) : Dialog :=
  match booking.date with
  | none => { date := none }
  | some text =>
      match parseIn zone text.toList with
      | none => { date := none }
      | some date =>
          let reading := clockReading zone date
          match format dateFormat1 settings.language (ofReading reading) with
          | none => { date := some date }
          | some shown =>
              { date := some date
                prevDateTimeCont := shown
                dateTimeCont := shown
                selectedDate := some reading
                pickedTime := some (TimeOfDay.fromReading reading)
                packageExpiryDate := packageExpiry zone booking }

def onTop (dialog : Dialog) : Bool :=
  !dialog.finished && dialog.picker == .closed

def packageIsExpired (dialog : Dialog) (now : ℤ) : Bool :=
  match dialog.packageExpiryDate with
  | none => false
  | some expiry => decide (expiry.microseconds < now)

def lastDate (dialog : Dialog) : ℤ :=
  match dialog.packageExpiryDate with
  | none => dayNumber 3000 1 1
  | some expiry => clockReading zone expiry / 86400000000

/-- The day of `selectedDate` at `pickedTime`; nothing where one of them is missing. -/
def dialogChosen (dialog : Dialog) : Option ℤ :=
  match dialog.selectedDate, dialog.pickedTime with
  | some date, some time =>
      some (date / 86400000000 * 86400000000 + clock time.hour time.minute 0 0)
  | _, _ => none

def dialogCurrent (dialog : Dialog) : Option ℤ :=
  dialog.date.map fun date => clockReading zone date / 60000000 * 60000000

/-- What a click sends; nothing where it closes the dialog, asks for a date, or throws. -/
def requested (dialog : Dialog) : Option ℤ :=
  if dialog.prevDateTimeCont = dialog.dateTimeCont then none
  else if dialog.dateTimeCont = [] then none
  else dialogChosen dialog

/-- A date that cannot be printed is kept, and the text with it. -/
def takePick (dialog : Dialog) (day : ℤ) (time : TimeOfDay) : Dialog :=
  let date := shownFor zone (day * 86400000000)
  { dialog with
    picker := .closed
    selectedDate := some date
    pickedTime := some time
    dateTimeCont :=
      match formatDate format settings date with
      | none => dialog.dateTimeCont
      | some text => text ++ ' ' :: timeText time }

/-- An accepted update closes what is on top: a picker if there is one. -/
def dialogNext (dialog : Dialog) : DialogEvent → Dialog
  | .selectDateAndTime now =>
      if onTop dialog && !packageIsExpired dialog now then
        { dialog with picker := .date (zone.clockOf now / 86400000000) (lastDate zone dialog) }
      else dialog
  | .chooseDate choice =>
      match dialog.picker with
      | .date firstDate lastDate =>
          match choice with
          | none => { dialog with picker := .closed }
          | some date =>
              if firstDate ≤ date ∧ date ≤ lastDate then { dialog with picker := .time date }
              else dialog
      | _ => dialog
  | .chooseTime choice =>
      match dialog.picker with
      | .time date =>
          match choice with
          | none => { dialog with picker := .closed }
          | some time => takePick zone format timeText settings dialog date time
      | _ => dialog
  | .handleSubmitClick _ =>
      if !onTop dialog then dialog
      else if dialog.prevDateTimeCont = dialog.dateTimeCont then
        { dialog with finished := true }
      else
        match requested dialog with
        | none => dialog
        | some finalDate =>
            { dialog with finalDate := some finalDate, inFlight := dialog.inFlight + 1 }
  | .answer accepted =>
      if dialog.inFlight = 0 then dialog
      else if accepted then
        { dialog with
          date := dialog.finalDate.map fun finalDate => atInstant (zone.resolve finalDate)
          inFlight := dialog.inFlight - 1
          finished := dialog.finished || dialog.picker == .closed
          picker := .closed }
      else { dialog with inFlight := dialog.inFlight - 1 }
  | .cancel => if onTop dialog then { dialog with finished := true } else dialog

def dialogOutputs (dialog : Dialog) : DialogEvent → List Update
  | .handleSubmitClick _ =>
      if onTop dialog then
        (requested dialog).toList.map fun finalDate => .editDialog (shownFor zone finalDate)
      else []
  | _ => []

def printedDate (state : SlotSheet) : Option (List Char) :=
  formatDate format settings state.sheet.slots.selectedHorizontalDate.microseconds

def formatBookingDate (pattern : String) (date : Instant) : String :=
  String.ofList
    ((format pattern settings.language (ofReading date.microseconds)).getD [])

/-- A date that cannot be printed makes an update throw, before it is sent and after. -/
def sheetEvent (state : SlotSheet) : SheetEvent → SheetEvent
  | .apply confirmed now =>
      .apply (confirmed && (printedDate format settings state).isSome) now
  | .answer accepted => .answer (accepted && (printedDate format settings state).isSome)
  | event => event

def slotSheetNext (state : SlotSheet) (event : SheetEvent) : SlotSheet :=
  { sheet :=
      sheetNext toLowerCase settings.language (formatBookingDate format settings) state.sheet
        (onClock zone (sheetEvent format settings state event))
    date :=
      match event, printedDate format settings state with
      | .answer true, some text =>
          if !state.sheet.slots.finished && decide (0 < state.sheet.slots.inFlight) then
            parse text
          else state.date
      | _, _ => state.date }

def slotSheetOutputs (state : SlotSheet) (event : SheetEvent) : List Update :=
  (sheetOutputs toLowerCase settings.language state.sheet
    (onClock zone (sheetEvent format settings state event))).map fun applied =>
      .slotSheet applied.write

def slotChosen (state : SlotSheet) : Option ℤ :=
  (slotToWrite state.sheet.slots).bind fun slot =>
    (slotMinutes slot).map fun minutes =>
      slotInstant state.sheet.slots.selectedHorizontalDate minutes

def slotCurrent (state : SlotSheet) : Option ℤ :=
  state.date.bind fun date =>
    (slotMinutes (state.sheet.slots.previousSlot.getD "")).map fun minutes =>
      slotInstant date minutes

def openReschedule (now : ℤ) (detail : ServiceDetail) (bookingDay dateTimeVal : Option String)
    (booking : Booking) : Reschedule :=
  if booking.isSlotBooking then
    .slotSheet
      { sheet :=
          openBookingSheet toLowerCase settings.language (atInstant (zone.clockOf now)) detail
            (some booking.toBookingData) bookingDay dateTimeVal
        date := parse (booking.date.getD "").toList }
  else .editDialog (initDialog zone format settings booking)

def next : Reschedule → RescheduleEvent → Reschedule
  | .editDialog dialog, .inDialog event =>
      .editDialog (dialogNext zone format timeText settings dialog event)
  | .slotSheet sheet, .inSheet event =>
      .slotSheet (slotSheetNext zone toLowerCase format settings sheet event)
  | state, _ => state

def outputs : Reschedule → RescheduleEvent → List Update
  | .editDialog dialog, .inDialog event => dialogOutputs zone dialog event
  | .slotSheet sheet, .inSheet event =>
      slotSheetOutputs zone toLowerCase format settings sheet event
  | _, _ => []

def machine : Machine Reschedule RescheduleEvent Update where
  next := next zone toLowerCase format timeText settings
  outputs := outputs zone toLowerCase format settings

/-! ### What is promised -/

def chosen : Reschedule → Option ℤ
  | .editDialog dialog => dialogChosen dialog
  | .slotSheet state => slotChosen state

def current : Reschedule → Option ℤ
  | .editDialog dialog => dialogCurrent zone dialog
  | .slotSheet state => slotCurrent state

/-- The instant of a Submit, or of an Apply that is confirmed. -/
def askedAt : Reschedule → RescheduleEvent → Option ℤ
  | .editDialog dialog, .inDialog (.handleSubmitClick now) =>
      if onTop dialog then some now else none
  | .slotSheet state, .inSheet (.apply true now) =>
      if usable toLowerCase state.sheet.slots then some now else none
  | _, _ => none

/-- An update is sent exactly when it is asked for and due. -/
def ObeysRules (booking : Booking) (state : Reschedule) (event : RescheduleEvent) : Prop :=
  match askedAt toLowerCase state event with
  | none => outputs zone toLowerCase format settings state event = []
  | some now =>
      outputs zone toLowerCase format settings state event ≠ [] ↔
        UpdateDue zone booking (chosen state) (current zone state) now

structure DialogTells (booking : Booking) (dialog : Dialog) (now : ℤ) : Prop where
  /-- Another text stands for another minute, which is in time. -/
  changed : dialog.dateTimeCont ≠ dialog.prevDateTimeCont →
    dialogChosen dialog ≠ dialogCurrent zone dialog ∧
      ∀ reading, dialogChosen dialog = some reading → InTime zone booking reading now
  /-- The text that the dialog opened with stands for the booking's minute, or one that is
  not in time. -/
  kept : dialog.dateTimeCont = dialog.prevDateTimeCont →
    ∀ reading, dialogChosen dialog = some reading → InTime zone booking reading now →
      dialogCurrent zone dialog = some reading

def SlotChanged (slots : SlotsState) : Prop :=
  (slotToWrite slots).getD "" ≠ slots.previousSlot.getD ""

structure SheetTells (booking : Booking) (state : SlotSheet) (now : ℤ) : Prop where
  /-- Another slot names a time, on the chosen day another minute, which is in time. -/
  changed : SlotChanged state.sheet.slots → (printedDate format settings state).isSome = true →
    ∃ reading, slotChosen state = some reading ∧ slotCurrent state ≠ some reading ∧
      InTime zone booking reading now
  /-- Nothing is lost where the date cannot be printed. -/
  unprinted : SlotChanged state.sheet.slots → printedDate format settings state = none →
    ∀ reading, slotChosen state = some reading → InTime zone booking reading now →
      slotCurrent state = some reading
  /-- The booking's slot is chosen for the booking's day, or is not in time. -/
  kept : ¬ SlotChanged state.sheet.slots →
    ∀ reading, slotChosen state = some reading → InTime zone booking reading now →
      state.date.map Instant.dayOf = some state.sheet.slots.selectedHorizontalDate.dayOf

def TellsChange (booking : Booking) : Reschedule → RescheduleEvent → Prop
  | .editDialog dialog, .inDialog (.handleSubmitClick now) =>
      onTop dialog = true → DialogTells zone booking dialog now
  | .slotSheet state, .inSheet (.apply true now) =>
      usable toLowerCase state.sheet.slots = true →
        SheetTells zone format settings booking state now
  | _, _ => True

/-- Another text than the first one is that of a pick. -/
def ShowsPick (dialog : Dialog) : Prop :=
  dialog.dateTimeCont = dialog.prevDateTimeCont ∨
    dialog.dateTimeCont ≠ [] ∧ (dialogChosen dialog).isSome = true

theorem showsPick_initDialog (booking : Booking) :
    ShowsPick (initDialog zone format settings booking) := by
  left
  unfold initDialog
  split
  · rfl
  · split
    · rfl
    · dsimp only
      split
      · rfl
      · rfl

theorem showsPick_takePick {dialog : Dialog} (shows : ShowsPick dialog) (day : ℤ)
    (time : TimeOfDay) :
    ShowsPick (takePick zone format timeText settings dialog day time) := by
  unfold takePick
  dsimp only
  cases formatDate format settings (shownFor zone (day * 86400000000)) with
  | none =>
      rcases shows with same | ⟨filled, _⟩
      · exact Or.inl same
      · exact Or.inr ⟨filled, rfl⟩
  | some text =>
      right
      refine ⟨?_, rfl⟩
      exact List.append_ne_nil_of_right_ne_nil text (List.cons_ne_nil _ _)

theorem showsPick_dialogNext {dialog : Dialog} (shows : ShowsPick dialog)
    (event : DialogEvent) :
    ShowsPick (dialogNext zone format timeText settings dialog event) := by
  cases event with
  | selectDateAndTime now =>
      unfold dialogNext
      dsimp only
      split
      · exact shows
      · exact shows
  | chooseDate choice =>
      unfold dialogNext
      dsimp only
      split
      · cases choice with
        | none => exact shows
        | some date =>
            dsimp only
            split
            · exact shows
            · exact shows
      · exact shows
  | chooseTime choice =>
      unfold dialogNext
      dsimp only
      split
      · cases choice with
        | none => exact shows
        | some time => exact showsPick_takePick zone format timeText settings shows _ time
      · exact shows
  | handleSubmitClick now =>
      unfold dialogNext
      dsimp only
      split
      · exact shows
      · split
        · exact shows
        · split
          · exact shows
          · exact shows
  | answer accepted =>
      unfold dialogNext
      dsimp only
      split
      · exact shows
      · split
        · exact shows
        · exact shows
  | cancel =>
      unfold dialogNext
      dsimp only
      split
      · exact shows
      · exact shows

theorem requested_isSome_iff {dialog : Dialog} (shows : ShowsPick dialog) :
    (requested dialog).isSome = true ↔ dialog.dateTimeCont ≠ dialog.prevDateTimeCont := by
  unfold requested
  by_cases same : dialog.prevDateTimeCont = dialog.dateTimeCont
  · rw [if_pos same]
    exact iff_of_false Bool.false_ne_true (fun changed => changed same.symm)
  · rw [if_neg same]
    have changed : dialog.dateTimeCont ≠ dialog.prevDateTimeCont := Ne.symm same
    obtain ⟨filled, isChosen⟩ := shows.resolve_left changed
    rw [if_neg filled]
    exact iff_of_true isChosen changed

theorem dialogOutputs_submit_iff {dialog : Dialog} (shows : ShowsPick dialog)
    (top : onTop dialog = true) (now : ℤ) :
    dialogOutputs zone dialog (.handleSubmitClick now) ≠ [] ↔
      dialog.dateTimeCont ≠ dialog.prevDateTimeCont := by
  rw [← requested_isSome_iff shows]
  unfold dialogOutputs
  dsimp only
  rw [if_pos top]
  cases requested dialog with
  | none => exact iff_of_false (fun impossible => impossible rfl) Bool.false_ne_true
  | some finalDate => exact iff_of_true (List.cons_ne_nil _ _) rfl

theorem dialogTells_iff (booking : Booking) {dialog : Dialog} (shows : ShowsPick dialog)
    (now : ℤ) :
    (dialog.dateTimeCont ≠ dialog.prevDateTimeCont ↔
        UpdateDue zone booking (dialogChosen dialog) (dialogCurrent zone dialog) now) ↔
      DialogTells zone booking dialog now := by
  constructor
  · intro tells
    refine ⟨?_, ?_⟩
    · intro changed
      obtain ⟨reading, picked, another, inTime⟩ := tells.mp changed
      refine ⟨?_, ?_⟩
      · rw [picked]
        exact another.symm
      · intro other same
        rw [picked] at same
        rw [← Option.some.inj same]
        exact inTime
    · intro kept reading picked inTime
      by_contra another
      exact tells.mpr ⟨reading, picked, another, inTime⟩ kept
  · intro tells
    constructor
    · intro changed
      obtain ⟨_, isChosen⟩ := shows.resolve_left changed
      obtain ⟨reading, picked⟩ := Option.isSome_iff_exists.mp isChosen
      obtain ⟨another, inTime⟩ := tells.changed changed
      rw [picked] at another
      exact ⟨reading, picked, another.symm, inTime reading picked⟩
    · rintro ⟨reading, picked, another, inTime⟩ kept
      exact another (tells.kept kept reading picked inTime)

/-! ### The sheet's slot -/

theorem slotCurrent_iff {state : SlotSheet} (same : ¬ SlotChanged state.sheet.slots)
    {reading : ℤ} (picked : slotChosen state = some reading) :
    slotCurrent state = some reading ↔
      state.date.map Instant.dayOf = some state.sheet.slots.selectedHorizontalDate.dayOf := by
  obtain ⟨slot, written, named⟩ := Option.bind_eq_some_iff.mp picked
  obtain ⟨minutes, own, here⟩ := Option.map_eq_some_iff.mp named
  have previous : state.sheet.slots.previousSlot.getD "" = slot := by
    have sameText := not_not.mp same
    rw [written] at sameText
    exact sameText.symm
  unfold slotCurrent
  rw [previous, own]
  cases state.date with
  | none => exact iff_of_false nofun nofun
  | some date =>
      rw [Option.bind_some, Option.map_some, Option.map_some, Option.some.injEq,
        Option.some.injEq, ← here]
      unfold slotInstant
      omega

/-- An update is sent exactly for another slot, if its date can be printed. -/
theorem slotSheetOutputs_apply_iff {state : SlotSheet}
    (isUpdate : state.sheet.slots.isUpdate = true)
    (onScreen : usable toLowerCase state.sheet.slots = true) (now : ℤ) :
    slotSheetOutputs zone toLowerCase format settings state (.apply true now) ≠ [] ↔
      SlotChanged state.sheet.slots ∧ (printedDate format settings state).isSome = true := by
  unfold slotSheetOutputs sheetEvent onClock sheetOutputs accepts SlotChanged
  dsimp only
  rw [isUpdate, onScreen, if_pos rfl, Bool.true_and, Bool.true_and]
  cases printed : (printedDate format settings state).isSome with
  | false =>
      rw [Bool.false_and, if_neg Bool.false_ne_true]
      exact iff_of_false (fun impossible => impossible rfl)
        (fun both => Bool.false_ne_true both.2)
  | true =>
      rw [Bool.true_and]
      by_cases another : ((slotToWrite state.sheet.slots).getD "" !=
          state.sheet.slots.previousSlot.getD "") = true
      · rw [if_pos another]
        exact iff_of_true (List.cons_ne_nil _ _) ⟨bne_iff_ne.mp another, rfl⟩
      · rw [if_neg another]
        exact iff_of_false (fun impossible => impossible rfl)
          (fun both => another (bne_iff_ne.mpr both.1))

theorem sheetTells_iff (booking : Booking) (state : SlotSheet) (now : ℤ) :
    ((SlotChanged state.sheet.slots ∧ (printedDate format settings state).isSome = true) ↔
        UpdateDue zone booking (slotChosen state) (slotCurrent state) now) ↔
      SheetTells zone format settings booking state now := by
  constructor
  · intro tells
    have lost : ¬ (SlotChanged state.sheet.slots ∧
        (printedDate format settings state).isSome = true) →
        ∀ reading, slotChosen state = some reading → InTime zone booking reading now →
          slotCurrent state = some reading := by
      intro unsent reading picked inTime
      by_contra another
      exact unsent (tells.mpr ⟨reading, picked, another, inTime⟩)
    refine ⟨?_, ?_, ?_⟩
    · intro changed printed
      exact tells.mp ⟨changed, printed⟩
    · intro _ unprinted
      apply lost
      rintro ⟨_, printed⟩
      rw [unprinted] at printed
      cases printed
    · intro same reading picked inTime
      exact (slotCurrent_iff same picked).mp
        (lost (fun both => same both.1) reading picked inTime)
  · intro tells
    constructor
    · rintro ⟨changed, printed⟩
      exact tells.changed changed printed
    · rintro ⟨reading, picked, another, inTime⟩
      by_cases changed : SlotChanged state.sheet.slots
      · cases printed : printedDate format settings state with
        | some text => exact ⟨changed, rfl⟩
        | none => exact absurd (tells.unprinted changed printed reading picked inTime) another
      · have sameDay := tells.kept changed reading picked inTime
        exact absurd ((slotCurrent_iff changed picked).mpr sameDay) another

def Sound : Reschedule → Prop
  | .editDialog dialog => ShowsPick dialog
  | .slotSheet state => state.sheet.slots.isUpdate = true

theorem sound_openReschedule (now : ℤ) (detail : ServiceDetail)
    (bookingDay dateTimeVal : Option String) (booking : Booking) :
    Sound (openReschedule zone toLowerCase format settings now detail bookingDay dateTimeVal
      booking) := by
  unfold openReschedule
  split
  · exact (BookingSlots.fixed_openBookingSheet toLowerCase settings.language
      (atInstant (zone.clockOf now)) detail (some booking.toBookingData) bookingDay
      dateTimeVal).2
  · exact showsPick_initDialog zone format settings booking

theorem sound_next (state : Reschedule) (event : RescheduleEvent) (sound : Sound state) :
    Sound (next zone toLowerCase format timeText settings state event) := by
  cases state with
  | editDialog dialog =>
      cases event with
      | inDialog event => exact showsPick_dialogNext zone format timeText settings sound event
      | inSheet event => exact sound
  | slotSheet state =>
      cases event with
      | inDialog event => exact sound
      | inSheet event =>
          change (sheetNext _ _ _ _ _).slots.isUpdate = true
          rw [BookingSlots.isUpdate_sheetNext]
          exact sound

theorem obeysRules_inDialog_iff (booking : Booking) {dialog : Dialog}
    (shows : ShowsPick dialog) (event : DialogEvent) :
    ObeysRules zone toLowerCase format settings booking (.editDialog dialog)
        (.inDialog event) ↔
      TellsChange zone toLowerCase format settings booking (.editDialog dialog)
        (.inDialog event) := by
  cases event with
  | handleSubmitClick now =>
      unfold ObeysRules TellsChange askedAt outputs chosen current
      dsimp only
      cases top : onTop dialog with
      | false =>
          refine iff_of_true ?_ (fun impossible => absurd impossible Bool.false_ne_true)
          unfold dialogOutputs
          dsimp only
          rw [top]
          rfl
      | true =>
          rw [if_pos rfl, forall_prop_of_true rfl, ← dialogTells_iff zone booking shows]
          dsimp only
          rw [dialogOutputs_submit_iff zone shows top]
  | _ => exact iff_of_true rfl trivial

theorem obeysRules_inSheet_iff (booking : Booking) {state : SlotSheet}
    (isUpdate : state.sheet.slots.isUpdate = true) (event : SheetEvent) :
    ObeysRules zone toLowerCase format settings booking (.slotSheet state) (.inSheet event) ↔
      TellsChange zone toLowerCase format settings booking (.slotSheet state)
        (.inSheet event) := by
  cases event with
  | apply confirmed now =>
      cases confirmed with
      | false =>
          refine iff_of_true ?_ trivial
          change slotSheetOutputs zone toLowerCase format settings state (.apply false now) = []
          unfold slotSheetOutputs sheetEvent onClock sheetOutputs accepts
          dsimp only
          rw [isUpdate, if_pos rfl, Bool.false_and, Bool.false_and, Bool.and_false,
            if_neg Bool.false_ne_true]
          rfl
      | true =>
          unfold ObeysRules TellsChange askedAt outputs chosen current
          dsimp only
          cases onScreen : usable toLowerCase state.sheet.slots with
          | false =>
              refine iff_of_true ?_ (fun impossible => absurd impossible Bool.false_ne_true)
              unfold slotSheetOutputs sheetEvent onClock sheetOutputs
              dsimp only
              rw [onScreen, Bool.false_and, if_neg Bool.false_ne_true]
              rfl
          | true =>
              rw [if_pos rfl, forall_prop_of_true rfl, ← sheetTells_iff]
              dsimp only
              rw [slotSheetOutputs_apply_iff zone toLowerCase format settings isUpdate onScreen]
  | _ => exact iff_of_true rfl trivial

theorem obeysRules_iff (booking : Booking) (state : Reschedule) (event : RescheduleEvent)
    (sound : Sound state) :
    ObeysRules zone toLowerCase format settings booking state event ↔
      TellsChange zone toLowerCase format settings booking state event := by
  cases state with
  | editDialog dialog =>
      cases event with
      | inDialog event =>
          exact obeysRules_inDialog_iff zone toLowerCase format settings booking sound event
      | inSheet event => exact iff_of_true rfl trivial
  | slotSheet state =>
      cases event with
      | inDialog event => exact iff_of_true rfl trivial
      | inSheet event =>
          exact obeysRules_inSheet_iff zone toLowerCase format settings booking sound event

/-- Over every run of the flow that a booking opens, an update is sent exactly when it is
due, if and only if each Submit and each confirmed Apply finds what it compares to tell a
change from the booking's own minute, and the change in time. -/
theorem rescheduling_iff (now : ℤ) (detail : ServiceDetail)
    (bookingDay dateTimeVal : Option String) (booking : Booking)
    (events : List RescheduleEvent) :
    (machine zone toLowerCase format timeText settings).Every
        (ObeysRules zone toLowerCase format settings booking)
        (openReschedule zone toLowerCase format settings now detail bookingDay dateTimeVal
          booking) events ↔
      (machine zone toLowerCase format timeText settings).Every
        (TellsChange zone toLowerCase format settings booking)
        (openReschedule zone toLowerCase format settings now detail bookingDay dateTimeVal
          booking) events :=
  Machine.every_congr Sound (sound_next zone toLowerCase format timeText settings)
    (obeysRules_iff zone toLowerCase format settings booking)
    (sound_openReschedule zone toLowerCase format settings now detail bookingDay dateTimeVal
      booking)

end Flows

/-- The booking's pattern, and an ISO date for any other. -/
def sampleFormat (pattern : String) (language : AppLanguage) (shown : CivilTime) :
    Option (List Char) :=
  if pattern = dateFormat1 then
    some (paddedNumber 2 shown.day ++ '-' ::
      ((BookingDates.shortMonth language shown.month).toList ++ '-' ::
        (paddedNumber 4 shown.year.natAbs ++ ' ' ::
          (paddedNumber 2 ((shown.hour + 11) % 12 + 1) ++ ':' ::
            (paddedNumber 2 shown.minute ++ (if shown.hour < 12 then " AM" else " PM").toList)))))
  else some (dateText shown.year.natAbs shown.month shown.day [])

def sampleTimeText (time : TimeOfDay) : List Char :=
  paddedNumber 1 ((time.hour + 11) % 12 + 1) ++ ':' ::
    (paddedNumber 2 time.minute ++ (if time.hour < 12 then " AM" else " PM").toList)

def isoSettings : Settings where
  language := .english
  dateFormat := "yyyy-MM-dd"

def freeTimeBooking : Booking where
  date := some "2026-03-05 14:30:00"
  bookingSlot := none
  endDate := none

def dayBefore : ℤ :=
  (dayNumber 2026 3 4 * 24 + 11) * 3600000000

def pickedDialog (events : List DialogEvent) : Reschedule :=
  (machine BookingTimestamps.norwegianWinter BookingSlots.asciiLower sampleFormat sampleTimeText
      isoSettings).run
    (openReschedule BookingTimestamps.norwegianWinter BookingSlots.asciiLower sampleFormat
      isoSettings dayBefore BookingSlots.sampleDetail none none freeTimeBooking)
    (events.map .inDialog)

def ownPicks : List DialogEvent :=
  [.selectDateAndTime dayBefore, .chooseDate (some (dayNumber 2026 3 5)),
    .chooseTime (some (TimeOfDay.fromReading (clock 14 30 0 0)))]

/-- Both times the dialog shows 5 March at half past two, and an update is sent. -/
theorem own_time_is_sent_again :
    ¬ ∀ zone toLowerCase format timeText settings now detail bookingDay dateTimeVal booking events,
      (machine zone toLowerCase format timeText settings).Every
        (ObeysRules zone toLowerCase format settings booking)
        (openReschedule zone toLowerCase format settings now detail bookingDay dateTimeVal
          booking) events := by
  intro always
  have run := always BookingTimestamps.norwegianWinter BookingSlots.asciiLower sampleFormat
    sampleTimeText isoSettings dayBefore BookingSlots.sampleDetail none none freeTimeBooking
    ((ownPicks ++ [DialogEvent.handleSubmitClick dayBefore]).map .inDialog)
  obtain ⟨_, _, _, submit, _⟩ := run
  change ObeysRules _ _ _ _ _ (pickedDialog ownPicks) _ at submit
  unfold ObeysRules at submit
  rw [show askedAt BookingSlots.asciiLower (pickedDialog ownPicks)
    (.inDialog (.handleSubmitClick dayBefore)) = some dayBefore by decide +kernel] at submit
  have sent : outputs BookingTimestamps.norwegianWinter BookingSlots.asciiLower sampleFormat
      isoSettings (pickedDialog ownPicks) (.inDialog (.handleSubmitClick dayBefore)) ≠ [] := by
    decide +kernel
  have same : chosen (pickedDialog ownPicks) =
      current BookingTimestamps.norwegianWinter (pickedDialog ownPicks) := by decide +kernel
  obtain ⟨reading, picked, another, _⟩ := submit.mp sent
  rw [← same] at another
  exact another picked

end FiksOpp.Rescheduling
