/-
The dates a client flow writes into a booking, and the readers of a stored date.

Four flows print a chosen date in different ways; the readers expect the text of
`DateTime.toString`.  The formatter is the `intl` package's: it is described by
what it prints for the two patterns fixed in the source.
-/

import FiksOpp.Foundations.EventRun
import FiksOpp.Foundations.IsoDateTime

namespace FiksOpp.BookingDates

open EventRun
open IsoDateTime

inductive AppLanguage where
  | norwegian
  | english
  deriving DecidableEq, Repr

structure Intl where
  /-- Nothing where the pattern asks for something that is not implemented. -/
  format : String → AppLanguage → DateTime → Option (List Char)
  parses : String → List Char → Bool
  format_iso : ∀ language date, format "yyyy-MM-dd" language date = some date.dayText
  format_dayFirst : ∀ language date, ∃ rest,
    format "dd-MMM-yyyy" language date = some (twoDigits date.day ++ '-' :: rest)

structure Settings where
  language : AppLanguage
  /-- `DATE_FORMAT`, which the administrator configures. -/
  dateFormat : String
  deriving DecidableEq, Repr

def containsText (text find : List Char) : Bool :=
  match text with
  | [] => find.isEmpty
  | first :: rest => find.isPrefixOf (first :: rest) || containsText rest find

def replaceFirst (text find replacement : List Char) : List Char :=
  match text with
  | [] => if find.isEmpty then replacement else []
  | first :: rest =>
      if find.isPrefixOf (first :: rest) then
        replacement ++ (first :: rest).drop find.length
      else first :: replaceFirst rest find replacement

def withoutS (pattern : String) : String :=
  String.ofList (pattern.toList.filter fun char => char != 'S')

def dayDigits (day : ℕ) : List Char :=
  Nat.toDigits 10 day

def addOrdinalSuffix (day : ℕ) : List Char :=
  if 11 ≤ day ∧ day ≤ 13 then dayDigits day ++ ['t', 'h']
  else if day % 10 = 1 then dayDigits day ++ ['s', 't']
  else if day % 10 = 2 then dayDigits day ++ ['n', 'd']
  else if day % 10 = 3 then dayDigits day ++ ['r', 'd']
  else dayDigits day ++ ['t', 'h']

section Flows

variable (intl : Intl) (settings : Settings)

/-- `formatBookingDate` of a printed date, which `DateTime.parse` reads back. -/
def formatBookingDate (pattern : String) (date : DateTime) : Option (List Char) :=
  intl.format pattern settings.language date

def formatDate (date : DateTime) : Option (List Char) :=
  if containsText settings.dateFormat.toList ['d', 'S'] then
    match intl.format settings.dateFormat settings.language date with
    | none => none
    | some text =>
        if containsText text (dayDigits date.day) then
          (intl.format (withoutS settings.dateFormat) settings.language date).map fun plain =>
            replaceFirst plain (dayDigits date.day) (addOrdinalSuffix date.day)
        else some text
  else intl.format settings.dateFormat settings.language date

/-- A flow that sends or stores a date, with what was chosen in it. -/
inductive DateWrite where
  /-- `finalDate.toString()` of a service without slots. -/
  | normalBooking (finalDate : DateTime)
  | slotBooking (selectedHorizontalDate : DateTime)
  /-- The display text, and the clock text of the picked time. -/
  | postJobBooking (finalDate : DateTime) (timeText : List Char)
  | editDialog (finalDate : DateTime)
  | slotReschedule (selectedHorizontalDate : DateTime)

/-- Nothing where the formatter throws before anything is sent. -/
def written : DateWrite → Option (List Char)
  | .normalBooking finalDate => some finalDate.toText
  | .slotBooking selectedHorizontalDate =>
      formatBookingDate intl settings "yyyy-MM-dd" selectedHorizontalDate
  | .postJobBooking finalDate timeText =>
      (formatBookingDate intl settings "dd-MMM-yyyy" finalDate).map fun dateText =>
        dateText ++ ' ' :: timeText
  | .editDialog finalDate => some finalDate.toText
  | .slotReschedule selectedHorizontalDate => formatDate intl settings selectedHorizontalDate

def DenotesDay (text : List Char) (chosen : DateTime) : Prop :=
  ∃ instant, parse text = some instant ∧ instant.isUtc = false ∧ instant.dayOf = chosen.days

/-- A chosen time is part of what is denoted; where slots are offered only the day is
chosen here. -/
def Denotes (text : List Char) : DateWrite → Prop
  | .normalBooking finalDate => parse text = some finalDate.instant
  | .slotBooking selectedHorizontalDate => DenotesDay text selectedHorizontalDate
  | .postJobBooking finalDate _ => parse text = some finalDate.instant
  | .editDialog finalDate => parse text = some finalDate.instant
  | .slotReschedule selectedHorizontalDate => DenotesDay text selectedHorizontalDate

def WritesChosen (write : DateWrite) : Prop :=
  ∀ text, written intl settings write = some text → Denotes text write

/-- The formatter's text for the configured pattern, with `S` taken out of it when
the first text shows the day. -/
def plainText (date : DateTime) : Option (List Char) :=
  if containsText settings.dateFormat.toList ['d', 'S'] then
    match intl.format settings.dateFormat settings.language date with
    | none => none
    | some text =>
        if containsText text (dayDigits date.day) then
          intl.format (withoutS settings.dateFormat) settings.language date
        else some text
  else intl.format settings.dateFormat settings.language date

def putsSuffix (date : DateTime) : Bool :=
  containsText settings.dateFormat.toList ['d', 'S'] &&
    ((intl.format settings.dateFormat settings.language date).map fun text =>
      containsText text (dayDigits date.day)).getD false &&
    ((plainText intl settings date).map fun text =>
      containsText text (dayDigits date.day)).getD false

/-- The text has the form `DateTime.parse` expects, without a time zone, and its
numbers name the day. -/
def NamesDay (text : List Char) (chosen : DateTime) : Prop :=
  ∃ found, readFields text = some found ∧ inRange found.instant = true ∧
    found.offset = none ∧ found.instant.dayOf = chosen.days

/-- Normal bookings, slot bookings and the edit dialog always write the chosen date,
post-job bookings never do. -/
def PrintsChosen : DateWrite → Prop
  | .normalBooking _ => True
  | .slotBooking _ => True
  | .postJobBooking _ _ => False
  | .editDialog _ => True
  | .slotReschedule selectedHorizontalDate =>
      ∀ text, plainText intl settings selectedHorizontalDate = some text →
        putsSuffix intl settings selectedHorizontalDate = false ∧
          NamesDay text selectedHorizontalDate

end Flows

/-! ### Texts with an ordinal suffix -/

theorem mem_replaceFirst {text find : List Char} (present : containsText text find = true)
    (replacement : List Char) {char : Char} (member : char ∈ replacement) :
    char ∈ replaceFirst text find replacement := by
  induction text with
  | nil =>
      unfold containsText at present
      unfold replaceFirst
      rw [if_pos present]
      exact member
  | cons first rest ih =>
      unfold containsText at present
      unfold replaceFirst
      by_cases here : find.isPrefixOf (first :: rest) = true
      · rw [if_pos here]
        exact List.mem_append_left _ member
      · rw [if_neg here]
        apply List.mem_cons_of_mem
        apply ih
        rcases Bool.or_eq_true_iff.mp present with inFront | later
        · exact absurd inFront here
        · exact later

theorem replaceFirst_of_absent {text find : List Char} (absent : containsText text find = false)
    (replacement : List Char) : replaceFirst text find replacement = text := by
  induction text with
  | nil =>
      unfold containsText at absent
      unfold replaceFirst
      rw [absent, if_neg Bool.false_ne_true]
  | cons first rest ih =>
      unfold containsText at absent
      obtain ⟨notHere, later⟩ := Bool.or_eq_false_iff.mp absent
      unfold replaceFirst
      rw [notHere, if_neg Bool.false_ne_true, ih later]

theorem addOrdinalSuffix_outside (day : ℕ) :
    ∃ char ∈ addOrdinalSuffix day, grammarChar char = false := by
  unfold addOrdinalSuffix
  split
  · exact ⟨'t', List.mem_append_right _ List.mem_cons_self, by decide⟩
  · split
    · exact ⟨'s', List.mem_append_right _ List.mem_cons_self, by decide⟩
    · split
      · exact ⟨'n', List.mem_append_right _ List.mem_cons_self, by decide⟩
      · split
        · exact ⟨'r', List.mem_append_right _ List.mem_cons_self, by decide⟩
        · exact ⟨'t', List.mem_append_right _ List.mem_cons_self, by decide⟩

theorem formatDate_eq (intl : Intl) (settings : Settings) (date : DateTime) :
    formatDate intl settings date =
      (plainText intl settings date).map fun text =>
        if putsSuffix intl settings date then
          replaceFirst text (dayDigits date.day) (addOrdinalSuffix date.day)
        else text := by
  unfold formatDate putsSuffix
  cases ordinal : containsText settings.dateFormat.toList ['d', 'S'] with
  | false =>
      simp only [plainText, ordinal, Bool.false_and, if_neg Bool.false_ne_true, Option.map_id']
  | true =>
      cases shown : intl.format settings.dateFormat settings.language date with
      | none => simp only [plainText, ordinal, shown, if_true, Option.map_none]
      | some text =>
          cases hasDay : containsText text (dayDigits date.day) with
          | false =>
              simp only [plainText, ordinal, shown, hasDay, if_true, Bool.false_eq_true,
                if_false, Option.map_some, Option.getD_some, Bool.and_false]
          | true =>
              simp only [plainText, ordinal, shown, hasDay, if_true, Option.map_some,
                Option.getD_some, Bool.true_and]
              cases plain : intl.format (withoutS settings.dateFormat) settings.language date with
              | none => rfl
              | some short =>
                  simp only [Option.map_some, Option.getD_some, Option.some.injEq]
                  by_cases again : containsText short (dayDigits date.day) = true
                  · rw [if_pos again]
                  · rw [if_neg again]
                    exact replaceFirst_of_absent (Bool.eq_false_iff.mpr again) _

theorem parse_of_putsSuffix {intl : Intl} {settings : Settings} {date : DateTime}
    {text : List Char} (plain : plainText intl settings date = some text)
    (suffix : putsSuffix intl settings date = true) :
    parse (replaceFirst text (dayDigits date.day) (addOrdinalSuffix date.day)) = none := by
  have present : containsText text (dayDigits date.day) = true := by
    unfold putsSuffix at suffix
    rw [plain] at suffix
    exact (Bool.and_eq_true_iff.mp suffix).2
  obtain ⟨char, member, outside⟩ := addOrdinalSuffix_outside date.day
  exact parse_eq_none_of_not_grammar (mem_replaceFirst present _ member) outside

theorem denotesDay_iff (text : List Char) (chosen : DateTime) :
    DenotesDay text chosen ↔ NamesDay text chosen := by
  unfold DenotesDay NamesDay parse
  cases read : readFields text with
  | none =>
      refine iff_of_false ?_ ?_
      · intro impossible
        obtain ⟨instant, found, _⟩ := impossible
        cases found
      · intro impossible
        obtain ⟨found, same, _⟩ := impossible
        cases same
  | some found =>
      dsimp only
      constructor
      · intro denotes
        obtain ⟨instant, same, isLocal, day⟩ := denotes
        by_cases inside : inRange found.instant = true
        · rw [if_pos inside] at same
          cases same
          have noZone : found.offset = none := by
            cases zone : found.offset with
            | none => rfl
            | some minutes =>
                unfold Fields.instant at isLocal
                rw [zone] at isLocal
                cases isLocal
          exact ⟨found, rfl, inside, noZone, day⟩
        · rw [if_neg inside] at same
          cases same
      · intro names
        obtain ⟨other, same, inside, noZone, day⟩ := names
        cases same
        refine ⟨found.instant, if_pos inside, ?_, day⟩
        change found.offset.isSome = false
        rw [noZone]
        rfl

theorem slotBooking_writesChosen (intl : Intl) (settings : Settings) (chosen : DateTime) :
    WritesChosen intl settings (.slotBooking chosen) := by
  intro text sent
  change intl.format "yyyy-MM-dd" settings.language chosen = some text at sent
  rw [intl.format_iso settings.language chosen] at sent
  have isoText : chosen.dayText = text := Option.some.inj sent
  have sameDay : chosen.midnight.instant.dayOf = chosen.days :=
    chosen.midnight.dayOf_instant
  rw [← isoText]
  exact ⟨chosen.midnight.instant, parse_dayText chosen, rfl, sameDay⟩

/-- The day is printed before the year, which no reader accepts. -/
theorem postJobBooking_not_writesChosen (intl : Intl) (settings : Settings)
    (finalDate : DateTime) (timeText : List Char) :
    ¬ WritesChosen intl settings (.postJobBooking finalDate timeText) := by
  intro always
  obtain ⟨monthAndYear, dayFirst⟩ := intl.format_dayFirst settings.language finalDate
  have small : finalDate.day < 100 := by
    have bound := finalDate.day_le_31
    omega
  have sent : written intl settings (.postJobBooking finalDate timeText) =
      some (twoDigits finalDate.day ++ '-' :: (monthAndYear ++ ' ' :: timeText)) := by
    change (intl.format "dd-MMM-yyyy" settings.language finalDate).map
      (fun dateText => dateText ++ ' ' :: timeText) = _
    rw [dayFirst, Option.map_some, List.append_assoc, List.cons_append]
  have read : parse _ = some finalDate.instant := always _ sent
  rw [parse_eq_none_of_twoDigits small] at read
  cases read

theorem written_slotReschedule (intl : Intl) (settings : Settings) (chosen : DateTime) :
    written intl settings (.slotReschedule chosen) =
      (plainText intl settings chosen).map fun text =>
        if putsSuffix intl settings chosen then
          replaceFirst text (dayDigits chosen.day) (addOrdinalSuffix chosen.day)
        else text :=
  formatDate_eq intl settings chosen

theorem slotReschedule_writesChosen_iff (intl : Intl) (settings : Settings)
    (chosen : DateTime) :
    WritesChosen intl settings (.slotReschedule chosen) ↔
      PrintsChosen intl settings (.slotReschedule chosen) := by
  unfold WritesChosen PrintsChosen
  rw [written_slotReschedule]
  constructor
  · intro denotes text plain
    have read := denotes _ (Option.map_eq_some_iff.mpr ⟨text, plain, rfl⟩)
    cases suffix : putsSuffix intl settings chosen with
    | true =>
        rw [suffix, if_pos rfl] at read
        obtain ⟨instant, found, _⟩ := read
        rw [parse_of_putsSuffix plain suffix] at found
        cases found
    | false =>
        rw [suffix, if_neg Bool.false_ne_true] at read
        exact ⟨rfl, (denotesDay_iff text chosen).mp read⟩
  · intro prints text sentText
    obtain ⟨plain, printed, same⟩ := Option.map_eq_some_iff.mp sentText
    obtain ⟨noSuffix, names⟩ := prints plain printed
    rw [noSuffix, if_neg Bool.false_ne_true] at same
    rw [← same]
    exact (denotesDay_iff plain chosen).mpr names

theorem writesChosen_iff (intl : Intl) (settings : Settings) (write : DateWrite) :
    WritesChosen intl settings write ↔ PrintsChosen intl settings write := by
  have wholeText : ∀ finalDate : DateTime, ∀ text, some finalDate.toText = some text →
      parse text = some finalDate.instant := by
    intro finalDate text sent
    rw [← Option.some.inj sent]
    exact parse_toText finalDate
  cases write with
  | normalBooking finalDate => exact iff_of_true (wholeText finalDate) trivial
  | slotBooking chosen =>
      exact iff_of_true (slotBooking_writesChosen intl settings chosen) trivial
  | postJobBooking finalDate timeText =>
      exact iff_of_false
        (postJobBooking_not_writesChosen intl settings finalDate timeText) id
  | editDialog finalDate => exact iff_of_true (wholeText finalDate) trivial
  | slotReschedule chosen => exact slotReschedule_writesChosen_iff intl settings chosen

/-- With the pattern of a slot booking configured, a reschedule writes the chosen day. -/
theorem printsChosen_of_isoFormat (intl : Intl) (language : AppLanguage) (chosen : DateTime) :
    PrintsChosen intl { language := language, dateFormat := "yyyy-MM-dd" }
      (.slotReschedule chosen) := by
  rw [← writesChosen_iff]
  intro text sent
  have sameText : written intl { language := language, dateFormat := "yyyy-MM-dd" }
      (.slotReschedule chosen) =
        written intl { language := language, dateFormat := "" } (.slotBooking chosen) := by
    have noOrdinal : ¬ containsText "yyyy-MM-dd".toList ['d', 'S'] = true := by decide
    change formatDate intl { language := language, dateFormat := "yyyy-MM-dd" } chosen = _
    unfold formatDate
    rw [if_neg noOrdinal]
    rfl
  rw [sameText] at sent
  exact slotBooking_writesChosen intl _ chosen text sent

/-! ### Edits of a stored booking -/

structure StoredBooking where
  date : List Char
  bookingSlot : Option String

/-- An edit that is not accepted leaves the booking as it was. -/
inductive BookingEdit where
  | editDialog (finalDate : DateTime) (accepted : Bool)
  | slotReschedule (settings : Settings) (selectedHorizontalDate : DateTime)
      (bookingSlot : String) (accepted : Bool)

section Edits

variable (intl : Intl)

/-- A booking with a slot opens the slot sheet, any other booking the edit dialog. -/
def applyEdit (booking : StoredBooking) : BookingEdit → StoredBooking
  | .editDialog finalDate accepted =>
      match booking.bookingSlot with
      | none =>
          if accepted then { booking with date := finalDate.toText } else booking
      | some _ => booking
  | .slotReschedule settings selectedHorizontalDate bookingSlot accepted =>
      match booking.bookingSlot with
      | none => booking
      | some _ =>
          match written intl settings (.slotReschedule selectedHorizontalDate) with
          | none => booking
          | some text =>
              if accepted then { date := text, bookingSlot := some bookingSlot } else booking

/-- `DateTime.parse` everywhere; `getSlotWithDate` too where there is a slot. -/
def ReadersSucceed (booking : StoredBooking) : Prop :=
  (parse booking.date).isSome = true ∧
    (booking.bookingSlot.isSome = true →
      intl.parses "yyyy-MM-dd HH:mm:ss" booking.date = true)

def KeepsReadable (booking : StoredBooking) : BookingEdit → Prop
  | .editDialog _ _ => True
  | .slotReschedule settings selectedHorizontalDate _ accepted =>
      booking.bookingSlot.isSome = true → accepted = true →
        ∀ text, plainText intl settings selectedHorizontalDate = some text →
          putsSuffix intl settings selectedHorizontalDate = false ∧
            (parse text).isSome = true ∧ intl.parses "yyyy-MM-dd HH:mm:ss" text = true

def editMachine : Machine StoredBooking BookingEdit Unit where
  next := applyEdit intl
  outputs _ _ := []

theorem readersSucceed_editDialog {booking : StoredBooking}
    (readable : ReadersSucceed intl booking) (finalDate : DateTime) (accepted : Bool) :
    ReadersSucceed intl (applyEdit intl booking (.editDialog finalDate accepted)) := by
  unfold applyEdit
  cases slot : booking.bookingSlot with
  | some _ => exact readable
  | none =>
      cases accepted with
      | false => exact readable
      | true =>
          refine ⟨?_, ?_⟩
          · change (parse finalDate.toText).isSome = true
            rw [parse_toText]
            rfl
          · intro hasSlot
            cases hasSlot

theorem readersSucceed_slotReschedule_iff {booking : StoredBooking}
    (readable : ReadersSucceed intl booking) (settings : Settings) (chosen : DateTime)
    (bookingSlot : String) (accepted : Bool) :
    ReadersSucceed intl
        (applyEdit intl booking (.slotReschedule settings chosen bookingSlot accepted)) ↔
      KeepsReadable intl booking (.slotReschedule settings chosen bookingSlot accepted) := by
  unfold applyEdit KeepsReadable
  cases slot : booking.bookingSlot with
  | none =>
      refine iff_of_true readable ?_
      intro impossible
      cases impossible
  | some before =>
      dsimp only
      rw [written_slotReschedule]
      cases plain : plainText intl settings chosen with
      | none =>
          refine iff_of_true readable ?_
          intro _ _ text impossible
          cases impossible
      | some text =>
          cases accepted with
          | false =>
              refine iff_of_true readable ?_
              intro _ impossible
              cases impossible
          | true =>
              rw [Option.map_some]
              dsimp only
              rw [if_pos rfl]
              cases suffix : putsSuffix intl settings chosen with
              | true =>
                  refine iff_of_false ?_ ?_
                  · intro impossible
                    have read := impossible.1
                    rw [if_pos rfl, parse_of_putsSuffix plain suffix] at read
                    cases read
                  · intro impossible
                    cases (impossible rfl rfl text rfl).1
              | false =>
                  rw [if_neg Bool.false_ne_true]
                  constructor
                  · intro after _ _ other same
                    cases same
                    exact ⟨rfl, after.1, after.2 rfl⟩
                  · intro keeps
                    obtain ⟨_, read, reads⟩ := keeps rfl rfl text rfl
                    exact ⟨read, fun _ => reads⟩

theorem readersSucceed_applyEdit_iff (booking : StoredBooking) (edit : BookingEdit)
    (readable : ReadersSucceed intl booking) :
    ReadersSucceed intl ((editMachine intl).next booking edit) ↔
      KeepsReadable intl booking edit := by
  cases edit with
  | editDialog finalDate accepted =>
      exact iff_of_true (readersSucceed_editDialog intl readable finalDate accepted) trivial
  | slotReschedule settings chosen bookingSlot accepted =>
      exact readersSucceed_slotReschedule_iff intl readable settings chosen bookingSlot accepted

/-- What each flow writes denotes what was chosen exactly when that is printed, and
the readers of a stored date succeed through all edits exactly when every accepted
reschedule prints a text they read. -/
theorem bookingDates_iff :
    (∀ settings write, WritesChosen intl settings write ↔ PrintsChosen intl settings write) ∧
    ∀ booking edits, ReadersSucceed intl booking →
      ((editMachine intl).Every
          (fun state edit => ReadersSucceed intl ((editMachine intl).next state edit))
          booking edits ↔
        (editMachine intl).Every (KeepsReadable intl) booking edits) := by
  constructor
  · exact writesChosen_iff intl
  · intro booking edits readable
    exact (editMachine intl).every_next_iff (ReadersSucceed intl)
      (readersSucceed_applyEdit_iff intl) readable

end Edits

def shortMonth (language : AppLanguage) (month : ℕ) : String :=
  match language with
  | .norwegian =>
      ["jan.", "feb.", "mars", "apr.", "mai", "juni", "juli", "aug.", "sep.", "okt.", "nov.",
        "des."].getD (month - 1) ""
  | .english =>
      ["Jan", "Feb", "Mar", "Apr", "May", "Jun", "Jul", "Aug", "Sep", "Oct", "Nov",
        "Dec"].getD (month - 1) ""

/-- Patterns other than the two ISO ones are printed day first. -/
def sampleIntl : Intl where
  format pattern language date :=
    if pattern = "yyyy-MM-dd" then some date.dayText
    else if pattern = "yyyy-MM-dd HH:mm:ss" then
      some (date.dayText ++ ' ' :: twoDigits date.hour ++ ':' :: twoDigits date.minute ++
        ':' :: twoDigits date.second)
    else
      some (twoDigits date.day ++ '-' :: (shortMonth language date.month).toList ++
        '-' :: fourDigits date.year)
  parses pattern text :=
    pattern == "yyyy-MM-dd HH:mm:ss" && decide (19 ≤ text.length) && (parse text).isSome
  format_iso _ _ := if_pos rfl
  format_dayFirst language date :=
    ⟨(shortMonth language date.month).toList ++ '-' :: fourDigits date.year, by
      rw [if_neg (by decide), if_neg (by decide), List.append_assoc, List.cons_append]⟩

/-- 5 March 2026, 14:30. -/
def sampleDate : DateTime :=
  DateTime.ofMinute 2026 3 5 14 30 (by decide) (by decide) (by decide) (by decide) (by decide)
    (by decide) (by decide)

theorem bookingDates_iff_example :
    (editMachine sampleIntl).Every
      (fun state edit => ReadersSucceed sampleIntl ((editMachine sampleIntl).next state edit))
      { date := "2026-03-01 00:00:00".toList, bookingSlot := some "10:00:00" }
      [.slotReschedule { language := .english, dateFormat := "yyyy-MM-dd HH:mm:ss" }
          sampleDate "12:00:00" true,
        .editDialog sampleDate true,
        .slotReschedule { language := .norwegian, dateFormat := "dd-MMM-yyyy" }
          sampleDate "14:00:00" false,
        .slotReschedule { language := .english, dateFormat := "yyyy-MM-dd HH:mm:ss" }
          sampleDate "16:00:00" true] := by
  have printed : plainText sampleIntl
      { language := .english, dateFormat := "yyyy-MM-dd HH:mm:ss" } sampleDate =
        some "2026-03-05 14:30:00".toList := by decide +kernel
  have plain : putsSuffix sampleIntl
      { language := .english, dateFormat := "yyyy-MM-dd HH:mm:ss" } sampleDate = false := by
    decide +kernel
  apply ((bookingDates_iff sampleIntl).2 _ _ ⟨by decide +kernel, fun _ => by decide +kernel⟩).mpr
  have read : ∀ text, plainText sampleIntl
      { language := .english, dateFormat := "yyyy-MM-dd HH:mm:ss" } sampleDate = some text →
        (parse text).isSome = true ∧ sampleIntl.parses "yyyy-MM-dd HH:mm:ss" text = true := by
    intro text shown
    rw [printed] at shown
    rw [← Option.some.inj shown]
    exact ⟨by decide +kernel, by decide +kernel⟩
  exact ⟨fun _ _ text shown => ⟨plain, read text shown⟩, trivial, nofun,
    fun _ _ text shown => ⟨plain, read text shown⟩, trivial⟩

/-- A post-job booking of that time is sent as `05-Mar-2026 2:30 PM`. -/
theorem postJobBooking_not_read :
    ¬ ∀ intl settings write, WritesChosen intl settings write := by
  intro always
  have read := always sampleIntl { language := .english, dateFormat := "yyyy-MM-dd" }
    (.postJobBooking sampleDate "2:30 PM".toList) "05-Mar-2026 2:30 PM".toList
    (by decide +kernel)
  have unread : parse "05-Mar-2026 2:30 PM".toList = none := by decide +kernel
  change parse _ = some _ at read
  rw [unread] at read
  cases read

end FiksOpp.BookingDates

