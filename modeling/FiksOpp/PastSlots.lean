/-
Slots that have passed by the time Apply is pressed.

The list of slots hides those that lie before the time of day which the selected date
carries, and only while that date is today; Apply looks at no clock.  What is applied is
therefore in time as long as the clock has not run past a slot that is still shown.
-/

import FiksOpp.BookingSheet

namespace FiksOpp.BookingSlots

open BookingDates (AppLanguage)
open EventRun
open IsoDateTime

section Past

variable (toLowerCase : String → String) (language : AppLanguage)
  (formatBookingDate : String → Instant → String)

def slotInstant (date : Instant) (minutes : ℤ) : ℤ :=
  date.dayOf * 86400000000 + minutes * 60000000

/-- A minute of grace is given; a slot that names no time has not passed. -/
def NotPast (applied : Applied) : Prop :=
  ∀ slot minutes, applied.write.bookingSlot = some slot → slotMinutes slot = some minutes →
    applied.clock - 60000000 ≤ slotInstant applied.write.bookingDate minutes

/-- The slot is offered for the date, and the last build did not hide it. -/
def OnScreen (sheet : Sheet) (slot : String) (minutes : ℤ) : Prop :=
  (∃ slots, offered toLowerCase sheet.slots = some slots ∧ slot ∈ slots) ∧
    slotMinutes slot = some minutes ∧
    isPassed sheet.slots.selectedHorizontalDate sheet.slots.currentDay sheet.builtOn
      minutes = false

def WrittenOnScreen (sheet : Sheet) : Prop :=
  ∀ slot minutes, slotToWrite sheet.slots = some slot → slotMinutes slot = some minutes →
    OnScreen toLowerCase sheet slot minutes

def ScreenInTime (sheet : Sheet) (clock : ℤ) : Prop :=
  ∀ slot minutes, OnScreen toLowerCase sheet slot minutes →
    clock - 60000000 ≤ slotInstant sheet.slots.selectedHorizontalDate minutes

def earliestShown (sheet : Sheet) : ℤ :=
  let date := sheet.slots.selectedHorizontalDate
  if date.dayOf = sheet.builtOn then
    max 0 ((date.dayOf - sheet.slots.currentDay) * 1440 + minuteOfDay date + 1)
  else 0

/-- The clock is at most a minute past the earliest slot that is not hidden. -/
def InTime (sheet : Sheet) (clock : ℤ) : Prop :=
  clock - 60000000 ≤ slotInstant sheet.slots.selectedHorizontalDate (earliestShown sheet)

/-- An accepted Apply writes a slot on the screen, and no slot there has passed. -/
def AppliesInTime (sheet : Sheet) : SheetEvent → Prop
  | .apply confirmed clock =>
      usable toLowerCase sheet.slots = true → accepts sheet.slots confirmed = true →
        WrittenOnScreen toLowerCase sheet ∧ ScreenInTime toLowerCase sheet clock
  | _ => True

/-- The sheet is rebuilt on the day it was built on, and an accepted Apply is pressed while
no slot on the screen has passed. -/
def SameDayInTime (sheet : Sheet) : SheetEvent → Prop
  | .pickDate _ _ => True
  | .tapSlot _ clock => dayAt clock = sheet.builtOn
  | .rebuild clock => dayAt clock = sheet.builtOn
  | .apply confirmed clock =>
      usable toLowerCase sheet.slots = true → accepts sheet.slots confirmed = true →
        ScreenInTime toLowerCase sheet clock
  | _ => True

theorem toInt_nonneg (units : List (Option Char)) : 0 ≤ toInt units := by
  unfold toInt
  split
  · rename_i digits
    have each : ∀ unit ∈ units, 0 ≤ (((unit.getD '0').toNat : ℤ) - 48) := by
      intro unit member
      have digit := List.all_eq_true.mp digits.2 unit member
      cases unit with
      | none => cases digit
      | some char =>
          have bounds : 48 ≤ char.toNat := by
            rw [Option.map_some, Option.getD_some, Char.isDigit, Bool.and_eq_true,
              decide_eq_true_eq] at digit
            exact digit.1
          rw [Option.getD_some]
          omega
    have step : ∀ (rest : List (Option Char)) (value : ℤ), 0 ≤ value →
        (∀ unit ∈ rest, 0 ≤ (((unit.getD '0').toNat : ℤ) - 48)) →
        0 ≤ rest.foldl (fun value unit => 10 * value + (((unit.getD '0').toNat : ℤ) - 48))
          value := by
      intro rest
      induction rest with
      | nil =>
          intro value positive _
          exact positive
      | cons unit rest ih =>
          intro value positive all
          rw [List.forall_mem_cons] at all
          rw [List.foldl_cons]
          apply ih _ _ all.2
          have here := all.1
          omega
    exact step units 0 (le_refl 0) each
  · exact le_refl 0

theorem slotMinutes_nonneg {value : String} {minutes : ℤ}
    (own : slotMinutes value = some minutes) : 0 ≤ minutes := by
  unfold slotMinutes at own
  split at own
  · rw [← Option.some.inj own]
    have hours := toInt_nonneg ((codeUnits value).take 2)
    have rest := toInt_nonneg (((codeUnits value).drop 3).take 2)
    omega
  · cases own

theorem isPassed_eq_false_iff (date : Instant) (currentDay today minutes : ℤ) :
    isPassed date currentDay today minutes = false ↔
      (date.dayOf = today →
        (date.dayOf - currentDay) * 1440 + minuteOfDay date + 1 ≤ minutes) := by
  unfold isPassed
  rw [Bool.and_eq_false_iff, decide_eq_false_iff_not, decide_eq_false_iff_not]
  constructor
  · intro shown sameDay
    rcases shown with other | later
    · exact absurd sameDay other
    · omega
  · intro shown
    by_cases sameDay : date.dayOf = today
    · right
      have later := shown sameDay
      omega
    · left
      exact sameDay

theorem isPassed_iff_earliestShown (sheet : Sheet) {minutes : ℤ} (nonneg : 0 ≤ minutes) :
    isPassed sheet.slots.selectedHorizontalDate sheet.slots.currentDay sheet.builtOn
        minutes = false ↔
      earliestShown sheet ≤ minutes := by
  rw [isPassed_eq_false_iff]
  unfold earliestShown
  dsimp only
  by_cases sameDay : sheet.slots.selectedHorizontalDate.dayOf = sheet.builtOn
  · rw [if_pos sameDay]
    constructor
    · intro later
      exact max_le nonneg (later sameDay)
    · intro later _
      exact le_trans (le_max_right _ _) later
  · rw [if_neg sameDay]
    exact iff_of_true (fun same => absurd same sameDay) nonneg

theorem earliestShown_nonneg (sheet : Sheet) : 0 ≤ earliestShown sheet := by
  unfold earliestShown
  dsimp only
  split
  · exact le_max_left _ _
  · exact le_refl 0

theorem inTime_iff (sheet : Sheet) (clock : ℤ) :
    (∀ minutes, 0 ≤ minutes →
        isPassed sheet.slots.selectedHorizontalDate sheet.slots.currentDay sheet.builtOn
          minutes = false →
        clock - 60000000 ≤ slotInstant sheet.slots.selectedHorizontalDate minutes) ↔
      InTime sheet clock := by
  have earliest := earliestShown_nonneg sheet
  constructor
  · intro all
    exact all _ earliest ((isPassed_iff_earliestShown sheet earliest).mpr (le_refl _))
  · intro inTime minutes nonneg shown
    have later := (isPassed_iff_earliestShown sheet nonneg).mp shown
    unfold InTime slotInstant at inTime
    unfold slotInstant
    omega

theorem screenInTime_of_inTime {sheet : Sheet} {clock : ℤ} (inTime : InTime sheet clock) :
    ScreenInTime toLowerCase sheet clock := by
  rintro slot minutes ⟨_, own, shown⟩
  exact (inTime_iff sheet clock).mpr inTime minutes (slotMinutes_nonneg own) shown

/-! ### Runs -/

theorem outputs_notPast {sheet : Sheet} {event : SheetEvent}
    (inTime : AppliesInTime toLowerCase sheet event) :
    ∀ applied ∈ sheetOutputs toLowerCase language sheet event, NotPast applied := by
  cases event with
  | apply confirmed clock =>
      intro applied member
      unfold sheetOutputs at member
      dsimp only at member
      split at member
      · rename_i accepted
        rw [Bool.and_eq_true] at accepted
        rw [List.mem_singleton.mp member]
        obtain ⟨shown, timely⟩ := inTime accepted.1 accepted.2
        intro slot minutes written own
        exact timely slot minutes (shown slot minutes written own)
      · exact absurd member List.not_mem_nil
  | _ =>
      intro applied impossible
      exact absurd impossible List.not_mem_nil

theorem writtenOnScreen_of_unselected {sheet : Sheet}
    (unselected : sheet.slots.isSlotSelected = false) : WrittenOnScreen toLowerCase sheet := by
  intro slot minutes written own
  unfold slotToWrite at written
  rw [unselected, if_neg Bool.false_ne_true] at written
  rw [← Option.some.inj written, slotMinutes_empty] at own
  cases own

theorem writtenOnScreen_tapSlot {sheet : Sheet} {index : ℕ}
    (shown : WrittenOnScreen toLowerCase sheet) :
    WrittenOnScreen toLowerCase
      { sheet with slots := next toLowerCase sheet.slots (.tapSlot index sheet.builtOn) } := by
  rcases next_tapSlot toLowerCase sheet.slots index sheet.builtOn with
    same | ⟨slots, items, item, atDate, built, tapped, does⟩
  · rw [same]
    exact shown
  · rw [does]
    cases item with
    | offstage => exact shown
    | slotWidget value isSelected =>
        cases isSelected with
        | true => exact writtenOnScreen_of_unselected toLowerCase rfl
        | false =>
            intro slot minutes written own
            have same : value = slot := Option.some.inj written
            obtain ⟨among, drawnMinutes, drawnOwn, notPassed⟩ :=
              drawn_of_buildItems built (List.mem_of_getElem? tapped)
            rw [same] at among drawnOwn
            rw [own] at drawnOwn
            rw [← Option.some.inj drawnOwn] at notPassed
            exact ⟨⟨slots, atDate, among⟩, own, notPassed⟩

theorem writtenOnScreen_apply {sheet : Sheet} {confirmed : Bool}
    (shown : WrittenOnScreen toLowerCase sheet) :
    WrittenOnScreen toLowerCase
      (applyNext toLowerCase language formatBookingDate sheet confirmed) := by
  unfold applyNext next
  dsimp only
  split
  · split
    · exact shown
    · exact shown
  · split
    · exact shown
    · exact shown

theorem writtenOnScreen_answer {sheet : Sheet} {accepted : Bool}
    (shown : WrittenOnScreen toLowerCase sheet) :
    WrittenOnScreen toLowerCase
      { sheet with slots := next toLowerCase sheet.slots (.answer accepted) } := by
  unfold next
  dsimp only
  split
  · split
    · exact shown
    · exact shown
  · exact shown

/-- While the day does not change, what is selected stays on the screen. -/
theorem writtenOnScreen_sheetNext {sheet : Sheet} {event : SheetEvent}
    (shown : WrittenOnScreen toLowerCase sheet)
    (sameDay : SameDayInTime toLowerCase sheet event) :
    WrittenOnScreen toLowerCase
      (sheetNext toLowerCase language formatBookingDate sheet event) := by
  cases event with
  | pickDate date clock =>
      unfold sheetNext
      dsimp only
      split
      · rename_i onScreen
        apply writtenOnScreen_of_unselected
        unfold next
        dsimp only
        rw [if_pos onScreen]
      · exact shown
  | tapSlot index clock =>
      have sameBuild : dayAt clock = sheet.builtOn := sameDay
      unfold sheetNext
      dsimp only
      split
      · rw [sameBuild]
        exact writtenOnScreen_tapSlot toLowerCase shown
      · exact shown
  | rebuild clock =>
      have sameBuild : dayAt clock = sheet.builtOn := sameDay
      unfold sheetNext
      dsimp only
      rw [sameBuild]
      exact shown
  | apply confirmed clock =>
      unfold sheetNext
      dsimp only
      split
      · exact writtenOnScreen_apply toLowerCase language formatBookingDate shown
      · exact shown
  | answer accepted => exact writtenOnScreen_answer toLowerCase shown
  | cancel => exact shown

theorem appliesInTime_of_sameDay {sheet : Sheet} {event : SheetEvent}
    (shown : WrittenOnScreen toLowerCase sheet)
    (sameDay : SameDayInTime toLowerCase sheet event) :
    AppliesInTime toLowerCase sheet event := by
  cases event with
  | apply confirmed clock =>
      intro onScreen accepted
      exact ⟨shown, sameDay onScreen accepted⟩
  | _ => trivial

/-- No past slot is applied in a run whose accepted Applies write a slot on the screen while
no slot there has passed.  What is selected is on the screen as long as the sheet is rebuilt
on one day only, and a clock that has not passed the earliest slot which is not hidden has
passed none. -/
theorem appliedSlots_notPast :
    (∀ start events,
      (sheetMachine toLowerCase language formatBookingDate).Every (AppliesInTime toLowerCase)
          start events →
        ∀ applied ∈ (sheetMachine toLowerCase language formatBookingDate).trace start events,
          NotPast applied) ∧
    (∀ start events, WrittenOnScreen toLowerCase start →
      (sheetMachine toLowerCase language formatBookingDate).Every (SameDayInTime toLowerCase)
          start events →
        ∀ applied ∈ (sheetMachine toLowerCase language formatBookingDate).trace start events,
          NotPast applied) ∧
    ∀ sheet clock, InTime sheet clock → ScreenInTime toLowerCase sheet clock := by
  have timely : ∀ start events,
      (sheetMachine toLowerCase language formatBookingDate).Every (AppliesInTime toLowerCase)
          start events →
        ∀ applied ∈ (sheetMachine toLowerCase language formatBookingDate).trace start events,
          NotPast applied := by
    intro start events meets
    rw [Machine.forall_trace_iff]
    exact Machine.every_of_invariant (fun _ => True)
      (fun _ _ _ inTime => ⟨trivial, outputs_notPast toLowerCase language inTime⟩) trivial meets
  refine ⟨timely, ?_, fun _ _ => screenInTime_of_inTime toLowerCase⟩
  intro start events shown sameDay
  apply timely
  exact Machine.every_of_invariant (WrittenOnScreen toLowerCase)
    (fun _ _ kept onDay =>
      ⟨writtenOnScreen_sheetNext toLowerCase language formatBookingDate kept onDay,
        appliesInTime_of_sameDay toLowerCase kept onDay⟩) shown sameDay

end Past

def mondayMorning : Instant where
  microseconds := (sampleToday + 1) * 86400000000 + 598 * 60000000
  isUtc := false

theorem appliedSlots_notPast_example :
    ∀ applied ∈ (sheetMachine asciiLower .english plainDate).trace
        (openBookingSheet asciiLower .english mondayMorning sampleDetail none none none)
        [.tapSlot 0 mondayMorning.microseconds, .apply true (mondayMorning.microseconds + 1)],
      NotPast applied := by
  have spec := appliedSlots_notPast asciiLower .english plainDate
  have start : WrittenOnScreen asciiLower
      (openBookingSheet asciiLower .english mondayMorning sampleDetail none none none) :=
    writtenOnScreen_of_unselected asciiLower rfl
  have sameDay : (sheetMachine asciiLower .english plainDate).Every
      (SameDayInTime asciiLower)
      (openBookingSheet asciiLower .english mondayMorning sampleDetail none none none)
      [.tapSlot 0 mondayMorning.microseconds,
        .apply true (mondayMorning.microseconds + 1)] := by
    refine ⟨?_, ?_, trivial⟩
    · change dayAt _ = _
      decide +kernel
    · intro _ _
      apply screenInTime_of_inTime
      change _ ≤ _
      decide +kernel
  exact spec.2.1 _ _ start sameDay

/-- The slot at ten is shown two minutes before, and applied half an hour after. -/
theorem late_apply_counterexample :
    ¬ ∀ applied ∈ (sheetMachine asciiLower .english plainDate).trace
        (openBookingSheet asciiLower .english mondayMorning sampleDetail none none none)
        [.tapSlot 0 mondayMorning.microseconds,
          .apply true (mondayMorning.microseconds + 32 * 60000000)],
      NotPast applied := by
  have sent :
      { write :=
          { bookingDate := mondayMorning, bookingSlot := some "10:00:00", bookingDay := "mon" }
        clock := mondayMorning.microseconds + 32 * 60000000
        highlighted := ["10:00:00"] } ∈
        (sheetMachine asciiLower .english plainDate).trace
          (openBookingSheet asciiLower .english mondayMorning sampleDetail none none none)
          [.tapSlot 0 mondayMorning.microseconds,
            .apply true (mondayMorning.microseconds + 32 * 60000000)] := by decide +kernel
  intro always
  have inTime := always _ sent "10:00:00" 600 rfl (by decide +kernel)
  revert inTime
  decide +kernel

end FiksOpp.BookingSlots
