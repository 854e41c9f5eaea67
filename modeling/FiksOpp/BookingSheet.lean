/-
The slot sheet on the screen: what it highlights, what its Apply button does to the
service, and at what time.

Over the sheet of slots this adds the day on which it was built last, the fields of the
service that an accepted Apply writes, and a clock.  The first part is about the slot that
is highlighted, the second about slots that have passed.
-/

import FiksOpp.BookingSlotRuns

namespace FiksOpp.BookingSlots

open BookingDates (AppLanguage)
open EventRun
open IsoDateTime

structure ServiceFields where
  bookingDate : Option String
  bookingSlot : Option String
  bookingDay : Option String
  dateTimeVal : Option String
  deriving DecidableEq, Repr

structure Sheet where
  slots : SlotsState
  /-- The day of the last build. -/
  builtOn : ℤ
  bookingDate : Option String
  bookingDay : Option String
  dateTimeVal : Option String
  deriving DecidableEq, Repr

def Sheet.serviceFields (sheet : Sheet) : ServiceFields :=
  { bookingDate := sheet.bookingDate
    bookingSlot := sheet.slots.bookingSlot
    bookingDay := sheet.bookingDay
    dateTimeVal := sheet.dateTimeVal }

/-- Each clock reading is in microseconds. -/
inductive SheetEvent where
  | pickDate (date : Instant) (clock : ℤ)
  | tapSlot (index : ℕ) (clock : ℤ)
  | rebuild (clock : ℤ)
  /-- An update is asked for once more. -/
  | apply (confirmed : Bool) (clock : ℤ)
  | answer (accepted : Bool)
  /-- The button beside Apply. -/
  | cancel
  deriving DecidableEq, Repr

/-- An accepted Apply, with the slots that the sheet highlights as it is pressed. -/
structure Applied where
  write : SlotWrite
  clock : ℤ
  highlighted : List String
  deriving DecidableEq, Repr

def dayAt (clock : ℤ) : ℤ :=
  clock / 86400000000

def SlotItem.highlightedValue : SlotItem → Option String
  | .slotWidget value true => some value
  | _ => none

section Sheet

variable (toLowerCase : String → String) (language : AppLanguage)
  (formatBookingDate : String → Instant → String)

def drawnItems (sheet : Sheet) : Option (List SlotItem) :=
  match offered toLowerCase sheet.slots with
  | none => none
  | some slots => builtItems sheet.slots sheet.builtOn slots

def highlighted (sheet : Sheet) : List String :=
  ((drawnItems toLowerCase sheet).getD []).filterMap SlotItem.highlightedValue

def tapReaches (sheet : Sheet) (index : ℕ) : Bool :=
  match ((drawnItems toLowerCase sheet).getD [])[index]? with
  | some (.slotWidget _ _) => !sheet.slots.finished
  | _ => false

def openBookingSheet (now : Instant) (detail : ServiceDetail) (booking : Option BookingData)
    (bookingDay dateTimeVal : Option String) : Sheet :=
  { slots := (openSheet toLowerCase language now now.dayOf detail booking).1
    builtOn := now.dayOf
    bookingDate := detail.bookingDate
    bookingDay := bookingDay
    dateTimeVal := dateTimeVal }

/-- A new booking writes the service's fields as it is accepted. -/
def writesFields (state : SlotsState) (confirmed : Bool) : Bool :=
  !state.isUpdate && accepts state confirmed

def applyNext (sheet : Sheet) (confirmed : Bool) : Sheet :=
  let applied := { sheet with slots := next toLowerCase sheet.slots (.apply confirmed) }
  if writesFields sheet.slots confirmed then
    { applied with
      bookingDate := some (formatBookingDate "yyyy-MM-dd" sheet.slots.selectedHorizontalDate)
      bookingDay := some (dayName toLowerCase language sheet.slots.selectedHorizontalDate)
      dateTimeVal := some (formatBookingDate "dd-MMM-yyyy" sheet.slots.selectedHorizontalDate) }
  else applied

def sheetNext (sheet : Sheet) : SheetEvent → Sheet
  | .pickDate date clock =>
      if usable toLowerCase sheet.slots then
        { sheet with
          slots := next toLowerCase sheet.slots (.pickDate date (dayAt clock))
          builtOn := dayAt clock }
      else sheet
  | .tapSlot index clock =>
      if tapReaches toLowerCase sheet index then
        { sheet with
          slots := next toLowerCase sheet.slots (.tapSlot index sheet.builtOn)
          builtOn := dayAt clock }
      else sheet
  | .rebuild clock => { sheet with builtOn := dayAt clock }
  | .apply confirmed _ =>
      if usable toLowerCase sheet.slots then
        applyNext toLowerCase language formatBookingDate sheet confirmed
      else sheet
  | .answer accepted =>
      { sheet with slots := next toLowerCase sheet.slots (.answer accepted) }
  | .cancel => { sheet with slots := { sheet.slots with finished := true } }

def sheetOutputs (sheet : Sheet) : SheetEvent → List Applied
  | .apply confirmed clock =>
      if usable toLowerCase sheet.slots && accepts sheet.slots confirmed then
        [{ write := write toLowerCase language sheet.slots
           clock := clock
           highlighted := highlighted toLowerCase sheet }]
      else []
  | _ => []

def sheetMachine : Machine Sheet SheetEvent Applied where
  next := sheetNext toLowerCase language formatBookingDate
  outputs := sheetOutputs toLowerCase language

def HighlightsOnly (sheet : Sheet) (slot : Option String) : Prop :=
  ∃ value, slot = some value ∧ value ∈ highlighted toLowerCase sheet ∧
    ∀ other ∈ highlighted toLowerCase sheet, other = value

/-- What is asked of one step: an accepted Apply writes the highlighted slot, a refused or
cancelled one leaves the service as it is. -/
def StepKeeps (sheet : Sheet) : SheetEvent → Prop
  | .apply confirmed clock =>
      usable toLowerCase sheet.slots = true →
        if accepts sheet.slots confirmed then
          HighlightsOnly toLowerCase sheet (slotToWrite sheet.slots)
        else
          (sheetNext toLowerCase language formatBookingDate sheet
            (.apply confirmed clock)).serviceFields = sheet.serviceFields
  | .cancel =>
      (sheetNext toLowerCase language formatBookingDate sheet .cancel).serviceFields =
        sheet.serviceFields
  | _ => True

/-- A slot is selected, it is offered for the date, and the last build did not hide it. -/
def SelectionDrawn (sheet : Sheet) : Prop :=
  sheet.slots.isSlotSelected = true ∧
    ∃ slots value minutes, offered toLowerCase sheet.slots = some slots ∧ SlotsDrawn slots ∧
      sheet.slots.selectedSlot = some value ∧ value ∈ slots ∧
      slotMinutes value = some minutes ∧
      isPassed sheet.slots.selectedHorizontalDate sheet.slots.currentDay sheet.builtOn
        minutes = false

/-- An accepted Apply finds its slot drawn, another one finds the service's slot to be the
one that it is overwritten with. -/
def AppliesDrawn (sheet : Sheet) : SheetEvent → Prop
  | .apply confirmed _ =>
      usable toLowerCase sheet.slots = true →
        if accepts sheet.slots confirmed then SelectionDrawn toLowerCase sheet
        else sheet.slots.bookingSlot = slotToWrite sheet.slots
  | _ => True

def IndexAgrees (state : SlotsState) : Prop :=
  ∀ index, state.selectedIndex = some index →
    ∃ slots, offered toLowerCase state = some slots ∧ slots[index]? = state.selectedSlot

/-! ### The slots that are highlighted -/

section Selected

variable {selected : String} {passed : ℤ → Bool}

theorem eq_of_highlighted {selectedIndex : Option ℕ} {index : ℕ} {slots : List String}
    {items : List SlotItem}
    (built : buildItems [selected] passed selectedIndex index slots = some items)
    (agrees : ∀ position, selectedIndex = some (index + position) →
      slots[position]? = none ∨ slots[position]? = some selected)
    {value : String} (member : .slotWidget value true ∈ items) : value = selected := by
  induction slots generalizing selectedIndex index items with
  | nil =>
      cases built
      exact absurd member List.not_mem_nil
  | cons first rest ih =>
      obtain ⟨minutes, item, later, selectedIndex', own, same, builtLater, moved, shown⟩ :=
        buildItems_cons built
      rw [same] at member
      rcases List.mem_cons.mp member with here | inRest
      · rcases shown with ⟨_, hidden⟩ | ⟨_, head, widget⟩ | ⟨_, _, widget⟩
        · rw [hidden] at here
          cases here
        · rw [widget] at here
          cases here
          exact (Option.some.inj head).symm
        · rw [widget] at here
          have atIndex : selectedIndex = some (index + 0) := by
            have flag := (SlotItem.slotWidget.inj here).2
            exact of_decide_eq_true flag.symm
          have value_eq : value = first := (SlotItem.slotWidget.inj here).1
          rcases agrees 0 atIndex with outside | inside
          · cases outside
          · rw [value_eq]
            exact Option.some.inj inside
      · refine ih builtLater ?_ inRest
        intro position atIndex
        rcases moved with kept | here
        · rw [kept, Nat.add_assoc, Nat.add_comm 1 position] at atIndex
          exact agrees (position + 1) atIndex
        · rw [here] at atIndex
          have impossible := Option.some.inj atIndex
          omega

theorem highlighted_of_drawn {selectedIndex : Option ℕ} {index : ℕ} {slots : List String}
    {items : List SlotItem}
    (built : buildItems [selected] passed selectedIndex index slots = some items)
    (member : selected ∈ slots) {minutes : ℤ} (own : slotMinutes selected = some minutes)
    (notPassed : passed minutes = false) : .slotWidget selected true ∈ items := by
  induction slots generalizing selectedIndex index items with
  | nil => exact absurd member List.not_mem_nil
  | cons first rest ih =>
      obtain ⟨firstMinutes, item, later, _, firstOwn, same, builtLater, _, shown⟩ :=
        buildItems_cons built
      rw [same]
      rcases List.mem_cons.mp member with here | inRest
      · rw [← here, own] at firstOwn
        unfold DrawnAs at shown
        rw [← Option.some.inj firstOwn, notPassed, ← here] at shown
        rcases shown with ⟨impossible, _⟩ | ⟨_, _, widget⟩ | ⟨_, other, _⟩
        · cases impossible
        · rw [widget]
          exact List.mem_cons_self
        · exact absurd rfl other
      · exact List.mem_cons_of_mem item (ih builtLater inRest)

end Selected

theorem mem_highlighted_iff (sheet : Sheet) (value : String) :
    value ∈ highlighted toLowerCase sheet ↔
      ∃ items, drawnItems toLowerCase sheet = some items ∧ .slotWidget value true ∈ items := by
  unfold highlighted
  rw [List.mem_filterMap]
  constructor
  · intro found
    obtain ⟨item, member, shown⟩ := found
    cases drawn : drawnItems toLowerCase sheet with
    | none =>
        rw [drawn] at member
        exact absurd member List.not_mem_nil
    | some items =>
        rw [drawn, Option.getD_some] at member
        cases item with
        | offstage => cases shown
        | slotWidget own isSelected =>
            cases isSelected with
            | false => cases shown
            | true =>
                cases shown
                exact ⟨items, rfl, member⟩
  · intro found
    obtain ⟨items, drawn, member⟩ := found
    rw [drawn, Option.getD_some]
    exact ⟨_, member, rfl⟩

theorem slotMinutes_empty : slotMinutes "" = none := by decide +kernel

theorem selectedSlots_of_minutes {state : SlotsState} {value : String} {minutes : ℤ}
    (picked : state.selectedSlot = some value) (own : slotMinutes value = some minutes) :
    selectedSlots state = [value] := by
  unfold selectedSlots
  rw [picked]
  refine if_neg ?_
  intro empty
  rw [empty, slotMinutes_empty] at own
  cases own

theorem drawnItems_eq_some_iff (sheet : Sheet) (items : List SlotItem) :
    drawnItems toLowerCase sheet = some items ↔
      ∃ slots, offered toLowerCase sheet.slots = some slots ∧
        builtItems sheet.slots sheet.builtOn slots = some items := by
  unfold drawnItems
  cases offered toLowerCase sheet.slots with
  | none => exact iff_of_false nofun nofun
  | some slots =>
      constructor
      · intro drawn
        exact ⟨slots, rfl, drawn⟩
      · rintro ⟨found, same, drawn⟩
        cases same
        exact drawn

theorem selectionDrawn_of_highlighted {sheet : Sheet} {value : String}
    (written : slotToWrite sheet.slots = some value)
    (shown : value ∈ highlighted toLowerCase sheet) : SelectionDrawn toLowerCase sheet := by
  obtain ⟨items, drawn, member⟩ := (mem_highlighted_iff toLowerCase sheet value).mp shown
  obtain ⟨slots, atDate, built⟩ := (drawnItems_eq_some_iff toLowerCase sheet items).mp drawn
  obtain ⟨among, minutes, own, notPassed⟩ := drawn_of_buildItems built member
  have allDrawn : SlotsDrawn slots :=
    (buildItems_isSome_iff _ _ _ _ _).mp (Option.isSome_iff_exists.mpr ⟨items, built⟩)
  unfold slotToWrite at written
  cases selected : sheet.slots.isSlotSelected with
  | false =>
      rw [selected, if_neg Bool.false_ne_true] at written
      rw [← Option.some.inj written, slotMinutes_empty] at own
      cases own
  | true =>
      rw [selected, if_pos rfl] at written
      exact ⟨selected, slots, value, minutes, atDate, allDrawn, written, among, own, notPassed⟩

theorem highlightsOnly_of_drawn {sheet : Sheet} (agrees : IndexAgrees toLowerCase sheet.slots)
    (selection : SelectionDrawn toLowerCase sheet) :
    HighlightsOnly toLowerCase sheet (slotToWrite sheet.slots) := by
  obtain ⟨selected, slots, value, minutes, atDate, allDrawn, picked, among, own, notPassed⟩ :=
    selection
  obtain ⟨items, built⟩ := Option.isSome_iff_exists.mp
    ((buildItems_isSome_iff [value]
      (isPassed sheet.slots.selectedHorizontalDate sheet.slots.currentDay sheet.builtOn)
      sheet.slots.selectedIndex 0 slots).mpr allDrawn)
  have drawn : drawnItems toLowerCase sheet = some items := by
    rw [drawnItems_eq_some_iff]
    refine ⟨slots, atDate, ?_⟩
    unfold builtItems
    rw [selectedSlots_of_minutes picked own]
    exact built
  refine ⟨value, ?_, ?_, ?_⟩
  · unfold slotToWrite
    rw [if_pos selected]
    exact picked
  · rw [mem_highlighted_iff]
    exact ⟨items, drawn, highlighted_of_drawn built among own notPassed⟩
  · intro other shown
    obtain ⟨items', drawn', member⟩ := (mem_highlighted_iff toLowerCase sheet other).mp shown
    rw [drawn] at drawn'
    rw [← Option.some.inj drawn'] at member
    refine eq_of_highlighted built ?_ member
    intro position atIndex
    rw [Nat.zero_add] at atIndex
    obtain ⟨slots', atDate', here⟩ := agrees position atIndex
    rw [atDate] at atDate'
    rw [← Option.some.inj atDate', picked] at here
    exact Or.inr here

theorem highlightsOnly_iff {sheet : Sheet} (agrees : IndexAgrees toLowerCase sheet.slots) :
    HighlightsOnly toLowerCase sheet (slotToWrite sheet.slots) ↔
      SelectionDrawn toLowerCase sheet := by
  constructor
  · rintro ⟨value, written, shown, _⟩
    exact selectionDrawn_of_highlighted toLowerCase written shown
  · exact highlightsOnly_of_drawn toLowerCase agrees

theorem next_apply {state : SlotsState} (onScreen : usable toLowerCase state = true)
    (confirmed : Bool) :
    (next toLowerCase state (.apply confirmed)).bookingSlot = slotToWrite state := by
  unfold next
  dsimp only
  rw [if_pos onScreen]

theorem serviceFields_refused_iff {sheet : Sheet} {confirmed : Bool}
    (onScreen : usable toLowerCase sheet.slots = true)
    (refused : accepts sheet.slots confirmed = false) (clock : ℤ) :
    (sheetNext toLowerCase language formatBookingDate sheet
        (.apply confirmed clock)).serviceFields = sheet.serviceFields ↔
      sheet.slots.bookingSlot = slotToWrite sheet.slots := by
  have noFields : writesFields sheet.slots confirmed = false := by
    unfold writesFields
    rw [refused, Bool.and_false]
  have after : (sheetNext toLowerCase language formatBookingDate sheet
      (.apply confirmed clock)).serviceFields =
        { sheet.serviceFields with bookingSlot := slotToWrite sheet.slots } := by
    simp only [sheetNext, applyNext]
    rw [if_pos onScreen, noFields, if_neg Bool.false_ne_true]
    unfold Sheet.serviceFields
    rw [next_apply toLowerCase onScreen]
  rw [after]
  constructor
  · intro same
    exact (congrArg ServiceFields.bookingSlot same).symm
  · intro same
    rw [← same]
    rfl

theorem stepKeeps_iff_appliesDrawn {sheet : Sheet}
    (agrees : IndexAgrees toLowerCase sheet.slots) (event : SheetEvent) :
    StepKeeps toLowerCase language formatBookingDate sheet event ↔
      AppliesDrawn toLowerCase sheet event := by
  cases event with
  | apply confirmed clock =>
      refine forall_congr' fun onScreen => ?_
      cases accepted : accepts sheet.slots confirmed with
      | true =>
          rw [if_pos rfl, if_pos rfl]
          exact highlightsOnly_iff toLowerCase agrees
      | false =>
          rw [if_neg Bool.false_ne_true, if_neg Bool.false_ne_true]
          exact serviceFields_refused_iff toLowerCase language formatBookingDate onScreen
            accepted clock
  | cancel => exact iff_of_true rfl trivial
  | pickDate date clock => exact Iff.rfl
  | tapSlot index clock => exact Iff.rfl
  | rebuild clock => exact Iff.rfl
  | answer accepted => exact Iff.rfl

/-! ### The remembered index -/

theorem indexAgrees_of_none {state : SlotsState} (nowhere : state.selectedIndex = none) :
    IndexAgrees toLowerCase state := by
  intro index atIndex
  rw [nowhere] at atIndex
  cases atIndex

theorem indexAgrees_next (state : SlotsState) (event : SlotEvent)
    (agrees : IndexAgrees toLowerCase state) :
    IndexAgrees toLowerCase (next toLowerCase state event) := by
  cases event with
  | pickDate date today =>
      unfold next
      dsimp only
      split
      · exact indexAgrees_of_none toLowerCase rfl
      · exact agrees
  | tapSlot index today =>
      rcases next_tapSlot toLowerCase state index today with
        same | ⟨slots, items, item, shown, built, tapped, does⟩
      · rw [same]
        exact agrees
      · rw [does]
        cases item with
        | offstage => exact agrees
        | slotWidget value isSelected =>
            cases isSelected with
            | true => exact indexAgrees_of_none toLowerCase rfl
            | false =>
                intro other atIndex
                have here : index = other := Option.some.inj atIndex
                rw [← here]
                exact ⟨slots, shown, getElem?_of_buildItems built tapped⟩
  | apply confirmed =>
      unfold next
      dsimp only
      split
      · exact agrees
      · exact agrees
  | answer accepted =>
      unfold next
      dsimp only
      split
      · split
        · exact agrees
        · exact agrees
      · exact agrees

/-- What a step does to the slots: nothing, what one of their own events does, or it closes
the sheet. -/
theorem slots_sheetNext (sheet : Sheet) (event : SheetEvent) :
    (sheetNext toLowerCase language formatBookingDate sheet event).slots = sheet.slots ∨
      (∃ slotEvent, (sheetNext toLowerCase language formatBookingDate sheet event).slots =
        next toLowerCase sheet.slots slotEvent) ∨
      (sheetNext toLowerCase language formatBookingDate sheet event).slots =
        { sheet.slots with finished := true } := by
  cases event with
  | pickDate date clock =>
      unfold sheetNext
      dsimp only
      split
      · exact Or.inr (Or.inl ⟨.pickDate date (dayAt clock), rfl⟩)
      · exact Or.inl rfl
  | tapSlot index clock =>
      unfold sheetNext
      dsimp only
      split
      · exact Or.inr (Or.inl ⟨.tapSlot index sheet.builtOn, rfl⟩)
      · exact Or.inl rfl
  | rebuild clock => exact Or.inl rfl
  | apply confirmed clock =>
      unfold sheetNext applyNext
      dsimp only
      split
      · split
        · exact Or.inr (Or.inl ⟨.apply confirmed, rfl⟩)
        · exact Or.inr (Or.inl ⟨.apply confirmed, rfl⟩)
      · exact Or.inl rfl
  | answer accepted => exact Or.inr (Or.inl ⟨.answer accepted, rfl⟩)
  | cancel => exact Or.inr (Or.inr rfl)

theorem indexAgrees_sheetNext (sheet : Sheet) (event : SheetEvent)
    (agrees : IndexAgrees toLowerCase sheet.slots) :
    IndexAgrees toLowerCase
      (sheetNext toLowerCase language formatBookingDate sheet event).slots := by
  rcases slots_sheetNext toLowerCase language formatBookingDate sheet event with
    same | ⟨slotEvent, does⟩ | closed
  · rw [same]
    exact agrees
  · rw [does]
    exact indexAgrees_next toLowerCase _ _ agrees
  · rw [closed]
    exact agrees

theorem isUpdate_sheetNext (sheet : Sheet) (event : SheetEvent) :
    (sheetNext toLowerCase language formatBookingDate sheet event).slots.isUpdate =
      sheet.slots.isUpdate := by
  rcases slots_sheetNext toLowerCase language formatBookingDate sheet event with
    same | ⟨slotEvent, does⟩ | closed
  · rw [same]
  · rw [does]
    exact (fixed_next toLowerCase _ _).2
  · rw [closed]

theorem fixed_init (now : Instant) (detail : ServiceDetail) (booking : Option BookingData) :
    (init toLowerCase language now detail booking).1.selectedIndex = none ∧
      (init toLowerCase language now detail booking).1.isUpdate = booking.isSome := by
  unfold init
  dsimp only
  cases serviceDate now detail with
  | none => exact ⟨rfl, rfl⟩
  | some bookingDate =>
      cases booking with
      | none => exact ⟨rfl, rfl⟩
      | some booking =>
          dsimp only
          cases parse (booking.date.getD "").toList with
          | none => exact ⟨rfl, rfl⟩
          | some date =>
              dsimp only
              split
              · exact ⟨rfl, rfl⟩
              · exact ⟨rfl, rfl⟩

theorem fixed_onChanged (selectedSlots : List String) (state : SlotsState) :
    (onChanged selectedSlots state).selectedIndex = state.selectedIndex ∧
      (onChanged selectedSlots state).isUpdate = state.isUpdate := by
  cases selectedSlots with
  | nil => exact ⟨rfl, rfl⟩
  | cons first others => exact ⟨rfl, rfl⟩

theorem fixed_openBookingSheet (now : Instant) (detail : ServiceDetail)
    (booking : Option BookingData) (bookingDay dateTimeVal : Option String) :
    let opened := openBookingSheet toLowerCase language now detail booking bookingDay dateTimeVal
    opened.slots.selectedIndex = none ∧ opened.slots.isUpdate = booking.isSome := by
  have fixed := fixed_init toLowerCase language now detail booking
  unfold openBookingSheet openSheet
  dsimp only
  split
  · exact fixed
  · exact fixed
  · split
    · exact fixed
    · rw [(fixed_onChanged _ _).1, (fixed_onChanged _ _).2]
      exact fixed

theorem indexAgrees_openBookingSheet (now : Instant) (detail : ServiceDetail)
    (booking : Option BookingData) (bookingDay dateTimeVal : Option String) :
    IndexAgrees toLowerCase
      (openBookingSheet toLowerCase language now detail booking bookingDay dateTimeVal).slots :=
  indexAgrees_of_none toLowerCase
    (fixed_openBookingSheet toLowerCase language now detail booking bookingDay dateTimeVal).1

/-- Over every run of the sheet, each accepted Apply writes the highlighted slot and each
refused or cancelled one leaves the service as it is, exactly if the accepted ones find a
selected slot drawn and the others the service's slot as they write it. -/
theorem sheetRuns_keep_iff (now : Instant) (detail : ServiceDetail)
    (booking : Option BookingData) (bookingDay dateTimeVal : Option String)
    (events : List SheetEvent) :
    (sheetMachine toLowerCase language formatBookingDate).Every
        (StepKeeps toLowerCase language formatBookingDate)
        (openBookingSheet toLowerCase language now detail booking bookingDay dateTimeVal)
        events ↔
      (sheetMachine toLowerCase language formatBookingDate).Every (AppliesDrawn toLowerCase)
        (openBookingSheet toLowerCase language now detail booking bookingDay dateTimeVal)
        events :=
  Machine.every_congr (fun sheet => IndexAgrees toLowerCase sheet.slots)
    (indexAgrees_sheetNext toLowerCase language formatBookingDate)
    (fun _ event agrees =>
      stepKeeps_iff_appliesDrawn toLowerCase language formatBookingDate agrees event)
    (indexAgrees_openBookingSheet toLowerCase language now detail booking bookingDay dateTimeVal)

end Sheet

def plainDate (_pattern : String) (_date : Instant) : String :=
  "2026-03-02"

def chosenDetail : ServiceDetail :=
  { sampleDetail with bookingDate := some "2026-03-02", bookingSlot := some "10:00:00" }

/-- Taken back, the slot is highlighted still.  A new booking is then refused and loses the
slot it had; an update is accepted and sent without one. -/
theorem deselected_slot_counterexample :
    ¬ (sheetMachine asciiLower .english plainDate).Every
        (StepKeeps asciiLower .english plainDate)
        (openBookingSheet asciiLower .english sampleNow chosenDetail none none none)
        [.tapSlot 0 sampleNow.microseconds, .apply true sampleNow.microseconds] ∧
    ¬ (sheetMachine asciiLower .english plainDate).Every
        (StepKeeps asciiLower .english plainDate)
        (openBookingSheet asciiLower .english sampleNow sampleDetail (some sampleBooking)
          none none)
        [.tapSlot 1 sampleNow.microseconds, .tapSlot 1 sampleNow.microseconds,
          .apply true sampleNow.microseconds] := by
  constructor
  · intro keeps
    have kept := keeps.2.1 (by decide +kernel)
    rw [if_neg (by decide +kernel)] at kept
    have sameSlot := congrArg ServiceFields.bookingSlot kept
    revert sameSlot
    decide +kernel
  · intro keeps
    have kept := keeps.2.2.1 (by decide +kernel)
    rw [if_pos (by decide +kernel)] at kept
    obtain ⟨value, written, shown, _⟩ := kept
    rw [show highlighted asciiLower _ = ["11:00:00"] by decide +kernel] at shown
    rw [List.mem_singleton.mp shown] at written
    revert written
    decide +kernel

end FiksOpp.BookingSlots
