/-
What the slot sheet sends, over every order of picks, taps and applications.

A selected slot stays among those offered, whatever is picked and tapped; what is
applied carries it only while the sheet and the list of slots agree that one is selected.
-/

import FiksOpp.BookingSlots

namespace FiksOpp.BookingSlots

open BookingDates (AppLanguage)
open EventRun
open IsoDateTime

section Sheet

variable (toLowerCase : String → String) (language : AppLanguage)

/-- The slot is one of those of the entry for the date's weekday, and the day is that
entry's key. -/
def RightWrite (slotsList : List SlotData) (sent : SlotWrite) : Prop :=
  ∃ entry, entryOf toLowerCase sent.bookingDate slotsList = some entry ∧
    (∃ slot ∈ entry.slot.getD [], sent.bookingSlot = some slot) ∧
    entry.day = some sent.bookingDay

def SlotOffered (state : SlotsState) : Prop :=
  ∃ slots, offered toLowerCase state = some slots ∧
    ∃ slot ∈ slots, slotToWrite state = some slot

/-- The entry's key is the lower-case name of the weekday in the app's language. -/
def DayKeyLocalized (state : SlotsState) : Prop :=
  ∃ entry, entryOf toLowerCase state.selectedHorizontalDate state.slotsList = some entry ∧
    entry.day = some (dayName toLowerCase language state.selectedHorizontalDate)

def AppliesOffered (state : SlotsState) : SlotEvent → Prop
  | .apply confirmed =>
      usable toLowerCase state = true → accepts state confirmed = true →
        SlotOffered toLowerCase state ∧ DayKeyLocalized toLowerCase language state
  | _ => True

/-- An update is applied with a slot selected, unless an empty slot is offered. -/
def AppliesSelected (state : SlotsState) : SlotEvent → Prop
  | .apply confirmed =>
      usable toLowerCase state = true → accepts state confirmed = true →
        (state.isUpdate = true → state.isSlotSelected = true ∨
          ∃ slots, offered toLowerCase state = some slots ∧ "" ∈ slots) ∧
        DayKeyLocalized toLowerCase language state
  | _ => True

/-- A slot that the service's details bring along is offered on the first date. -/
def PreselectionOffered (now : Instant) (detail : ServiceDetail)
    (booking : Option BookingData) : Prop :=
  ∀ slots, offered toLowerCase (init toLowerCase language now detail booking).1 = some slots →
    slots ≠ [] →
      ∀ slot ∈ selectedSlots (init toLowerCase language now detail booking).1, slot ∈ slots

def SelectionOffered (state : SlotsState) : Prop :=
  state.isSlotSelected = true →
    ∃ slots, offered toLowerCase state = some slots ∧
      ∃ slot ∈ slots, state.selectedSlot = some slot

/-- How one slot is drawn: hidden, as the selected one, or by the remembered index. -/
def DrawnAs (selectedSlots : List String) (passed : ℤ → Bool) (selectedIndex : Option ℕ)
    (index : ℕ) (value : String) (minutes : ℤ) (item : SlotItem) : Prop :=
  passed minutes = true ∧ item = .offstage ∨
    passed minutes = false ∧ selectedSlots.head? = some value ∧ item = .slotWidget value true ∨
    passed minutes = false ∧ selectedSlots.head? ≠ some value ∧
      item = .slotWidget value (decide (selectedIndex = some index))

section Items

variable {selectedSlots : List String} {passed : ℤ → Bool} {selectedIndex : Option ℕ}
  {index : ℕ}

theorem DrawnAs.of_widget {first : String} {minutes : ℤ} {item : SlotItem} {value : String}
    {isSelected : Bool}
    (shown : DrawnAs selectedSlots passed selectedIndex index first minutes item)
    (widget : item = .slotWidget value isSelected) : first = value ∧ passed minutes = false := by
  rcases shown with ⟨_, hidden⟩ | ⟨drawn, _, own⟩ | ⟨drawn, _, own⟩
  · rw [hidden] at widget
    cases widget
  · rw [own] at widget
    exact ⟨(SlotItem.slotWidget.inj widget).1, drawn⟩
  · rw [own] at widget
    exact ⟨(SlotItem.slotWidget.inj widget).1, drawn⟩

theorem buildItems_cons {value : String} {rest : List String} {items : List SlotItem}
    (built : buildItems selectedSlots passed selectedIndex index (value :: rest) = some items) :
    ∃ minutes item later selectedIndex', slotMinutes value = some minutes ∧
      items = item :: later ∧
      buildItems selectedSlots passed selectedIndex' (index + 1) rest = some later ∧
      (selectedIndex' = selectedIndex ∨ selectedIndex' = some index) ∧
      DrawnAs selectedSlots passed selectedIndex index value minutes item := by
  unfold buildItems at built
  cases minutes : slotMinutes value with
  | none =>
      rw [minutes] at built
      cases built
  | some own =>
      rw [minutes] at built
      dsimp only at built
      split at built
      · rename_i hidden
        obtain ⟨later, builtLater, same⟩ := Option.map_eq_some_iff.mp built
        exact ⟨own, _, later, _, rfl, same.symm, builtLater, Or.inl rfl, Or.inl ⟨hidden, rfl⟩⟩
      · rename_i drawn
        rw [Bool.not_eq_true] at drawn
        split at built
        · rename_i selected
          obtain ⟨later, builtLater, same⟩ := Option.map_eq_some_iff.mp built
          exact ⟨own, _, later, _, rfl, same.symm, builtLater, Or.inr rfl,
            Or.inr (Or.inl ⟨drawn, selected, rfl⟩)⟩
        · rename_i other
          obtain ⟨later, builtLater, same⟩ := Option.map_eq_some_iff.mp built
          exact ⟨own, _, later, _, rfl, same.symm, builtLater, Or.inl rfl,
            Or.inr (Or.inr ⟨drawn, other, rfl⟩)⟩

theorem getElem?_of_buildItems {slots : List String} {items : List SlotItem}
    (built : buildItems selectedSlots passed selectedIndex index slots = some items)
    {position : ℕ} {value : String} {isSelected : Bool}
    (drawn : items[position]? = some (.slotWidget value isSelected)) :
    slots[position]? = some value := by
  induction slots generalizing selectedIndex index items position with
  | nil =>
      cases built
      cases drawn
  | cons first rest ih =>
      obtain ⟨minutes, item, later, _, _, same, builtLater, _, shown⟩ := buildItems_cons built
      rw [same] at drawn
      cases position with
      | zero => exact congrArg some (shown.of_widget (Option.some.inj drawn)).1
      | succ position => exact ih builtLater drawn

theorem drawn_of_buildItems {slots : List String} {items : List SlotItem}
    (built : buildItems selectedSlots passed selectedIndex index slots = some items)
    {value : String} {isSelected : Bool} (member : .slotWidget value isSelected ∈ items) :
    value ∈ slots ∧ ∃ minutes, slotMinutes value = some minutes ∧ passed minutes = false := by
  induction slots generalizing selectedIndex index items with
  | nil =>
      cases built
      exact absurd member List.not_mem_nil
  | cons first rest ih =>
      obtain ⟨minutes, item, later, _, own, same, builtLater, _, shown⟩ := buildItems_cons built
      rw [same] at member
      rcases List.mem_cons.mp member with here | inRest
      · obtain ⟨rfl, drawn⟩ := shown.of_widget here.symm
        exact ⟨List.mem_cons_self, minutes, own, drawn⟩
      · have found := ih builtLater inRest
        exact ⟨List.mem_cons_of_mem first found.1, found.2⟩

end Items

/-! ### Runs -/

theorem fixed_tapItem (index : ℕ) (state : SlotsState) (item : SlotItem) :
    (tapItem index state item).slotsList = state.slotsList ∧
      (tapItem index state item).isUpdate = state.isUpdate := by
  cases item with
  | offstage => exact ⟨rfl, rfl⟩
  | slotWidget value isSelected =>
      cases isSelected with
      | true => exact ⟨rfl, rfl⟩
      | false => exact ⟨rfl, rfl⟩

theorem next_tapSlot (state : SlotsState) (index : ℕ) (today : ℤ) :
    next toLowerCase state (.tapSlot index today) = state ∨
      ∃ slots items item, offered toLowerCase state = some slots ∧
        builtItems state today slots = some items ∧ items[index]? = some item ∧
        next toLowerCase state (.tapSlot index today) = tapItem index state item := by
  unfold next
  dsimp only
  split
  · exact Or.inl rfl
  · cases shown : offered toLowerCase state with
    | none => exact Or.inl rfl
    | some slots =>
        dsimp only
        cases built : builtItems state today slots with
        | none => exact Or.inl rfl
        | some items =>
            dsimp only
            cases tapped : items[index]? with
            | none => exact Or.inl rfl
            | some item => exact Or.inr ⟨slots, items, item, rfl, built, tapped, rfl⟩

theorem fixed_next (state : SlotsState) (event : SlotEvent) :
    (next toLowerCase state event).slotsList = state.slotsList ∧
      (next toLowerCase state event).isUpdate = state.isUpdate := by
  cases event with
  | pickDate date today =>
      unfold next
      dsimp only
      split
      · exact ⟨rfl, rfl⟩
      · exact ⟨rfl, rfl⟩
  | tapSlot index today =>
      rcases next_tapSlot toLowerCase state index today with same | ⟨_, _, item, _, _, _, does⟩
      · rw [same]
        exact ⟨rfl, rfl⟩
      · rw [does]
        exact fixed_tapItem index state item
  | apply confirmed =>
      unfold next
      dsimp only
      split
      · exact ⟨rfl, rfl⟩
      · exact ⟨rfl, rfl⟩
  | answer accepted =>
      unfold next
      dsimp only
      split
      · split
        · exact ⟨rfl, rfl⟩
        · exact ⟨rfl, rfl⟩
      · exact ⟨rfl, rfl⟩

theorem slotsList_next (state : SlotsState) (event : SlotEvent) :
    (next toLowerCase state event).slotsList = state.slotsList :=
  (fixed_next toLowerCase state event).1

theorem selectionOffered_next (state : SlotsState) (event : SlotEvent)
    (selected : SelectionOffered toLowerCase state) :
    SelectionOffered toLowerCase (next toLowerCase state event) := by
  cases event with
  | pickDate date today =>
      unfold next
      dsimp only
      split
      · intro impossible
        cases impossible
      · exact selected
  | tapSlot index today =>
      rcases next_tapSlot toLowerCase state index today with
        same | ⟨slots, items, item, shown, built, tapped, does⟩
      · rw [same]
        exact selected
      · rw [does]
        cases item with
        | offstage => exact selected
        | slotWidget value isSelected =>
            cases isSelected with
            | true =>
                intro impossible
                cases impossible
            | false =>
                intro _
                have offeredValue : value ∈ slots :=
                  (drawn_of_buildItems built (List.mem_of_getElem? tapped)).1
                exact ⟨slots, shown, value, offeredValue, rfl⟩
  | apply confirmed =>
      unfold next
      dsimp only
      split
      · exact selected
      · exact selected
  | answer accepted =>
      unfold next
      dsimp only
      split
      · split
        · exact selected
        · exact selected
      · exact selected

theorem selectionOffered_openSheet {now : Instant} {detail : ServiceDetail}
    {booking : Option BookingData}
    (preselected : PreselectionOffered toLowerCase language now detail booking) (today : ℤ) :
    SelectionOffered toLowerCase
      (openSheet toLowerCase language now today detail booking).1 := by
  have unselected :
      (init toLowerCase language now detail booking).1.isSlotSelected = false := by
    unfold init
    dsimp only
    cases serviceDate now detail with
    | none => rfl
    | some bookingDate =>
        cases booking with
        | none => rfl
        | some booking =>
            dsimp only
            cases parse (booking.date.getD "").toList with
            | none => rfl
            | some date =>
                dsimp only
                split
                · rfl
                · rfl
  have noSelection : ∀ state : SlotsState, state.isSlotSelected = false →
      SelectionOffered toLowerCase state := by
    intro state unselected selected
    rw [unselected] at selected
    cases selected
  unfold PreselectionOffered at preselected
  unfold openSheet
  dsimp only
  rw [offered_currentDay]
  cases shown : offered toLowerCase (init toLowerCase language now detail booking).1 with
  | none => exact noSelection _ unselected
  | some slots =>
      cases slots with
      | nil => exact noSelection _ unselected
      | cons first rest =>
          have among := preselected (first :: rest) shown (List.cons_ne_nil first rest)
          dsimp only
          split
          · exact noSelection _ unselected
          · rename_i nonempty
            intro _
            have sameSelected : selectedSlots
                { (init toLowerCase language now detail booking).1 with currentDay := today } =
                selectedSlots (init toLowerCase language now detail booking).1 := rfl
            rw [sameSelected]
            cases picked : selectedSlots (init toLowerCase language now detail booking).1 with
            | nil =>
                rw [sameSelected, picked] at nonempty
                exact absurd rfl nonempty
            | cons slot others =>
                rw [picked] at among
                exact ⟨first :: rest, shown, slot, among slot List.mem_cons_self, rfl⟩

theorem rightWrite_write_iff (state : SlotsState) :
    RightWrite toLowerCase state.slotsList (write toLowerCase language state) ↔
      SlotOffered toLowerCase state ∧ DayKeyLocalized toLowerCase language state := by
  unfold RightWrite SlotOffered DayKeyLocalized offered write
  dsimp only
  constructor
  · intro right
    obtain ⟨entry, shown, slot, key⟩ := right
    exact ⟨⟨entry.slot.getD [], by rw [shown]; rfl, slot⟩, entry, shown, key⟩
  · intro both
    obtain ⟨⟨slots, shown, slot⟩, entry, found, key⟩ := both
    rw [found] at shown
    rw [← Option.some.inj shown] at slot
    exact ⟨entry, found, slot, key⟩

theorem outputs_right_iff (state : SlotsState) (event : SlotEvent) :
    (∀ sent ∈ outputs toLowerCase language state event,
        RightWrite toLowerCase state.slotsList sent) ↔
      AppliesOffered toLowerCase language state event := by
  cases event with
  | apply confirmed =>
      unfold outputs AppliesOffered
      dsimp only
      by_cases sends : usable toLowerCase state = true ∧ accepts state confirmed = true
      · rw [if_pos (Bool.and_eq_true_iff.mpr sends), List.forall_mem_singleton,
          rightWrite_write_iff]
        constructor
        · intro right _ _
          exact right
        · intro right
          exact right sends.1 sends.2
      · rw [if_neg (fun both => sends (Bool.and_eq_true_iff.mp both))]
        refine iff_of_true (fun _ impossible => absurd impossible List.not_mem_nil) ?_
        intro onScreen accepted
        exact absurd ⟨onScreen, accepted⟩ sends
  | pickDate date today =>
      exact iff_of_true (fun _ impossible => absurd impossible List.not_mem_nil) trivial
  | tapSlot index today =>
      exact iff_of_true (fun _ impossible => absurd impossible List.not_mem_nil) trivial
  | answer accepted =>
      exact iff_of_true (fun _ impossible => absurd impossible List.not_mem_nil) trivial

theorem trace_right_iff (start : SlotsState) (events : List SlotEvent) :
    (∀ sent ∈ (machine toLowerCase language).trace start events,
        RightWrite toLowerCase start.slotsList sent) ↔
      (machine toLowerCase language).Every (AppliesOffered toLowerCase language)
        start events := by
  rw [Machine.forall_trace_iff]
  apply Machine.every_congr (fun state => state.slotsList = start.slotsList) ?_ ?_ rfl
  · intro state event same
    exact (slotsList_next toLowerCase state event).trans same
  · intro state event same
    rw [← same]
    exact outputs_right_iff toLowerCase language state event

theorem appliesOffered_iff_appliesSelected {state : SlotsState}
    (selected : SelectionOffered toLowerCase state) (event : SlotEvent) :
    AppliesOffered toLowerCase language state event ↔
      AppliesSelected toLowerCase language state event := by
  cases event with
  | apply confirmed =>
      unfold AppliesOffered AppliesSelected
      refine forall_congr' fun onScreen => forall_congr' fun accepted => and_congr_left' ?_
      unfold SlotOffered slotToWrite
      cases picked : state.isSlotSelected with
      | true =>
          rw [if_pos rfl]
          exact iff_of_true (selected picked) (fun _ => Or.inl rfl)
      | false =>
          rw [if_neg Bool.false_ne_true]
          have isUpdate : state.isUpdate = true := by
            unfold accepts slotToWrite at accepted
            rw [picked, if_neg Bool.false_ne_true] at accepted
            cases update : state.isUpdate with
            | true => rfl
            | false =>
                rw [update, if_neg Bool.false_ne_true] at accepted
                cases accepted
          constructor
          · intro offeredSlot _
            obtain ⟨slots, shown, slot, member, empty⟩ := offeredSlot
            rw [← Option.some.inj empty] at member
            exact Or.inr ⟨slots, shown, member⟩
          · intro selects
            rcases selects isUpdate with impossible | ⟨slots, shown, member⟩
            · cases impossible
            · exact ⟨slots, shown, "", member, rfl⟩
  | pickDate date today => exact Iff.rfl
  | tapSlot index today => exact Iff.rfl
  | answer accepted => exact Iff.rfl

theorem day_of_entryOf {date : Instant} {slotsList : List SlotData} {entry : SlotData}
    (shown : entryOf toLowerCase date slotsList = some entry)
    (hasSlots : entry.slot.getD [] ≠ []) :
    ∃ key, entry.day = some key ∧ toLowerCase key = toLowerCase (shortDay (weekday date)) := by
  induction slotsList with
  | nil =>
      cases shown
      exact absurd rfl hasSlots
  | cons element rest ih =>
      unfold entryOf at shown
      cases day : element.day with
      | none =>
          rw [day] at shown
          cases shown
      | some key =>
          rw [day] at shown
          dsimp only at shown
          by_cases here : toLowerCase key = toLowerCase (shortDay (weekday date))
          · rw [if_pos here] at shown
            rw [← Option.some.inj shown]
            exact ⟨key, day, here⟩
          · rw [if_neg here] at shown
            exact ih shown

theorem dayName_of_rightWrite {state : SlotsState}
    (right : RightWrite toLowerCase state.slotsList (write toLowerCase language state)) :
    toLowerCase (dayName toLowerCase language state.selectedHorizontalDate) =
      toLowerCase (shortDay (weekday state.selectedHorizontalDate)) := by
  obtain ⟨entry, shown, ⟨slot, member, _⟩, key⟩ := right
  obtain ⟨day, sameDay, sameName⟩ :=
    day_of_entryOf toLowerCase shown (List.ne_nil_of_mem member)
  have dayIsName : day = dayName toLowerCase language state.selectedHorizontalDate :=
    Option.some.inj (sameDay.symm.trans key)
  rw [← dayIsName]
  exact sameName

/-- An update opens without an exception exactly when its dates are readable and the day
has an entry under its localized name; what is applied is right exactly when the slot is
offered and the entry's key is that name. -/
theorem bookingSlots_iff (now : Instant) (today : ℤ) (detail : ServiceDetail) :
    (∀ booking, (openSheet toLowerCase language now today detail (some booking)).2 = true ↔
      OpensInUpdate toLowerCase language now detail booking) ∧
    ∀ booking events,
      ((∀ sent ∈ (machine toLowerCase language).trace
            (openSheet toLowerCase language now today detail booking).1 events,
          RightWrite toLowerCase
            (openSheet toLowerCase language now today detail booking).1.slotsList sent) ↔
        (machine toLowerCase language).Every (AppliesOffered toLowerCase language)
          (openSheet toLowerCase language now today detail booking).1 events) ∧
      (PreselectionOffered toLowerCase language now detail booking →
        ((machine toLowerCase language).Every (AppliesOffered toLowerCase language)
            (openSheet toLowerCase language now today detail booking).1 events ↔
          (machine toLowerCase language).Every (AppliesSelected toLowerCase language)
            (openSheet toLowerCase language now today detail booking).1 events)) := by
  refine ⟨openSheet_completes_iff toLowerCase language now today detail, ?_⟩
  intro booking events
  refine ⟨trace_right_iff toLowerCase language _ events, ?_⟩
  intro preselected
  exact Machine.every_congr (SelectionOffered toLowerCase)
    (selectionOffered_next toLowerCase)
    (fun _ event selected => appliesOffered_iff_appliesSelected toLowerCase language selected event)
    (selectionOffered_openSheet toLowerCase language preselected today)

end Sheet

/-- `toLowerCase` of a text without capitals beyond ASCII. -/
def asciiLower (text : String) : String :=
  String.ofList (text.toList.map Char.toLower)

theorem weekDayName_norwegian_ne : ∀ day < 8,
    asciiLower (asciiLower (weekDayName .norwegian day)) ≠ asciiLower (shortDay day) := by
  decide +kernel

/-- In Norwegian nothing that is applied is right. -/
theorem not_rightWrite_norwegian (state : SlotsState) :
    ¬ RightWrite asciiLower state.slotsList (write asciiLower .norwegian state) := by
  intro right
  have inWeek : weekday state.selectedHorizontalDate < 8 := by
    unfold weekday
    omega
  exact weekDayName_norwegian_ne _ inWeek (dayName_of_rightWrite asciiLower .norwegian right)

def sampleDetail : ServiceDetail where
  bookingSlots := some [{ day := some "mon", slot := some ["10:00:00", "11:00:00"] }]
  bookingDate := none
  bookingSlot := none

def sampleToday : ℤ :=
  dayNumber 2026 3 1

def sampleNow : Instant where
  microseconds := sampleToday * 86400000000
  isUtc := false

def sampleMonday : Instant where
  microseconds := (sampleToday + 1) * 86400000000
  isUtc := false

theorem bookingSlots_iff_example :
    ∀ sent ∈ (machine asciiLower .english).trace
        (openSheet asciiLower .english sampleNow sampleToday sampleDetail none).1
        [.pickDate sampleMonday sampleToday, .tapSlot 0 sampleToday, .apply true],
      RightWrite asciiLower
        (openSheet asciiLower .english sampleNow sampleToday sampleDetail none).1.slotsList
        sent := by
  have nothingPreselected :
      PreselectionOffered asciiLower .english sampleNow sampleDetail none := by
    intro _ _ _ slot impossible
    exact absurd impossible List.not_mem_nil
  have meets : (machine asciiLower .english).Every
      (AppliesSelected asciiLower .english)
      (openSheet asciiLower .english sampleNow sampleToday sampleDetail none).1
      [.pickDate sampleMonday sampleToday, .tapSlot 0 sampleToday, .apply true] := by
    refine ⟨trivial, trivial, ?_, trivial⟩
    intro _ _
    refine ⟨?_, { day := some "mon", slot := some ["10:00:00", "11:00:00"] }, ?_, ?_⟩
    · intro impossible
      exact absurd impossible (by decide +kernel)
    · decide +kernel
    · decide +kernel
  have runs := (bookingSlots_iff asciiLower .english sampleNow sampleToday sampleDetail).2
    none [.pickDate sampleMonday sampleToday, .tapSlot 0 sampleToday, .apply true]
  exact runs.1.mpr ((runs.2 nothingPreselected).mpr meets)

def sampleBooking : BookingData where
  date := some "2026-03-02 00:00:00"
  bookingSlot := some "10:00:00"

/-- In Norwegian its update does not open; in English the other slot is taken back and
the update is sent without one. -/
theorem update_without_slot :
    (openSheet asciiLower .norwegian sampleNow sampleToday sampleDetail
      (some sampleBooking)).2 = false ∧
    ¬ ∀ sent ∈ (machine asciiLower .english).trace
        (openSheet asciiLower .english sampleNow sampleToday sampleDetail
          (some sampleBooking)).1
        [.tapSlot 1 sampleToday, .tapSlot 1 sampleToday, .apply true],
      RightWrite asciiLower
        (openSheet asciiLower .english sampleNow sampleToday sampleDetail
          (some sampleBooking)).1.slotsList sent := by
  have shown : entryOf asciiLower sampleMonday
      (openSheet asciiLower .english sampleNow sampleToday sampleDetail
        (some sampleBooking)).1.slotsList =
        some { day := some "mon", slot := some ["10:00:00", "11:00:00"] } := by decide +kernel
  have sentEmpty :
      { bookingDate := sampleMonday, bookingSlot := some "", bookingDay := "mon" } ∈
        (machine asciiLower .english).trace
          (openSheet asciiLower .english sampleNow sampleToday sampleDetail
            (some sampleBooking)).1
          [.tapSlot 1 sampleToday, .tapSlot 1 sampleToday, .apply true] := by decide +kernel
  have notOffered : "" ∉ ["10:00:00", "11:00:00"] := by decide +kernel
  constructor
  · decide +kernel
  · intro always
    obtain ⟨entry, found, ⟨slot, member, empty⟩, _⟩ := always _ sentEmpty
    rw [shown] at found
    rw [← Option.some.inj found, ← Option.some.inj empty] at member
    exact notOffered member

end FiksOpp.BookingSlots
