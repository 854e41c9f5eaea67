/-
The sheet in which a date and a slot are chosen, for a new booking or for an update.

A weekday's entry is looked up twice: by the weekday's name in the language of the
app, and by its English name.  The slot that was chosen is kept by the sheet, by the
list of slots in it and in the details of the service.
-/

import FiksOpp.BookingDates
import FiksOpp.Foundations.EventRun
import FiksOpp.Foundations.IsoDateTime

namespace FiksOpp.BookingSlots

open BookingDates (AppLanguage)
open EventRun
open IsoDateTime

/-- From 1 for Monday to 7; day 0 is a Saturday. -/
def weekday (date : Instant) : ℕ :=
  ((date.dayOf + 5) % 7).toNat + 1

def weekDayName (language : AppLanguage) (weekday : ℕ) : String :=
  match language, weekday with
  | .norwegian, 1 => "man"
  | .norwegian, 2 => "tir"
  | .norwegian, 3 => "ons"
  | .norwegian, 4 => "tor"
  | .norwegian, 5 => "fre"
  | .norwegian, 6 => "lør"
  | .norwegian, 7 => "søn"
  | .norwegian, _ => "Uke"
  | .english, 1 => "Mon"
  | .english, 2 => "Tue"
  | .english, 3 => "Wed"
  | .english, 4 => "Thu"
  | .english, 5 => "Fri"
  | .english, 6 => "Sat"
  | .english, 7 => "Sun"
  | .english, _ => "Week Name"

def shortDay (weekday : ℕ) : String :=
  match weekday with
  | 1 => "Mon"
  | 2 => "Tue"
  | 3 => "Wed"
  | 4 => "Thu"
  | 5 => "Fri"
  | 6 => "Sat"
  | _ => "Sun"

structure SlotData where
  day : Option String
  slot : Option (List String)
  deriving DecidableEq, Repr

structure ServiceDetail where
  bookingSlots : Option (List SlotData)
  bookingDate : Option String
  bookingSlot : Option String
  deriving DecidableEq, Repr

structure BookingData where
  date : Option String
  bookingSlot : Option String
  deriving DecidableEq, Repr

/-- `slot!.add` on the first entry of the day; nothing where `firstWhere` or `slot!` throws. -/
def addSlot (isDay : SlotData → Bool) (slot : String) : List SlotData → Option (List SlotData)
  | [] => none
  | element :: rest =>
      if isDay element then
        match element.slot with
        | none => none
        | some slots => some ({ element with slot := some (slots ++ [slot]) } :: rest)
      else (addSlot isDay slot rest).map fun after => element :: after

/-- UTF-16 code units; a character beyond the first plane takes two. -/
def codeUnits (text : String) : List (Option Char) :=
  text.toList.flatMap fun char => if char.toNat < 65536 then [some char] else [none, none]

/-- Zero where a unit is not a digit. -/
def toInt (units : List (Option Char)) : ℤ :=
  if units ≠ [] ∧ units.all (fun unit => (unit.map Char.isDigit).getD false) then
    units.foldl (fun value unit => 10 * value + ((unit.getD '0').toNat - 48)) 0
  else 0

/-- Hours and minutes of a slot; nothing where `substring` throws. -/
def slotMinutes (value : String) : Option ℤ :=
  if 5 ≤ (codeUnits value).length then
    some (60 * toInt ((codeUnits value).take 2) + toInt (((codeUnits value).drop 3).take 2))
  else none

def minuteOfDay (date : Instant) : ℤ :=
  date.microseconds % 86400000000 / 60000000

/-- A slot of today that has passed; `currentDay` is the day on which the list of slots
came up. -/
def isPassed (selectedDate : Instant) (currentDay today minutes : ℤ) : Bool :=
  decide (selectedDate.dayOf = today) &&
    decide (currentDay * 1440 + minutes - 1 <
      selectedDate.dayOf * 1440 + minuteOfDay selectedDate)

inductive SlotItem where
  | offstage
  | slotWidget (value : String) (isSelected : Bool)
  deriving DecidableEq, Repr

/-- The list of slots as it is built; `selectedIndex` moves on while it is. -/
def buildItems (selectedSlots : List String) (passed : ℤ → Bool) :
    Option ℕ → ℕ → List String → Option (List SlotItem)
  | _, _, [] => some []
  | selectedIndex, index, value :: rest =>
      match slotMinutes value with
      | none => none
      | some minutes =>
          if passed minutes then
            (buildItems selectedSlots passed selectedIndex (index + 1) rest).map fun items =>
              .offstage :: items
          else if selectedSlots.head? = some value then
            (buildItems selectedSlots passed (some index) (index + 1) rest).map fun items =>
              .slotWidget value true :: items
          else
            (buildItems selectedSlots passed selectedIndex (index + 1) rest).map fun items =>
              .slotWidget value (decide (selectedIndex = some index)) :: items

/-! ### The sheet -/

structure SlotsState where
  slotsList : List SlotData
  selectedHorizontalDate : Instant
  isUpdate : Bool
  /-- `bookingData.bookingSlot`. -/
  previousSlot : Option String
  /-- `serviceDetail.bookingSlot`. -/
  bookingSlot : Option String
  selectedSlot : Option String := none
  isSlotSelected : Bool := false
  /-- Of the list of slots, as is the day on which it came up. -/
  selectedIndex : Option ℕ := none
  currentDay : ℤ := 0
  inFlight : ℕ := 0
  finished : Bool := false
  deriving DecidableEq, Repr

structure SlotWrite where
  bookingDate : Instant
  bookingSlot : Option String
  bookingDay : String
  deriving DecidableEq, Repr

/-- A pick or a tap names the day on which it makes the sheet build. -/
inductive SlotEvent where
  | pickDate (date : Instant) (today : ℤ)
  | tapSlot (index : ℕ) (today : ℤ)
  /-- An update is asked for once more. -/
  | apply (confirmed : Bool)
  | answer (accepted : Bool)
  deriving DecidableEq, Repr

def selectedSlots (state : SlotsState) : List String :=
  match state.selectedSlot with
  | none => []
  | some slot => if slot = "" then [] else [slot]

def onChanged (selectedSlots : List String) (state : SlotsState) : SlotsState :=
  match selectedSlots with
  | [] => { state with isSlotSelected := false }
  | first :: _ => { state with isSlotSelected := true, selectedSlot := some first }

def slotToWrite (state : SlotsState) : Option String :=
  if state.isSlotSelected then state.selectedSlot else some ""

/-- An update needs a slot other than the previous one, a new booking needs a slot. -/
def accepts (state : SlotsState) (confirmed : Bool) : Bool :=
  if state.isUpdate then
    confirmed && (slotToWrite state).getD "" != state.previousSlot.getD ""
  else (slotToWrite state).getD "" != ""

/-- Nothing where the date does not parse. -/
def serviceDate (now : Instant) (detail : ServiceDetail) : Option Instant :=
  match detail.bookingDate with
  | none => some now
  | some text => parse text.toList

section Sheet

variable (toLowerCase : String → String) (language : AppLanguage)

def dayName (date : Instant) : String :=
  toLowerCase (weekDayName language (weekday date))

def isDay (date : Instant) (element : SlotData) : Bool :=
  toLowerCase (element.day.getD "") == dayName toLowerCase language date

/-- The booking's own slot is offered again; nothing where the day has no entry, or an
entry without slots. -/
def withPreviousSlot (date : Instant) (slot : String) (slotsList : List SlotData) :
    Option (List SlotData) :=
  match slotsList.find? (isDay toLowerCase language date) with
  | none => none
  | some tempSlot =>
      if (tempSlot.slot.getD []).contains slot then some slotsList
      else addSlot (isDay toLowerCase language date) slot slotsList

/-- The entry `build` takes the slots from; nothing where it meets an entry without a day. -/
def entryOf (date : Instant) : List SlotData → Option SlotData
  | [] => some { day := some "", slot := some [] }
  | element :: rest =>
      match element.day with
      | none => none
      | some day =>
          if toLowerCase day = toLowerCase (shortDay (weekday date)) then some element
          else entryOf date rest

def offered (state : SlotsState) : Option (List String) :=
  (entryOf toLowerCase state.selectedHorizontalDate state.slotsList).map fun entry =>
    entry.slot.getD []

/-- `initState`: what it leaves behind, and whether it runs to its end. -/
def init (now : Instant) (detail : ServiceDetail) (booking : Option BookingData) :
    SlotsState × Bool :=
  let started : SlotsState :=
    { slotsList := detail.bookingSlots.getD []
      selectedHorizontalDate := now
      isUpdate := booking.isSome
      previousSlot := booking.bind BookingData.bookingSlot
      bookingSlot := detail.bookingSlot }
  match serviceDate now detail with
  | none => (started, false)
  | some bookingDate =>
      let chosen : SlotsState :=
        { started with
          selectedHorizontalDate := bookingDate
          selectedSlot :=
            if detail.bookingSlot.getD "" ≠ "" then some (detail.bookingSlot.getD "")
            else if booking.isSome then some (detail.bookingSlot.getD "")
            else none }
      match booking with
      | none => (chosen, true)
      | some booking =>
          match parse (booking.date.getD "").toList with
          | none => (chosen, false)
          | some date =>
              match withPreviousSlot toLowerCase language date (booking.bookingSlot.getD "")
                chosen.slotsList with
              | none => ({ chosen with selectedHorizontalDate := date }, false)
              | some slotsList =>
                  ({ chosen with selectedHorizontalDate := date, slotsList := slotsList }, true)

def builtItems (state : SlotsState) (today : ℤ) (slots : List String) :
    Option (List SlotItem) :=
  buildItems (selectedSlots state)
    (isPassed state.selectedHorizontalDate state.currentDay today)
    state.selectedIndex 0 slots

/-- `initState`, the first build, and the selection the list of slots then reports. -/
def openSheet (now : Instant) (today : ℤ) (detail : ServiceDetail)
    (booking : Option BookingData) : SlotsState × Bool :=
  let opened := init toLowerCase language now detail booking
  let state := { opened.1 with currentDay := today }
  match offered toLowerCase state with
  | none => (state, false)
  | some [] => (state, opened.2)
  | some slots =>
      (if selectedSlots state = [] then state else onChanged (selectedSlots state) state,
        opened.2 && (builtItems state today slots).isSome)

def usable (state : SlotsState) : Bool :=
  !state.finished && (offered toLowerCase state).isSome

def tapItem (index : ℕ) (state : SlotsState) : SlotItem → SlotsState
  | .offstage => state
  | .slotWidget _ true => onChanged [] { state with selectedIndex := none }
  | .slotWidget value false => onChanged [value] { state with selectedIndex := some index }

def write (state : SlotsState) : SlotWrite :=
  { bookingDate := state.selectedHorizontalDate
    bookingSlot := slotToWrite state
    bookingDay := dayName toLowerCase language state.selectedHorizontalDate }

def next (state : SlotsState) : SlotEvent → SlotsState
  | .pickDate date today =>
      if usable toLowerCase state then
        { state with
          selectedHorizontalDate := date
          bookingSlot :=
            if state.bookingSlot.getD "" ≠ "" then some (state.bookingSlot.getD "")
            else if state.isUpdate then some (state.bookingSlot.getD "")
            else none
          selectedSlot := none
          isSlotSelected := false
          selectedIndex := none
          currentDay := today }
      else state
  | .tapSlot index today =>
      if state.finished then state
      else
        match offered toLowerCase state with
        | none => state
        | some slots =>
            match builtItems state today slots with
            | none => state
            | some items =>
                match items[index]? with
                | none => state
                | some item => tapItem index state item
  | .apply confirmed =>
      if usable toLowerCase state then
        { state with
          bookingSlot := slotToWrite state
          inFlight :=
            if state.isUpdate && accepts state confirmed then state.inFlight + 1
            else state.inFlight
          finished := !state.isUpdate && accepts state confirmed }
      else state
  | .answer accepted =>
      if !state.finished && decide (0 < state.inFlight) then
        if accepted then
          { state with
            previousSlot := state.bookingSlot
            inFlight := state.inFlight - 1
            finished := true }
        else { state with inFlight := state.inFlight - 1 }
      else state

def outputs (state : SlotsState) : SlotEvent → List SlotWrite
  | .apply confirmed =>
      if usable toLowerCase state && accepts state confirmed then
        [write toLowerCase language state]
      else []
  | _ => []

def machine : Machine SlotsState SlotEvent SlotWrite where
  next := next toLowerCase
  outputs := outputs toLowerCase language

/-! ### Opening the sheet -/

/-- Every slot text is long enough for its two `substring` calls. -/
def SlotsDrawn (slots : List String) : Prop :=
  ∀ slot ∈ slots, 5 ≤ (codeUnits slot).length

/-- The dates can be read, the day has an entry with slots under its name in the app's
language, `build` meets no entry without a day, and all slots it shows can be drawn. -/
structure OpensInUpdate (now : Instant) (detail : ServiceDetail) (booking : BookingData) :
    Prop where
  serviceDate : (serviceDate now detail).isSome = true
  entries : ∃ date, parse (booking.date.getD "").toList = some date ∧
    (∃ entry, (detail.bookingSlots.getD []).find? (isDay toLowerCase language date) =
      some entry ∧ entry.slot.isSome = true) ∧
    (∃ entry, entryOf toLowerCase date (detail.bookingSlots.getD []) = some entry ∧
      SlotsDrawn (entry.slot.getD [])) ∧
    (dayName toLowerCase language date = toLowerCase (shortDay (weekday date)) →
      5 ≤ (codeUnits (booking.bookingSlot.getD "")).length)

theorem slotMinutes_isSome_iff (value : String) :
    (slotMinutes value).isSome = true ↔ 5 ≤ (codeUnits value).length := by
  unfold slotMinutes
  by_cases long : 5 ≤ (codeUnits value).length
  · rw [if_pos long]
    exact iff_of_true rfl long
  · rw [if_neg long]
    exact iff_of_false Bool.false_ne_true long

theorem buildItems_isSome_iff (selectedSlots : List String) (passed : ℤ → Bool)
    (selectedIndex : Option ℕ) (index : ℕ) (slots : List String) :
    (buildItems selectedSlots passed selectedIndex index slots).isSome = true ↔
      SlotsDrawn slots := by
  induction slots generalizing selectedIndex index with
  | nil => exact iff_of_true rfl (fun _ impossible => absurd impossible List.not_mem_nil)
  | cons value rest ih =>
      unfold buildItems
      have atHead := slotMinutes_isSome_iff value
      unfold SlotsDrawn
      rw [List.forall_mem_cons, ← atHead]
      cases slotMinutes value with
      | none => exact iff_of_false Bool.false_ne_true (fun both => Bool.false_ne_true both.1)
      | some minutes =>
          dsimp only
          rw [Option.isSome_some]
          split
          · rw [Option.isSome_map, ih]
            exact (and_iff_right rfl).symm
          · split
            · rw [Option.isSome_map, ih]
              exact (and_iff_right rfl).symm
            · rw [Option.isSome_map, ih]
              exact (and_iff_right rfl).symm

theorem addSlot_isSome_iff (isDay : SlotData → Bool) (slot : String)
    (slotsList : List SlotData) :
    (addSlot isDay slot slotsList).isSome = true ↔
      ∃ entry, slotsList.find? isDay = some entry ∧ entry.slot.isSome = true := by
  induction slotsList with
  | nil =>
      refine iff_of_false Bool.false_ne_true ?_
      intro impossible
      obtain ⟨entry, found, _⟩ := impossible
      cases found
  | cons element rest ih =>
      unfold addSlot
      by_cases here : isDay element = true
      · rw [if_pos here, List.find?_cons_of_pos here]
        cases slots : element.slot with
        | none =>
            refine iff_of_false Bool.false_ne_true ?_
            intro impossible
            obtain ⟨entry, found, hasSlots⟩ := impossible
            rw [← Option.some.inj found, slots] at hasSlots
            cases hasSlots
        | some list =>
            refine iff_of_true rfl ⟨element, rfl, ?_⟩
            rw [slots]
            rfl
      · rw [if_neg here, List.find?_cons_of_neg here, Option.isSome_map]
        exact ih

theorem withPreviousSlot_isSome_iff (date : Instant) (slot : String)
    (slotsList : List SlotData) :
    (withPreviousSlot toLowerCase language date slot slotsList).isSome = true ↔
      ∃ entry, slotsList.find? (isDay toLowerCase language date) = some entry ∧
        entry.slot.isSome = true := by
  have added := addSlot_isSome_iff (isDay toLowerCase language date) slot slotsList
  unfold withPreviousSlot
  cases found : slotsList.find? (isDay toLowerCase language date) with
  | none =>
      refine iff_of_false Bool.false_ne_true ?_
      intro impossible
      obtain ⟨entry, other, _⟩ := impossible
      cases other
  | some tempSlot =>
      dsimp only
      by_cases contained : (tempSlot.slot.getD []).contains slot = true
      · rw [if_pos contained]
        refine iff_of_true rfl ⟨tempSlot, rfl, ?_⟩
        cases slots : tempSlot.slot with
        | none =>
            rw [slots] at contained
            cases contained
        | some list => rfl
      · rw [if_neg contained]
        rw [found] at added
        exact added

section Names

variable {toLowerCase language} {date : Instant} {slot : String}
  {slotsList after : List SlotData}

theorem addSlot_cons_cases {isDay : SlotData → Bool} {element : SlotData}
    {rest : List SlotData} (added : addSlot isDay slot (element :: rest) = some after) :
    (isDay element = true ∧ ∃ list, element.slot = some list ∧
        after = { element with slot := some (list ++ [slot]) } :: rest) ∨
      (¬ isDay element = true ∧ ∃ later, addSlot isDay slot rest = some later ∧
        after = element :: later) := by
  unfold addSlot at added
  by_cases here : isDay element = true
  · rw [if_pos here] at added
    cases slots : element.slot with
    | none =>
        rw [slots] at added
        cases added
    | some list =>
        rw [slots] at added
        cases added
        exact Or.inl ⟨here, list, rfl, rfl⟩
  · rw [if_neg here] at added
    obtain ⟨later, addedLater, same⟩ := Option.map_eq_some_iff.mp added
    exact Or.inr ⟨here, later, addedLater, same.symm⟩

theorem shownName_of_isDay {element : SlotData} {key : String} (day : element.day = some key)
    (here : isDay toLowerCase language date element = true) :
    toLowerCase key = dayName toLowerCase language date := by
  unfold isDay at here
  rw [day] at here
  exact eq_of_beq here

theorem entryOf_addSlot_of_ne
    (names : dayName toLowerCase language date ≠ toLowerCase (shortDay (weekday date)))
    (added : addSlot (isDay toLowerCase language date) slot slotsList = some after) :
    entryOf toLowerCase date after = entryOf toLowerCase date slotsList := by
  induction slotsList generalizing after with
  | nil => cases added
  | cons element rest ih =>
      rcases addSlot_cons_cases added with ⟨here, list, _, rfl⟩ | ⟨_, later, addedLater, rfl⟩
      · unfold entryOf
        dsimp only
        cases day : element.day with
        | none => rfl
        | some key =>
            have other : toLowerCase key ≠ toLowerCase (shortDay (weekday date)) := by
              rw [shownName_of_isDay day here]
              exact names
            dsimp only
            rw [if_neg other, if_neg other]
      · unfold entryOf
        cases element.day with
        | none => rfl
        | some key =>
            dsimp only
            rw [ih addedLater]

theorem entryOf_addSlot_of_eq
    (names : dayName toLowerCase language date = toLowerCase (shortDay (weekday date)))
    (added : addSlot (isDay toLowerCase language date) slot slotsList = some after) :
    entryOf toLowerCase date after =
      (entryOf toLowerCase date slotsList).map fun entry =>
        { entry with slot := some (entry.slot.getD [] ++ [slot]) } := by
  induction slotsList generalizing after with
  | nil => cases added
  | cons element rest ih =>
      rcases addSlot_cons_cases added with
        ⟨here, list, slots, rfl⟩ | ⟨here, later, addedLater, rfl⟩
      · unfold entryOf
        dsimp only
        cases day : element.day with
        | none => rfl
        | some key =>
            have shown : toLowerCase key = toLowerCase (shortDay (weekday date)) :=
              (shownName_of_isDay day here).trans names
            dsimp only
            rw [if_pos shown, if_pos shown, Option.map_some, slots, day]
            rfl
      · unfold entryOf
        cases day : element.day with
        | none => rfl
        | some key =>
            have other : toLowerCase key ≠ toLowerCase (shortDay (weekday date)) := by
              intro shown
              apply here
              unfold isDay
              rw [day, names]
              exact beq_of_eq shown
            dsimp only
            rw [if_neg other, if_neg other, ih addedLater]

theorem entryOf_of_find
    (names : dayName toLowerCase language date = toLowerCase (shortDay (weekday date)))
    {tempSlot entry : SlotData}
    (found : slotsList.find? (isDay toLowerCase language date) = some tempSlot)
    (shown : entryOf toLowerCase date slotsList = some entry) : entry = tempSlot := by
  induction slotsList with
  | nil => cases found
  | cons element rest ih =>
      unfold entryOf at shown
      cases day : element.day with
      | none =>
          rw [day] at shown
          cases shown
      | some key =>
          have same : isDay toLowerCase language date element =
              (toLowerCase key == toLowerCase (shortDay (weekday date))) := by
            unfold isDay
            rw [day, names]
            rfl
          rw [day] at shown
          dsimp only at shown
          by_cases here : toLowerCase key = toLowerCase (shortDay (weekday date))
          · rw [if_pos here] at shown
            rw [List.find?_cons_of_pos (by rw [same]; exact beq_of_eq here)] at found
            exact (Option.some.inj shown).symm.trans (Option.some.inj found)
          · rw [if_neg here] at shown
            rw [List.find?_cons_of_neg (by rw [same]; exact fun equal => here (eq_of_beq equal))]
              at found
            exact ih found shown

end Names

theorem slotsDrawn_withPreviousSlot {toLowerCase : String → String} {language : AppLanguage}
    {date : Instant} {slot : String} {slotsList after : List SlotData}
    (added : withPreviousSlot toLowerCase language date slot slotsList = some after) :
    (∃ entry, entryOf toLowerCase date after = some entry ∧ SlotsDrawn (entry.slot.getD [])) ↔
      (∃ entry, entryOf toLowerCase date slotsList = some entry ∧
        SlotsDrawn (entry.slot.getD [])) ∧
      (dayName toLowerCase language date = toLowerCase (shortDay (weekday date)) →
        5 ≤ (codeUnits slot).length) := by
  unfold withPreviousSlot at added
  cases found : slotsList.find? (isDay toLowerCase language date) with
  | none =>
      rw [found] at added
      cases added
  | some tempSlot =>
      rw [found] at added
      dsimp only at added
      by_cases contained : (tempSlot.slot.getD []).contains slot = true
      · rw [if_pos contained] at added
        cases added
        constructor
        · intro drawn
          obtain ⟨entry, shown, long⟩ := drawn
          refine ⟨⟨entry, shown, long⟩, ?_⟩
          intro names
          have sameEntry := entryOf_of_find names found shown
          rw [sameEntry] at long
          exact long slot (List.contains_iff_mem.mp contained)
        · intro both
          exact both.1
      · rw [if_neg contained] at added
        by_cases names : dayName toLowerCase language date =
          toLowerCase (shortDay (weekday date))
        · rw [entryOf_addSlot_of_eq names added]
          constructor
          · intro drawn
            obtain ⟨_, shown, long⟩ := drawn
            obtain ⟨entry, before, same⟩ := Option.map_eq_some_iff.mp shown
            rw [← same] at long
            refine ⟨⟨entry, before, ?_⟩, ?_⟩
            · intro other member
              exact long other (List.mem_append_left _ member)
            · intro _
              exact long slot (List.mem_append_right _ List.mem_cons_self)
          · intro both
            obtain ⟨⟨entry, before, long⟩, ownLong⟩ := both
            refine ⟨_, Option.map_eq_some_iff.mpr ⟨entry, before, rfl⟩, ?_⟩
            intro other member
            rcases List.mem_append.mp member with old | own
            · exact long other old
            · rw [List.mem_singleton.mp own]
              exact ownLong names
        · rw [entryOf_addSlot_of_ne names added]
          constructor
          · intro drawn
            exact ⟨drawn, fun same => absurd same names⟩
          · intro both
            exact both.1

/-- What `initState` does of an update whose dates can be read. -/
theorem init_of_read {now bookingDate date : Instant} {detail : ServiceDetail}
    {booking : BookingData} (read : serviceDate now detail = some bookingDate)
    (bookingRead : parse (booking.date.getD "").toList = some date) :
    (init toLowerCase language now detail (some booking)).2 =
        (withPreviousSlot toLowerCase language date (booking.bookingSlot.getD "")
          (detail.bookingSlots.getD [])).isSome ∧
      (init toLowerCase language now detail (some booking)).1.selectedHorizontalDate = date ∧
      (init toLowerCase language now detail (some booking)).1.slotsList =
        (withPreviousSlot toLowerCase language date (booking.bookingSlot.getD "")
          (detail.bookingSlots.getD [])).getD (detail.bookingSlots.getD []) := by
  unfold init
  rw [read]
  dsimp only
  rw [bookingRead]
  dsimp only
  cases withPreviousSlot toLowerCase language date (booking.bookingSlot.getD "")
    (detail.bookingSlots.getD []) with
  | none => exact ⟨rfl, rfl, rfl⟩
  | some after => exact ⟨rfl, rfl, rfl⟩

theorem reads_of_init_completes {now : Instant} {detail : ServiceDetail} {booking : BookingData}
    (completes : (init toLowerCase language now detail (some booking)).2 = true) :
    (∃ bookingDate, serviceDate now detail = some bookingDate) ∧
      ∃ date, parse (booking.date.getD "").toList = some date := by
  unfold init at completes
  cases read : serviceDate now detail with
  | none =>
      rw [read] at completes
      cases completes
  | some bookingDate =>
      rw [read] at completes
      dsimp only at completes
      cases bookingRead : parse (booking.date.getD "").toList with
      | none =>
          rw [bookingRead] at completes
          cases completes
      | some date => exact ⟨⟨bookingDate, rfl⟩, date, rfl⟩

theorem offered_currentDay (state : SlotsState) (today : ℤ) :
    offered toLowerCase { state with currentDay := today } = offered toLowerCase state :=
  rfl

theorem openSheet_completes (now : Instant) (today : ℤ) (detail : ServiceDetail)
    (booking : Option BookingData) :
    (openSheet toLowerCase language now today detail booking).2 = true ↔
      (init toLowerCase language now detail booking).2 = true ∧
        ∃ slots, offered toLowerCase (init toLowerCase language now detail booking).1 =
          some slots ∧ SlotsDrawn slots := by
  unfold openSheet
  dsimp only
  rw [offered_currentDay]
  cases offered toLowerCase (init toLowerCase language now detail booking).1 with
  | none =>
      refine iff_of_false Bool.false_ne_true ?_
      intro impossible
      obtain ⟨_, slots, shown, _⟩ := impossible
      cases shown
  | some slots =>
      cases slots with
      | nil =>
          constructor
          · intro completes
            exact ⟨completes, [], rfl, fun _ impossible => absurd impossible List.not_mem_nil⟩
          · intro both
            exact both.1
      | cons first rest =>
          dsimp only
          unfold builtItems
          rw [Bool.and_eq_true, buildItems_isSome_iff]
          constructor
          · intro both
            exact ⟨both.1, first :: rest, rfl, both.2⟩
          · intro both
            obtain ⟨completes, slots, same, drawn⟩ := both
            rw [← Option.some.inj same] at drawn
            exact ⟨completes, drawn⟩

theorem openSheet_completes_iff (now : Instant) (today : ℤ) (detail : ServiceDetail)
    (booking : BookingData) :
    (openSheet toLowerCase language now today detail (some booking)).2 = true ↔
      OpensInUpdate toLowerCase language now detail booking := by
  rw [openSheet_completes]
  constructor
  · intro both
    obtain ⟨completes, slots, shown, drawn⟩ := both
    obtain ⟨⟨bookingDate, read⟩, date, bookingRead⟩ :=
      reads_of_init_completes toLowerCase language completes
    obtain ⟨ends, sameDate, sameList⟩ := init_of_read toLowerCase language read bookingRead
    rw [completes] at ends
    obtain ⟨after, added⟩ := Option.isSome_iff_exists.mp ends.symm
    have entries := (withPreviousSlot_isSome_iff toLowerCase language date
      (booking.bookingSlot.getD "") (detail.bookingSlots.getD [])).mp ends.symm
    rw [added, Option.getD_some] at sameList
    unfold offered at shown
    rw [sameDate, sameList] at shown
    obtain ⟨entry, found, same⟩ := Option.map_eq_some_iff.mp shown
    rw [← same] at drawn
    have before := (slotsDrawn_withPreviousSlot added).mp ⟨entry, found, drawn⟩
    have readSome : (serviceDate now detail).isSome = true := by
      rw [read]
      rfl
    exact ⟨readSome, date, bookingRead, entries, before.1, before.2⟩
  · intro opens
    obtain ⟨readSome, date, bookingRead, entries, drawnBefore, ownLong⟩ := opens
    obtain ⟨bookingDate, read⟩ := Option.isSome_iff_exists.mp readSome
    obtain ⟨ends, sameDate, sameList⟩ := init_of_read toLowerCase language read bookingRead
    have completes := (withPreviousSlot_isSome_iff toLowerCase language date
      (booking.bookingSlot.getD "") (detail.bookingSlots.getD [])).mpr entries
    obtain ⟨after, added⟩ := Option.isSome_iff_exists.mp completes
    obtain ⟨entry, found, drawn⟩ :=
      (slotsDrawn_withPreviousSlot added).mpr ⟨drawnBefore, ownLong⟩
    rw [added, Option.getD_some] at sameList
    refine ⟨ends.trans completes, entry.slot.getD [], ?_, drawn⟩
    unfold offered
    rw [sameDate, sameList, found]
    rfl

end Sheet

end FiksOpp.BookingSlots
