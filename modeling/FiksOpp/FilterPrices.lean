/-
The price section of `FilterScreen`, whose `RangeSlider` asserts its bounds.

A drag is cut to whole numbers and kept in the global store as text, and the next
section that is opened starts from these texts.  Its bounds are those of the last
answer of `getProvider` on the screen then open, or zero before there is one.
-/

import FiksOpp.FilterActions
import FiksOpp.Foundations.DecimalRounding
import Mathlib

namespace FiksOpp.FilterPrices

open DecimalRounding
open EventRun
open FilterActions

/-- `toDouble` of the texts, which reads an integer that was printed. -/
structure NumberTexts where
  toDouble : String → ℚ
  toDouble_toString : ∀ number : ℤ, toDouble (toString number) = number

/-- Texts that are no integers count as zero. -/
def integerTexts : NumberTexts :=
  { toDouble := fun text => (text.toInt?.getD 0 : ℤ)
    toDouble_toString := by
      intro number
      change (((Int.repr number).toInt?.getD 0 : ℤ) : ℚ) = number
      rw [Int.toInt?_repr, Option.getD_some] }

structure RangeValues where
  start : ℚ
  stop : ℚ
  deriving DecidableEq, Repr

structure RangeSlider where
  min : ℚ
  max : ℚ
  values : RangeValues
  deriving DecidableEq, Repr

/-- What the constructor of `RangeSlider` asserts. -/
def RangeSlider.Valid (slider : RangeSlider) : Prop :=
  slider.min ≤ slider.values.start ∧ slider.values.start ≤ slider.values.stop ∧
    slider.values.stop ≤ slider.max

instance (slider : RangeSlider) : Decidable slider.Valid :=
  inferInstanceAs (Decidable (_ ∧ _ ∧ _))

structure PriceScreen where
  filterStore : FilterStore
  minPrice : Option ℚ
  maxPrice : Option ℚ
  /-- The state of the price section, while it is in the tree. -/
  rangeValues : Option RangeValues
  /-- The last drag since the filters were cleared; the code keeps its texts only. -/
  dragged : Option RangeValues

inductive PriceEvent where
  /-- A filter screen is opened. -/
  | openScreen
  /-- The answer of `getProvider`; nothing where the request failed. -/
  | answer (bounds : Option (ℚ × ℚ))
  | openPrice
  | closePrice
  /-- The screen is built again for another reason. -/
  | rebuild
  | drag (values : RangeValues)
  | clearFilter
  /-- A list screen puts a new store in place. -/
  | renewStore
  deriving DecidableEq, Repr

namespace PriceScreen

def widgetMin (screen : PriceScreen) : ℚ := screen.minPrice.getD 0

def widgetMax (screen : PriceScreen) : ℚ := screen.maxPrice.getD 0

def initState (texts : NumberTexts) (screen : PriceScreen) : RangeValues :=
  if !(screen.filterStore.value .isPriceMax).isEmpty &&
      !(screen.filterStore.value .isPriceMin).isEmpty then
    { start := texts.toDouble (screen.filterStore.value .isPriceMin)
      stop := texts.toDouble (screen.filterStore.value .isPriceMax) }
  else
    { start := screen.widgetMin, stop := screen.widgetMax }

def slider (screen : PriceScreen) (values : RangeValues) : RangeSlider :=
  { min := screen.widgetMin, max := screen.widgetMax, values := values }

def onChanged (values : RangeValues) (screen : PriceScreen) : PriceScreen :=
  { screen with
    rangeValues := some values
    filterStore :=
      (screen.filterStore.setMinPrice (toString (truncate values.start))).setMaxPrice
        (toString (truncate values.stop))
    dragged := some values }

/-- A slider hands on values within its bounds only. -/
def accepts (screen : PriceScreen) (values : RangeValues) : Bool :=
  screen.rangeValues.isSome && decide (screen.slider values).Valid

def next (texts : NumberTexts) (screen : PriceScreen) : PriceEvent → PriceScreen
  | .openScreen => { screen with minPrice := none, maxPrice := none, rangeValues := none }
  | .answer none => screen
  | .answer (some (min, max)) => { screen with minPrice := some min, maxPrice := some max }
  | .openPrice => { screen with rangeValues := some (screen.initState texts) }
  | .closePrice => { screen with rangeValues := none }
  | .rebuild => screen
  | .drag values => if screen.accepts values then screen.onChanged values else screen
  | .clearFilter =>
      { screen with
        filterStore := screen.filterStore.clearFilters
        rangeValues := none
        dragged := none }
  | .renewStore => { screen with filterStore := newFilterStore, dragged := none }

def built (screen : PriceScreen) : List RangeSlider :=
  screen.rangeValues.toList.map screen.slider

def builds (texts : NumberTexts) (screen : PriceScreen) (event : PriceEvent) :
    List RangeSlider :=
  match event with
  | .answer none => []
  | .drag values => if screen.accepts values then (screen.next texts (.drag values)).built else []
  | event => (screen.next texts event).built

end PriceScreen

open PriceScreen

def machine (texts : NumberTexts) : Machine PriceScreen PriceEvent RangeSlider :=
  { next := PriceScreen.next texts
    outputs := PriceScreen.builds texts }

def atStart : PriceScreen :=
  { filterStore := newFilterStore
    minPrice := none
    maxPrice := none
    rangeValues := none
    dragged := none }

/-- The bounds fit what the store holds: an opened section finds the last drag, cut to
whole numbers, within the bounds, and an answer finds the values shown within its own. -/
def Fits (screen : PriceScreen) : PriceEvent → Prop
  | .openPrice =>
      match screen.dragged with
      | some values =>
          screen.widgetMin ≤ truncate values.start ∧
            (truncate values.stop : ℚ) ≤ screen.widgetMax
      | none => screen.widgetMin ≤ screen.widgetMax
  | .answer (some (min, max)) =>
      match screen.rangeValues with
      | some values => min ≤ values.start ∧ values.stop ≤ max
      | none => True
  | _ => True

instance (screen : PriceScreen) : (event : PriceEvent) → Decidable (Fits screen event)
  | .openPrice =>
      match past : screen.dragged with
      | some values =>
          decidable_of_iff
            (screen.widgetMin ≤ truncate values.start ∧
              (truncate values.stop : ℚ) ≤ screen.widgetMax)
            (by rw [Fits, past])
      | none => decidable_of_iff (screen.widgetMin ≤ screen.widgetMax) (by rw [Fits, past])
  | .answer (some (min, max)) =>
      match shown : screen.rangeValues with
      | some values =>
          decidable_of_iff (min ≤ values.start ∧ values.stop ≤ max) (by rw [Fits, shown])
      | none => .isTrue (by rw [Fits, shown]; trivial)
  | .answer none => .isTrue trivial
  | .openScreen => .isTrue trivial
  | .closePrice => .isTrue trivial
  | .rebuild => .isTrue trivial
  | .drag _ => .isTrue trivial
  | .clearFilter => .isTrue trivial
  | .renewStore => .isTrue trivial

theorem toString_ne_empty (number : ℤ) : toString number ≠ "" := by
  change Int.repr number ≠ ""
  rw [Int.repr_eq_if]
  split
  · exact Nat.repr_ne_empty
  · intro empty
    have letters := congrArg String.toList empty
    rw [String.toList_append] at letters
    cases letters

theorem isEmpty_toString (number : ℤ) : (toString number).isEmpty = false := by
  cases empty : (toString number).isEmpty with
  | false => rfl
  | true => exact absurd (String.isEmpty_iff.mp empty) (toString_ne_empty number)

/-- The store holds the texts of the last drag. -/
def Remembers (screen : PriceScreen) : Prop :=
  match screen.dragged with
  | none =>
      screen.filterStore.value .isPriceMin = "" ∧ screen.filterStore.value .isPriceMax = ""
  | some values =>
      screen.filterStore.value .isPriceMin = toString (truncate values.start) ∧
        screen.filterStore.value .isPriceMax = toString (truncate values.stop) ∧
        values.start ≤ values.stop

theorem initState_eq (texts : NumberTexts) {screen : PriceScreen}
    (remembers : Remembers screen) :
    screen.initState texts =
      match screen.dragged with
      | some values => { start := truncate values.start, stop := truncate values.stop }
      | none => { start := screen.widgetMin, stop := screen.widgetMax } := by
  unfold Remembers at remembers
  unfold initState
  cases past : screen.dragged with
  | none =>
      rw [past] at remembers
      rw [remembers.1, remembers.2]
      rfl
  | some values =>
      rw [past] at remembers
      obtain ⟨low, high, _⟩ := remembers
      rw [low, high, isEmpty_toString, isEmpty_toString, texts.toDouble_toString,
        texts.toDouble_toString]
      rfl

/-- A drag is dropped, or it is within the bounds of a slider that is shown and kept. -/
theorem drag_cases (texts : NumberTexts) (screen : PriceScreen) (values : RangeValues) :
    screen.next texts (.drag values) = screen ∨
      (∃ before, screen.rangeValues = some before) ∧ (screen.slider values).Valid ∧
        screen.next texts (.drag values) = screen.onChanged values := by
  unfold PriceScreen.next
  dsimp only
  by_cases accepted : screen.accepts values = true
  · rw [if_pos accepted]
    unfold accepts at accepted
    rw [Bool.and_eq_true, decide_eq_true_iff, Option.isSome_iff_exists] at accepted
    exact Or.inr ⟨accepted.1, accepted.2, rfl⟩
  · rw [if_neg accepted]
    exact Or.inl rfl

theorem remembers_next (texts : NumberTexts) {screen : PriceScreen}
    (remembers : Remembers screen) (event : PriceEvent) :
    Remembers (screen.next texts event) := by
  cases event with
  | openScreen => exact remembers
  | answer bounds =>
      cases bounds with
      | none => exact remembers
      | some bounds => exact remembers
  | openPrice => exact remembers
  | closePrice => exact remembers
  | rebuild => exact remembers
  | drag values =>
      rcases drag_cases texts screen values with dropped | ⟨_, valid, kept⟩
      · rw [dropped]
        exact remembers
      · rw [kept]
        exact ⟨rfl, rfl, valid.2.1⟩
  | clearFilter => exact ⟨rfl, rfl⟩
  | renewStore => exact ⟨rfl, rfl⟩

/-! ### Runs -/

/-- The slider on the screen was built without an assertion. -/
def Shown (screen : PriceScreen) : Prop :=
  ∀ values, screen.rangeValues = some values → (screen.slider values).Valid

theorem forall_built_iff (screen : PriceScreen) :
    (∀ slider ∈ screen.built, slider.Valid) ↔ Shown screen := by
  unfold built Shown
  cases screen.rangeValues with
  | none => simp
  | some values => simp

theorem truncated_ordered {values : RangeValues} (ordered : values.start ≤ values.stop) :
    (truncate values.start : ℚ) ≤ truncate values.stop :=
  Int.cast_le.mpr (truncate_mono ordered)

theorem openPrice_shown_iff (texts : NumberTexts) {screen : PriceScreen}
    (remembers : Remembers screen) :
    Shown (screen.next texts .openPrice) ↔ Fits screen .openPrice := by
  have opened : Shown (screen.next texts .openPrice) ↔
      (screen.slider (screen.initState texts)).Valid := by
    constructor
    · intro shown
      exact shown _ rfl
    · intro valid values same
      cases same
      exact valid
  rw [opened, initState_eq texts remembers]
  unfold Remembers at remembers
  unfold Fits slider RangeSlider.Valid
  dsimp only
  cases past : screen.dragged with
  | none =>
      dsimp only
      constructor
      · intro valid
        exact valid.2.1
      · intro ordered
        exact ⟨le_refl _, ordered, le_refl _⟩
  | some values =>
      rw [past] at remembers
      dsimp only
      constructor
      · intro valid
        exact ⟨valid.1, valid.2.2⟩
      · intro fits
        exact ⟨fits.1, truncated_ordered remembers.2.2, fits.2⟩

theorem answer_shown_iff (texts : NumberTexts) {screen : PriceScreen} (shown : Shown screen)
    (low high : ℚ) :
    Shown (screen.next texts (.answer (some (low, high)))) ↔
      Fits screen (.answer (some (low, high))) := by
  unfold Fits
  dsimp only
  constructor
  · intro later
    cases present : screen.rangeValues with
    | none => trivial
    | some values =>
        have valid := later values present
        exact ⟨valid.1, valid.2.2⟩
  · intro fits values present
    have before := shown values present
    change screen.rangeValues = some values at present
    rw [present] at fits
    exact ⟨fits.1, before.2.1, fits.2⟩

theorem builds_cases (texts : NumberTexts) (screen : PriceScreen) (event : PriceEvent) :
    screen.builds texts event = (screen.next texts event).built ∨
      screen.builds texts event = [] ∧ screen.next texts event = screen ∧
        Fits screen event := by
  cases event with
  | answer bounds =>
      cases bounds with
      | none => exact Or.inr ⟨rfl, rfl, trivial⟩
      | some bounds => exact Or.inl rfl
  | drag values =>
      unfold builds PriceScreen.next
      dsimp only
      by_cases accepted : screen.accepts values = true
      · rw [if_pos accepted, if_pos accepted]
        exact Or.inl rfl
      · rw [if_neg accepted, if_neg accepted]
        exact Or.inr ⟨rfl, rfl, trivial⟩
  | openScreen => exact Or.inl rfl
  | openPrice => exact Or.inl rfl
  | closePrice => exact Or.inl rfl
  | rebuild => exact Or.inl rfl
  | clearFilter => exact Or.inl rfl
  | renewStore => exact Or.inl rfl

theorem shown_of_closed {screen : PriceScreen} (closed : screen.rangeValues = none) :
    Shown screen := by
  intro values present
  rw [closed] at present
  cases present

/-- Only an opened section and new bounds can break the slider. -/
theorem shown_next_iff (texts : NumberTexts) {screen : PriceScreen}
    (remembers : Remembers screen) (shown : Shown screen) (event : PriceEvent) :
    Shown (screen.next texts event) ↔ Fits screen event := by
  cases event with
  | openScreen => exact iff_of_true (shown_of_closed rfl) trivial
  | answer bounds =>
      cases bounds with
      | none => exact iff_of_true shown trivial
      | some bounds => exact answer_shown_iff texts shown _ _
  | openPrice => exact openPrice_shown_iff texts remembers
  | closePrice => exact iff_of_true (shown_of_closed rfl) trivial
  | rebuild => exact iff_of_true shown trivial
  | drag values =>
      rcases drag_cases texts screen values with dropped | ⟨_, valid, kept⟩
      · rw [dropped]
        exact iff_of_true shown trivial
      · rw [kept]
        refine iff_of_true ?_ trivial
        intro after same
        cases same
        exact valid
  | clearFilter => exact iff_of_true (shown_of_closed rfl) trivial
  | renewStore => exact iff_of_true shown trivial

theorem builds_valid_iff (texts : NumberTexts) {screen : PriceScreen}
    (remembers : Remembers screen) (shown : Shown screen) (event : PriceEvent) :
    (∀ slider ∈ screen.builds texts event, slider.Valid) ↔ Fits screen event := by
  rcases builds_cases texts screen event with builds | ⟨builds, _, fits⟩
  · rw [builds, forall_built_iff]
    exact shown_next_iff texts remembers shown event
  · rw [builds]
    exact iff_of_true (fun _ member => absurd member List.not_mem_nil) fits

theorem every_builds_iff (texts : NumberTexts) (events : List PriceEvent) :
    (machine texts).Every
        (fun screen event => ∀ slider ∈ screen.builds texts event, slider.Valid) atStart events ↔
      (machine texts).Every Fits atStart events := by
  refine Machine.every_iff_of_kept (fun screen => Remembers screen ∧ Shown screen) ?_ ?_
    ⟨⟨rfl, rfl⟩, shown_of_closed rfl⟩
  · intro screen event ⟨remembers, shown⟩ valid
    have fits := (builds_valid_iff texts remembers shown event).mp valid
    exact ⟨remembers_next texts remembers event,
      (shown_next_iff texts remembers shown event).mpr fits⟩
  · intro screen event ⟨remembers, shown⟩
    exact builds_valid_iff texts remembers shown event

/-- No run builds a slider that fails its assertions exactly when the bounds fit
whenever a section is opened or gets new bounds. -/
theorem rangeSlider_valid_iff (texts : NumberTexts) (events : List PriceEvent) :
    (∀ slider ∈ (machine texts).trace atStart events, slider.Valid) ↔
      (machine texts).Every Fits atStart events :=
  (Machine.forall_trace_iff RangeSlider.Valid).trans (every_builds_iff texts events)

/-- The lowest price is 10.5; a drag of the upper end by whole steps stores it as 10. -/
theorem fractional_bound_counterexample :
    ¬ ∀ events : List PriceEvent,
      ∀ slider ∈ (machine integerTexts).trace atStart events, slider.Valid := by
  intro valid
  have built := (Machine.forall_trace_iff RangeSlider.Valid).mp (valid
    [.openScreen, .answer (some (21 / 2, 201 / 2)), .openPrice, .drag ⟨21 / 2, 101 / 2⟩,
      .openScreen, .answer (some (21 / 2, 201 / 2)), .openPrice])
  have fits := (every_builds_iff integerTexts _).mp built
  exact absurd fits (by decide +kernel)

/-- Every answer brings the same bounds, and a section is opened after an answer only. -/
def Steady (low : ℤ) (high : ℚ) (screen : PriceScreen) : PriceEvent → Prop
  | .answer (some bounds) => bounds = ((low : ℚ), high)
  | .openPrice => screen.minPrice.isSome = true
  | _ => True

def RangeValues.Between (low : ℤ) (high : ℚ) (values : RangeValues) : Prop :=
  (low : ℚ) ≤ values.start ∧ values.start ≤ values.stop ∧ values.stop ≤ high

structure Within (low : ℤ) (high : ℚ) (screen : PriceScreen) : Prop where
  bounds : screen.minPrice.isSome = true → screen.widgetMin = low ∧ screen.widgetMax = high
  dragged : ∀ values, screen.dragged = some values → values.Between low high
  shown : ∀ values, screen.rangeValues = some values →
    screen.minPrice.isSome = true ∧ values.Between low high

section SteadyBounds

variable {low : ℤ} {high : ℚ} (nonneg : 0 ≤ low) (ordered : (low : ℚ) ≤ high)

include nonneg in
theorem between_truncated {values : RangeValues} (between : values.Between low high) :
    RangeValues.Between low high
      { start := truncate values.start, stop := truncate values.stop } := by
  obtain ⟨above, sorted, below⟩ := between
  have floor : (0 : ℚ) ≤ low := by exact_mod_cast nonneg
  refine ⟨?_, truncated_ordered sorted, ?_⟩
  · have whole := truncate_mono above
    rw [truncate_intCast] at whole
    exact Int.cast_le.mpr whole
  · exact le_trans (truncate_le_of_nonneg (by linarith)) below

include nonneg ordered in
theorem between_initState (texts : NumberTexts) {screen : PriceScreen}
    (remembers : Remembers screen) (within : Within low high screen)
    (answered : screen.minPrice.isSome = true) :
    (screen.initState texts).Between low high := by
  obtain ⟨lowest, highest⟩ := within.bounds answered
  rw [initState_eq texts remembers]
  cases past : screen.dragged with
  | some values => exact between_truncated nonneg (within.dragged values past)
  | none =>
      dsimp only
      rw [lowest, highest]
      exact ⟨le_refl _, ordered, le_refl _⟩

theorem within_onChanged {screen : PriceScreen} (within : Within low high screen)
    {before values : RangeValues} (present : screen.rangeValues = some before)
    (valid : (screen.slider values).Valid) : Within low high (screen.onChanged values) := by
  have answered := (within.shown before present).1
  obtain ⟨lowest, highest⟩ := within.bounds answered
  have between : values.Between low high := by
    unfold RangeSlider.Valid slider at valid
    rw [lowest, highest] at valid
    exact valid
  exact
    { bounds := within.bounds
      dragged := by intro _ same; cases same; exact between
      shown := by intro _ same; cases same; exact ⟨answered, between⟩ }

include nonneg ordered in
theorem within_next (texts : NumberTexts) {screen : PriceScreen}
    (remembers : Remembers screen) (within : Within low high screen) {event : PriceEvent}
    (steady : Steady low high screen event) : Within low high (screen.next texts event) := by
  cases event with
  | openScreen =>
      exact
        { bounds := by intro none_; cases none_
          dragged := within.dragged
          shown := by intro _ none_; cases none_ }
  | answer bounds =>
      cases bounds with
      | none => exact within
      | some bounds =>
          cases (steady : bounds = _)
          exact
            { bounds := fun _ => ⟨rfl, rfl⟩
              dragged := within.dragged
              shown := fun values present => ⟨rfl, (within.shown values present).2⟩ }
  | openPrice =>
      refine { bounds := within.bounds, dragged := within.dragged, shown := ?_ }
      intro values same
      cases same
      exact ⟨steady, between_initState nonneg ordered texts remembers within steady⟩
  | closePrice =>
      exact
        { bounds := within.bounds
          dragged := within.dragged
          shown := by intro _ none_; cases none_ }
  | rebuild => exact within
  | drag values =>
      rcases drag_cases texts screen values with dropped | ⟨⟨before, present⟩, valid, kept⟩
      · rw [dropped]
        exact within
      · rw [kept]
        exact within_onChanged within present valid
  | clearFilter =>
      exact
        { bounds := within.bounds
          dragged := by intro _ none_; cases none_
          shown := by intro _ none_; cases none_ }
  | renewStore =>
      exact
        { bounds := within.bounds
          dragged := by intro _ none_; cases none_
          shown := within.shown }

include nonneg in
theorem fits_of_steady {screen : PriceScreen} (within : Within low high screen)
    (ordered : (low : ℚ) ≤ high) {event : PriceEvent} (steady : Steady low high screen event) :
    Fits screen event := by
  unfold Fits
  split
  · obtain ⟨lowest, highest⟩ := within.bounds steady
    rw [lowest, highest]
    cases past : screen.dragged with
    | some values =>
        have between := between_truncated nonneg (within.dragged values past)
        exact ⟨between.1, between.2.2⟩
    | none => exact ordered
  · cases present : screen.rangeValues with
    | none => trivial
    | some values =>
        cases (steady : _ = _)
        have between := (within.shown values present).2
        exact ⟨between.1, between.2.2⟩
  · trivial

include nonneg ordered in
/-- With bounds that never change and a whole lowest price no slider fails. -/
theorem sliders_valid_of_steady (texts : NumberTexts) {events : List PriceEvent}
    (steady : (machine texts).Every (Steady low high) atStart events) :
    ∀ slider ∈ (machine texts).trace atStart events, slider.Valid := by
  rw [Machine.forall_trace_iff RangeSlider.Valid]
  refine (every_builds_iff texts events).mpr ?_
  refine Machine.every_of_invariant
    (fun screen => Remembers screen ∧ Within low high screen) ?_ ?_ steady
  · intro screen event ⟨remembers, within⟩ now
    exact ⟨⟨remembers_next texts remembers event,
      within_next nonneg ordered texts remembers within now⟩,
      fits_of_steady nonneg within ordered now⟩
  · refine ⟨⟨rfl, rfl⟩, ?_⟩
    exact
      { bounds := by intro none_; cases none_
        dragged := by intro _ none_; cases none_
        shown := by intro _ none_; cases none_ }

end SteadyBounds

end FiksOpp.FilterPrices
