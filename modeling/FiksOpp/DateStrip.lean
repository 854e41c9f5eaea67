/-
The strip of dates of the slot sheet, `HorizontalDatePickerWidget`.

An item lies a whole number of times 24 hours after the start, which has a time of day and
is preceded by items that fill half the row; days are counted by whole 24 hours as well.
What day an item shows is decided by the clock, which may be changed in between.  Widths
are exact numbers here.
-/

import FiksOpp.BookingTimestamps
import Mathlib.Algebra.Order.Field.Rat
import Mathlib.Data.Rat.Floor
import Mathlib.Tactic.FieldSimp
import Mathlib.Tactic.Linarith
import Mathlib.Tactic.Ring

namespace FiksOpp.DateStrip

open BookingTimestamps

def oneDay : ℤ := 86400000000

def inDays (microseconds : ℤ) : ℤ :=
  microseconds.tdiv oneDay

theorem inDays_of_neg {microseconds : ℤ} (negative : microseconds < 0) :
    inDays microseconds = -(-microseconds / oneDay) := by
  have flipped := Int.neg_tdiv (-microseconds) oneDay
  rw [neg_neg, Int.tdiv_eq_ediv_of_nonneg (by omega : 0 ≤ -microseconds)] at flipped
  exact flipped

theorem inDays_of_nonneg {microseconds : ℤ} (nonneg : 0 ≤ microseconds) :
    inDays microseconds = microseconds / oneDay :=
  Int.tdiv_eq_ediv_of_nonneg nonneg

/-- Dates are instants in microseconds. -/
structure HorizontalDatePicker where
  startDate : ℤ
  endDate : ℤ
  selectedDate : ℤ
  width : ℚ
  widgetWidth : ℚ
  ordered : startDate ≤ endDate
  width_pos : 0 < width
  widgetWidth_nonneg : 0 ≤ widgetWidth

inductive DateItemState where
  | active
  | selected
  | disabled
  deriving DecidableEq, Repr

namespace HorizontalDatePicker

variable (picker : HorizontalDatePicker)

def maxRowChild : ℤ :=
  ⌊picker.widgetWidth / picker.width⌋

def shift : ℤ :=
  if picker.maxRowChild % 2 = 1 then (picker.maxRowChild - 1) / 2 else picker.maxRowChild / 2

def shiftPos : ℚ :=
  if picker.maxRowChild % 2 = 1 then picker.shift else picker.shift - 1 / 2

/-- No number where a row holds no item: the quotient is infinite. -/
def padding : Option ℚ :=
  if picker.maxRowChild = 0 then none
  else some ((picker.widgetWidth - picker.maxRowChild * picker.width) / picker.maxRowChild)

def itemWidth : Option ℚ :=
  picker.padding.map fun padding => padding + picker.width

def itemCount : ℤ :=
  picker.shift * 2 + inDays (picker.endDate - picker.startDate) + 1

def realStartDate : ℤ :=
  picker.startDate - picker.shift * oneDay

def itemDate (index : ℕ) : ℤ :=
  picker.realStartDate + index * oneDay

def items : List ℤ :=
  (List.range picker.itemCount.toNat).map picker.itemDate

def isWithinRange (dateTime : ℤ) : Bool :=
  picker.startDate ≤ dateTime && dateTime ≤ picker.endDate

def selectedIndex : ℤ :=
  inDays (picker.selectedDate - picker.realStartDate)

def scrollOffset : Option ℚ :=
  picker.itemWidth.map fun itemWidth => (picker.selectedIndex - picker.shiftPos) * itemWidth

end HorizontalDatePicker

section Days

variable (zone : Zone)

def dayOf (instant : ℤ) : ℤ :=
  zone.clockOf instant / oneDay

def timeOfDay (instant : ℤ) : ℤ :=
  zone.clockOf instant % oneDay

def moved (earlier later : ℤ) : ℤ :=
  (zone.offset later - zone.offset earlier) * 1000000

/-- The time of day, with the rest of the time that has passed and what the clock was moved
by, is one of the same day. -/
def StaysInDay (earlier later rest : ℤ) : Prop :=
  0 ≤ timeOfDay zone earlier + rest + moved zone earlier later ∧
    timeOfDay zone earlier + rest + moved zone earlier later < oneDay

/-- `_getDateTimeState`; dates are equal where they have the same day. -/
def dateTimeState (picker : HorizontalDatePicker) (dateTime : ℤ) : DateItemState :=
  if dayOf zone dateTime = dayOf zone picker.selectedDate then .selected
  else if picker.isWithinRange dateTime then .active
  else .disabled

def daysFrom (first last : ℤ) : List ℤ :=
  (List.range (last - first + 1).toNat).map fun (count : ℕ) => first + count

/-- The items in the range show each day from the start to the end once. -/
def ShowsDays (picker : HorizontalDatePicker) : Prop :=
  (picker.items.filter picker.isWithinRange).map (dayOf zone) =
    daysFrom (dayOf zone picker.startDate) (dayOf zone picker.endDate)

def centred (picker : HorizontalDatePicker) (index : ℕ) : Option ℚ :=
  picker.itemWidth.map fun itemWidth =>
    index * itemWidth + itemWidth / 2 - picker.widgetWidth / 2

/-- The strip is scrolled to an item that shows the selected day, if it is one of the strip's
days. -/
def ScrollsToSelected (picker : HorizontalDatePicker) : Prop :=
  dayOf zone picker.startDate ≤ dayOf zone picker.selectedDate →
    dayOf zone picker.selectedDate ≤ dayOf zone picker.endDate →
      ∃ index : ℕ, index < picker.itemCount ∧
        dayOf zone (picker.itemDate index) = dayOf zone picker.selectedDate ∧
          ∃ offset, picker.scrollOffset = some offset ∧ centred picker index = some offset

/-- The item that the selected date is counted to lies in the strip and shows its day. -/
structure SelectedInPlace (picker : HorizontalDatePicker) : Prop where
  row : picker.width ≤ picker.widgetWidth
  after : -oneDay < picker.selectedDate - picker.realStartDate
  before : picker.selectedDate - picker.realStartDate < picker.itemCount * oneDay
  sameDay : StaysInDay zone
    (picker.selectedDate - (picker.selectedDate - picker.realStartDate).tmod oneDay)
    picker.selectedDate ((picker.selectedDate - picker.realStartDate).tmod oneDay)

/-- No change of the clock moves the start's time of day out of its day, the rest of the time
to the end neither, and the selected date is in place. -/
structure InPlace (picker : HorizontalDatePicker) : Prop where
  items : ∀ count : ℕ, count ≤ inDays (picker.endDate - picker.startDate) →
    StaysInDay zone picker.startDate (picker.startDate + count * oneDay) 0
  ends : StaysInDay zone picker.startDate picker.endDate
    ((picker.endDate - picker.startDate).tmod oneDay)
  selected : dayOf zone picker.startDate ≤ dayOf zone picker.selectedDate →
    dayOf zone picker.selectedDate ≤ dayOf zone picker.endDate → SelectedInPlace zone picker

/-- Whole days later, and a rest: the clock shows the day so many days later exactly when the
rest and its own changes leave the time of day in one day. -/
theorem dayOf_eq_iff {earlier later whole rest : ℤ}
    (apart : later = earlier + whole * oneDay + rest) :
    dayOf zone later = dayOf zone earlier + whole ↔ StaysInDay zone earlier later rest := by
  have clocks : zone.clockOf later =
      zone.clockOf earlier + whole * oneDay + rest + moved zone earlier later := by
    unfold Zone.clockOf moved
    rw [apart]
    ring
  unfold StaysInDay timeOfDay dayOf
  rw [clocks]
  unfold oneDay
  omega

theorem daysFrom_eq_iff {shown : ℕ → ℤ} {count : ℕ} {first last : ℤ} :
    (List.range (count + 1)).map shown = daysFrom first last ↔
      last = first + count ∧ ∀ index : ℕ, index ≤ count → shown index = first + index := by
  unfold daysFrom
  constructor
  · intro same
    have lengths := congrArg List.length same
    rw [List.length_map, List.length_map, List.length_range, List.length_range] at lengths
    refine ⟨by omega, fun index bound => ?_⟩
    have entry := congrArg (fun days => days[index]?) same
    rw [← lengths] at entry
    simpa [Nat.lt_succ_of_le bound] using entry
  · rintro ⟨rfl, each⟩
    have length : (first + count - first + 1).toNat = count + 1 := by omega
    rw [length]
    apply List.map_congr_left
    intro index inside
    exact each index (Nat.le_of_lt_succ (List.mem_range.mp inside))

end Days

namespace HorizontalDatePicker

variable (picker : HorizontalDatePicker)

theorem maxRowChild_nonneg : 0 ≤ picker.maxRowChild := by
  unfold maxRowChild
  exact Int.floor_nonneg.mpr (div_nonneg picker.widgetWidth_nonneg picker.width_pos.le)

theorem shift_nonneg : 0 ≤ picker.shift := by
  have nonneg := picker.maxRowChild_nonneg
  unfold shift
  split <;> omega

def dayCount : ℕ :=
  (inDays (picker.endDate - picker.startDate)).toNat

theorem dayCount_eq : (picker.dayCount : ℤ) = (picker.endDate - picker.startDate) / oneDay := by
  have ordered := picker.ordered
  unfold dayCount
  rw [inDays_of_nonneg (by omega)]
  unfold oneDay
  omega

theorem inDays_range : inDays (picker.endDate - picker.startDate) = picker.dayCount := by
  have ordered := picker.ordered
  rw [dayCount_eq]
  exact inDays_of_nonneg (by omega)

theorem filter_range (before inside after : ℕ) {taken : ℕ → Bool}
    (agrees : ∀ index, taken index = true ↔ before ≤ index ∧ index < before + inside) :
    (List.range (before + inside + after)).filter taken =
      (List.range inside).map fun count => before + count := by
  have early : (List.range before).filter taken = [] := by
    rw [List.filter_eq_nil_iff]
    intro index member taken_
    have bound := List.mem_range.mp member
    have facts := (agrees index).mp taken_
    omega
  have middle : ((List.range inside).map fun count => before + count).filter taken =
      (List.range inside).map fun count => before + count := by
    rw [List.filter_eq_self]
    intro index member
    obtain ⟨count, bound, rfl⟩ := List.mem_map.mp member
    have small := List.mem_range.mp bound
    exact (agrees _).mpr ⟨by omega, by omega⟩
  have late : ((List.range after).map fun count => before + inside + count).filter taken = [] := by
    rw [List.filter_eq_nil_iff]
    intro index member taken_
    obtain ⟨count, _, rfl⟩ := List.mem_map.mp member
    have facts := (agrees _).mp taken_
    omega
  rw [List.range_add, List.range_add, List.filter_append, List.filter_append, early, middle,
    late, List.nil_append, List.append_nil]

theorem itemDate_shift (count : ℕ) :
    picker.itemDate (picker.shift.toNat + count) = picker.startDate + count * oneDay := by
  have nonneg := picker.shift_nonneg
  unfold itemDate realStartDate oneDay
  omega

theorem filter_items :
    picker.items.filter picker.isWithinRange =
      (List.range (picker.dayCount + 1)).map fun (count : ℕ) =>
        picker.startDate + count * oneDay := by
  have nonneg := picker.shift_nonneg
  have counted := picker.dayCount_eq
  have total : picker.itemCount.toNat =
      picker.shift.toNat + (picker.dayCount + 1) + picker.shift.toNat := by
    unfold itemCount
    rw [inDays_range]
    omega
  have agrees : ∀ index : ℕ, (picker.isWithinRange ∘ picker.itemDate) index = true ↔
      picker.shift.toNat ≤ index ∧ index < picker.shift.toNat + (picker.dayCount + 1) := by
    intro index
    unfold isWithinRange itemDate realStartDate
    simp only [Function.comp_apply, Bool.and_eq_true, decide_eq_true_eq]
    unfold oneDay at counted ⊢
    omega
  unfold items
  rw [List.filter_map, total, filter_range _ _ _ agrees, List.map_map]
  apply List.map_congr_left
  intro count _
  exact picker.itemDate_shift count

theorem one_le_maxRowChild_iff : 1 ≤ picker.maxRowChild ↔ picker.width ≤ picker.widgetWidth := by
  unfold maxRowChild
  rw [Int.le_floor, Int.cast_one, le_div_iff₀ picker.width_pos, one_mul]

theorem itemWidth_eq (row : picker.width ≤ picker.widgetWidth) :
    picker.itemWidth = some (picker.widgetWidth / picker.maxRowChild) := by
  have some_ := picker.one_le_maxRowChild_iff.mpr row
  have nonzero : picker.maxRowChild ≠ 0 := by omega
  have cast : (picker.maxRowChild : ℚ) ≠ 0 := by exact_mod_cast nonzero
  unfold itemWidth padding
  rw [if_neg nonzero, Option.map_some]
  congr 1
  field_simp
  ring

theorem two_shiftPos : 2 * picker.shiftPos + 1 = picker.maxRowChild := by
  unfold shiftPos shift
  by_cases odd : picker.maxRowChild % 2 = 1
  · rw [if_pos odd, if_pos odd]
    have half : 2 * ((picker.maxRowChild - 1) / 2) + 1 = picker.maxRowChild := by omega
    exact_mod_cast half
  · rw [if_neg odd, if_neg odd]
    have half : 2 * (picker.maxRowChild / 2) = picker.maxRowChild := by omega
    have cast : (2 : ℚ) * ((picker.maxRowChild / 2 : ℤ) : ℚ) = picker.maxRowChild := by
      exact_mod_cast half
    linarith

theorem itemWidth_of_narrow (narrow : ¬ picker.width ≤ picker.widgetWidth) :
    picker.itemWidth = none := by
  have nonneg := picker.maxRowChild_nonneg
  have few := mt picker.one_le_maxRowChild_iff.mp narrow
  have zero : picker.maxRowChild = 0 := by omega
  unfold itemWidth padding
  rw [if_pos zero]
  rfl

/-- The offset of the selected date is that of one item, the one it is counted to. -/
theorem scrollOffset_eq_centred_iff (row : picker.width ≤ picker.widgetWidth) (index : ℕ) :
    (∃ offset, picker.scrollOffset = some offset ∧ centred picker index = some offset) ↔
      (index : ℤ) = picker.selectedIndex := by
  have some_ := picker.one_le_maxRowChild_iff.mpr row
  have cast : (0 : ℚ) < picker.maxRowChild := by exact_mod_cast some_
  have filled : picker.maxRowChild * (picker.widgetWidth / picker.maxRowChild) =
      picker.widgetWidth := mul_div_cancel₀ _ cast.ne'
  have positive : 0 < picker.widgetWidth / picker.maxRowChild :=
    div_pos (lt_of_lt_of_le picker.width_pos row) cast
  have middle := picker.two_shiftPos
  unfold scrollOffset centred
  rw [picker.itemWidth_eq row, Option.map_some, Option.map_some]
  generalize picker.widgetWidth / picker.maxRowChild = itemWidth at filled positive ⊢
  have offsets : index * itemWidth + itemWidth / 2 - picker.widgetWidth / 2 =
      (index - picker.shiftPos) * itemWidth := by
    rw [← filled, ← middle]
    ring
  rw [offsets]
  constructor
  · rintro ⟨offset, scrolled, shown⟩
    have same := Option.some.inj (shown.trans scrolled.symm)
    have equal := mul_right_cancel₀ positive.ne' same
    have indices : (index : ℚ) = picker.selectedIndex := by linarith
    exact_mod_cast indices
  · intro same
    refine ⟨_, rfl, ?_⟩
    rw [← same, Int.cast_natCast]

theorem inDays_nonneg_iff (microseconds : ℤ) :
    0 ≤ inDays microseconds ↔ -oneDay < microseconds := by
  rcases le_or_gt 0 microseconds with nonneg | negative
  · rw [inDays_of_nonneg nonneg]
    unfold oneDay
    omega
  · rw [inDays_of_neg negative]
    unfold oneDay
    omega

theorem inDays_lt_iff (microseconds : ℤ) {count : ℤ} (positive : 1 ≤ count) :
    inDays microseconds < count ↔ microseconds < count * oneDay := by
  rcases le_or_gt 0 microseconds with nonneg | negative
  · rw [inDays_of_nonneg nonneg]
    unfold oneDay
    omega
  · rw [inDays_of_neg negative]
    unfold oneDay
    omega

theorem one_le_itemCount : 1 ≤ picker.itemCount := by
  have nonneg := picker.shift_nonneg
  unfold itemCount
  rw [inDays_range]
  omega

theorem itemDate_selectedIndex {index : ℕ} (same : (index : ℤ) = picker.selectedIndex) :
    picker.itemDate index =
      picker.selectedDate - (picker.selectedDate - picker.realStartDate).tmod oneDay := by
  have parts := Int.mul_tdiv_add_tmod (picker.selectedDate - picker.realStartDate) oneDay
  unfold itemDate
  rw [same]
  unfold selectedIndex inDays
  rw [mul_comm] at parts
  omega

end HorizontalDatePicker

/-! ### The strip -/

section Strip

variable (zone : Zone) (picker : HorizontalDatePicker)

theorem showsDays_iff :
    ShowsDays zone picker ↔
      (∀ count : ℕ, count ≤ inDays (picker.endDate - picker.startDate) →
        StaysInDay zone picker.startDate (picker.startDate + count * oneDay) 0) ∧
        StaysInDay zone picker.startDate picker.endDate
          ((picker.endDate - picker.startDate).tmod oneDay) := by
  have parts := Int.mul_tdiv_add_tmod (picker.endDate - picker.startDate) oneDay
  have counted := picker.inDays_range
  unfold inDays at counted
  have ends := @dayOf_eq_iff zone picker.startDate picker.endDate picker.dayCount
    ((picker.endDate - picker.startDate).tmod oneDay) (by
      rw [counted, mul_comm] at parts
      omega)
  have item (count : ℕ) := @dayOf_eq_iff zone picker.startDate
    (picker.startDate + count * oneDay) count 0 (add_zero _).symm
  unfold ShowsDays
  rw [picker.filter_items, List.map_map, daysFrom_eq_iff, ends, picker.inDays_range]
  constructor
  · rintro ⟨last, each⟩
    exact ⟨fun count bound => (item count).mp (each count (by exact_mod_cast bound)), last⟩
  · rintro ⟨each, last⟩
    exact ⟨last, fun count bound => (item count).mpr (each count (by exact_mod_cast bound))⟩

theorem scrollsToSelected_iff :
    ScrollsToSelected zone picker ↔
      (dayOf zone picker.startDate ≤ dayOf zone picker.selectedDate →
        dayOf zone picker.selectedDate ≤ dayOf zone picker.endDate →
          SelectedInPlace zone picker) := by
  unfold ScrollsToSelected
  refine imp_congr_right fun _ => imp_congr_right fun _ => ?_
  have after := HorizontalDatePicker.inDays_nonneg_iff
    (picker.selectedDate - picker.realStartDate)
  have before := HorizontalDatePicker.inDays_lt_iff
    (picker.selectedDate - picker.realStartDate) picker.one_le_itemCount
  have sameDay (index : ℕ) (same : (index : ℤ) = picker.selectedIndex) :
      dayOf zone (picker.itemDate index) = dayOf zone picker.selectedDate ↔
        StaysInDay zone
          (picker.selectedDate - (picker.selectedDate - picker.realStartDate).tmod oneDay)
          picker.selectedDate ((picker.selectedDate - picker.realStartDate).tmod oneDay) := by
    rw [picker.itemDate_selectedIndex same, eq_comm, ← dayOf_eq_iff zone (by ring :
      picker.selectedDate =
        picker.selectedDate - (picker.selectedDate - picker.realStartDate).tmod oneDay +
          0 * oneDay + (picker.selectedDate - picker.realStartDate).tmod oneDay), add_zero]
  constructor
  · rintro ⟨index, inside, shows, offset, scrolled, shown⟩
    have row : picker.width ≤ picker.widgetWidth := by
      by_contra narrow
      unfold HorizontalDatePicker.scrollOffset at scrolled
      rw [picker.itemWidth_of_narrow narrow] at scrolled
      cases scrolled
    have same := (picker.scrollOffset_eq_centred_iff row index).mp ⟨offset, scrolled, shown⟩
    have index_ : inDays (picker.selectedDate - picker.realStartDate) = index := same.symm
    refine ⟨row, after.mp ?_, before.mp ?_, (sameDay index same).mp shows⟩
    · rw [index_]
      exact Int.natCast_nonneg index
    · rw [index_]
      exact inside
  · intro place
    have nonneg : 0 ≤ picker.selectedIndex := after.mpr place.after
    have same : (picker.selectedIndex.toNat : ℤ) = picker.selectedIndex :=
      Int.toNat_of_nonneg nonneg
    refine ⟨picker.selectedIndex.toNat, ?_, (sameDay _ same).mpr place.sameDay,
      (picker.scrollOffset_eq_centred_iff place.row _).mpr same⟩
    rw [same]
    exact before.mpr place.before

/-- The items in the range are the days from the start to the end, and the strip scrolls to
the selected one, exactly when no time of day leaves its day. -/
theorem dateStrip_iff :
    ShowsDays zone picker ∧ ScrollsToSelected zone picker ↔ InPlace zone picker := by
  rw [showsDays_iff, scrollsToSelected_iff]
  constructor
  · rintro ⟨⟨items, ends⟩, selected⟩
    exact ⟨items, ends, selected⟩
  · intro place
    exact ⟨⟨place.items, place.ends⟩, place.selected⟩

/-- After a tap the strip scrolls to the very item that was tapped. -/
theorem tapped_item_is_centred (row : picker.width ≤ picker.widgetWidth) (index : ℕ) :
    ∃ offset,
      HorizontalDatePicker.scrollOffset
          { picker with selectedDate := picker.itemDate index } = some offset ∧
        centred { picker with selectedDate := picker.itemDate index } index = some offset := by
  refine (HorizontalDatePicker.scrollOffset_eq_centred_iff
    { picker with selectedDate := picker.itemDate index } row index).mpr ?_
  have apart : picker.itemDate index - picker.realStartDate = index * oneDay := by
    unfold HorizontalDatePicker.itemDate
    ring
  change (index : ℤ) = inDays (picker.itemDate index - picker.realStartDate)
  rw [apart]
  exact (Int.mul_tdiv_cancel _ (by decide)).symm

end Strip

def springZone (change : ℤ) (whole : change % 1000000 = 0) : Zone where
  offset instant := if instant < change then 3600 else 7200
  resolve reading :=
    if reading - 3600000000 < change then reading - 3600000000 else reading - 7200000000
  offset_bounds := by
    intro instant
    split <;> omega
  resolve_bounds := by
    intro reading
    by_cases before : reading - 3600000000 < change
    · exact ⟨3600, by omega, by omega, by rw [if_pos before]; omega⟩
    · exact ⟨7200, by omega, by omega, by rw [if_neg before]; omega⟩
  offset_whole := by
    intro instant
    by_cases before : instant < change
    · rw [if_pos before, if_pos (by omega)]
    · rw [if_neg before, if_neg (by omega)]
  resolve_shown := by
    intro instant
    by_cases before : instant < change
    · simp only [if_pos before]
      rw [if_pos (by omega), if_pos (by omega)]
      omega
    · simp only [if_neg before]
      rw [if_neg (by omega), if_neg (by omega)]
      omega

/-- The clock is set forward on 30 March 2025, at two in the morning. -/
def norwegianSpring : Zone :=
  springZone 1743296400000000 (by decide)

def eveningPicker : HorizontalDatePicker where
  startDate := 1743287400000000
  endDate := 1743287400000000 + 3 * 86400000000
  selectedDate := 1743287400000000
  width := 60
  widgetWidth := 400
  ordered := by decide
  width_pos := by norm_num
  widgetWidth_nonneg := by norm_num

/-- The item after 29 March shows 31 March. -/
theorem thirtieth_of_march_is_skipped :
    dayOf norwegianSpring (eveningPicker.startDate + 1 * oneDay) =
        dayOf norwegianSpring eveningPicker.startDate + 2 ∧
      ¬ (ShowsDays norwegianSpring eveningPicker ∧
        ScrollsToSelected norwegianSpring eveningPicker) := by
  have skipped : dayOf norwegianSpring (eveningPicker.startDate + 1 * oneDay) =
      dayOf norwegianSpring eveningPicker.startDate + 2 := by decide
  refine ⟨skipped, fun shows => ?_⟩
  have days := shows.1
  unfold ShowsDays at days
  have counted : eveningPicker.dayCount = 3 := by decide
  rw [eveningPicker.filter_items, List.map_map, daysFrom_eq_iff] at days
  have second := days.2 1 (by rw [counted]; decide)
  change dayOf norwegianSpring (eveningPicker.startDate + 1 * oneDay) = _ at second
  rw [skipped] at second
  omega

end FiksOpp.DateStrip
