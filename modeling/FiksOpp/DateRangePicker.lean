/-
The selection of `CustomCalendar`, and the picker that shows it, `CustomDateRangePicker`.

The calendar keeps a start and an end of its own and reports them to the picker, which
keeps two more and hands those over.  A report needs both dates, so the picker is left
behind while the calendar shows one date or none.
-/

import FiksOpp.CustomCalendar

namespace FiksOpp.DateRangePicker

open BookingTimestamps
open CustomCalendar
open DateStrip
open EventRun

structure Selection where
  startDate : Option ℤ
  endDate : Option ℤ
  deriving DecidableEq, Repr

/-- Both dates, as `startDate!` and `endDate!` take them. -/
def Selection.complete (selection : Selection) : Option (ℤ × ℤ) :=
  match selection.startDate, selection.endDate with
  | some start, some end_ => some (start, end_)
  | _, _ => none

structure Limits where
  minimumDate : Option ℤ
  maximumDate : Option ℤ
  deriving DecidableEq, Repr

/-- The guards of a cell's `onTap`. -/
def Limits.allow (limits : Limits) (date : ℤ) : Bool :=
  match limits.minimumDate, limits.maximumDate with
  | some minimum, some maximum => minimum - oneDay < date && date < maximum + oneDay
  | some minimum, none => minimum - oneDay < date
  | none, some maximum => date < maximum + oneDay
  | none, none => true

section Calendar

variable (zone : Zone)

/-- The year is not compared. -/
def sameDayAndMonth (first second : ℤ) : Bool :=
  (shownAt zone first).day == (shownAt zone second).day &&
    (shownAt zone first).month == (shownAt zone second).month

/-- The first chain of branches; nothing where the check of `endDate!` fails. -/
def place (selection : Selection) (date : ℤ) : Option Selection :=
  match selection.startDate with
  | none => some { selection with startDate := some date }
  | some start =>
      if start ≠ date ∧ selection.endDate = none then
        some { selection with endDate := some date }
      else if sameDayAndMonth zone start date then some { selection with startDate := none }
      else
        match selection.endDate with
        | none => none
        | some end_ =>
            if sameDayAndMonth zone end_ date then some { selection with endDate := none }
            else some selection

def Selection.endToStart (selection : Selection) : Selection :=
  match selection.startDate, selection.endDate with
  | none, some end_ => { startDate := some end_, endDate := none }
  | _, _ => selection

/-- Two dates are put in order, and moved apart as far as the tapped one. -/
def Selection.widen (selection : Selection) (date : ℤ) : Selection :=
  match selection.startDate, selection.endDate with
  | some start, some end_ =>
      let first := if ¬ start < end_ then end_ else start
      let last := if ¬ start < end_ then start else end_
      { startDate := some (if date < first then date else first)
        endDate := some (if last < date then date else last) }
  | _, _ => selection

def onDateClick (selection : Selection) (date : ℤ) : Option Selection :=
  (place zone selection date).map fun placed => placed.endToStart.widen date

inductive Range where
  | empty
  | day (date : ℤ)
  | days (first last : ℤ)
  deriving DecidableEq, Repr

/-- A tap takes an end away, or lets the range reach the tapped date. -/
def Range.tap (range : Range) (date : ℤ) : Range :=
  match range with
  | .empty => .day date
  | .day start => if start = date then .empty else .days (min start date) (max start date)
  | .days first last =>
      if sameDayAndMonth zone first date then .day last
      else if sameDayAndMonth zone last date then .day first
      else .days (min (min first last) date) (max (max first last) date)

def Range.selection : Range → Selection
  | .empty => { startDate := none, endDate := none }
  | .day date => { startDate := some date, endDate := none }
  | .days first last => { startDate := some first, endDate := some last }

def Range.Ordered : Range → Prop
  | .days first last => first < last
  | _ => True

def Range.dates : Range → List ℤ
  | .empty => []
  | .day date => [date]
  | .days first last => [first, last]

theorem sameDayAndMonth_self (date : ℤ) : sameDayAndMonth zone date date = true := by
  unfold sameDayAndMonth
  rw [beq_self_eq_true, beq_self_eq_true]
  rfl

variable {zone}

theorem Range.ordered_tap (range : Range) (date : ℤ) : (range.tap zone date).Ordered := by
  cases range with
  | empty => trivial
  | day start =>
      unfold Range.tap
      dsimp only
      split
      · trivial
      · rename_i other
        change min start date < max start date
        omega
  | days first last =>
      unfold Range.tap
      dsimp only
      split
      · trivial
      · rename_i notFirst
        split
        · trivial
        · change min (min first last) date < max (max first last) date
          have other : first ≠ date := by
            intro same
            rw [same, sameDayAndMonth_self] at notFirst
            exact notFirst rfl
          omega

theorem Range.mem_dates_tap {range : Range} {date shown : ℤ}
    (member : shown ∈ (range.tap zone date).dates) : shown = date ∨ shown ∈ range.dates := by
  cases range with
  | empty => exact Or.inl (List.mem_singleton.mp member)
  | day start =>
      unfold Range.tap at member
      dsimp only at member
      split at member
      · cases member
      · have ends := List.mem_pair.mp member
        change shown = date ∨ shown ∈ [start]
        rw [List.mem_singleton]
        omega
  | days first last =>
      unfold Range.tap at member
      dsimp only at member
      change shown = date ∨ shown ∈ [first, last]
      rw [List.mem_pair]
      split at member
      · exact Or.inr (Or.inr (List.mem_singleton.mp member))
      · split at member
        · exact Or.inr (Or.inl (List.mem_singleton.mp member))
        · have ends := List.mem_pair.mp member
          omega

theorem Range.covers_tap {range : Range} {date first last : ℤ}
    (after : range.tap zone date = .days first last) : first ≤ date ∧ date ≤ last := by
  cases range with
  | empty => cases after
  | day start =>
      unfold Range.tap at after
      dsimp only at after
      split at after
      · cases after
      · injection after with least greatest
        omega
  | days first' last' =>
      unfold Range.tap at after
      dsimp only at after
      split at after
      · cases after
      · split at after
        · cases after
        · injection after with least greatest
          omega

theorem widen_days (start end_ date : ℤ) :
    ({ startDate := some start, endDate := some end_ : Selection }.widen date) =
      (Range.days (min (min start end_) date) (max (max start end_) date)).selection := by
  unfold Selection.widen Range.selection
  dsimp only
  congr 2
  · split_ifs <;> omega
  · split_ifs <;> omega

/-- No null check fails, and the two dates are those of the range. -/
theorem onDateClick_selection (range : Range) (date : ℤ) :
    onDateClick zone range.selection date = some (range.tap zone date).selection := by
  cases range with
  | empty => rfl
  | day start =>
      unfold onDateClick place Range.selection Range.tap
      dsimp only
      by_cases same : start = date
      · rw [if_neg (fun both => both.1 same), if_pos same, same,
          if_pos (sameDayAndMonth_self zone date)]
        rfl
      · rw [if_pos ⟨same, rfl⟩, if_neg same]
        have widened := widen_days start date date
        rw [min_eq_left (min_le_right _ _), max_eq_left (le_max_right _ _)] at widened
        exact congrArg some widened
  | days first last =>
      unfold onDateClick place Range.selection Range.tap
      dsimp only
      rw [if_neg (fun both => nomatch both.2)]
      by_cases atFirst : sameDayAndMonth zone first date = true
      · rw [if_pos atFirst, if_pos atFirst]
        rfl
      · rw [if_neg atFirst, if_neg atFirst]
        by_cases atLast : sameDayAndMonth zone last date = true
        · rw [if_pos atLast, if_pos atLast]
          rfl
        · rw [if_neg atLast, if_neg atLast]
          exact congrArg some (widen_days first last date)

end Calendar

structure Picker where
  calendar : Selection
  picked : Selection
  deriving DecidableEq, Repr

def Picker.opened (range : Range) : Picker :=
  { calendar := range.selection, picked := range.selection }

section Picker

variable (zone : Zone) (limits : Limits)

/-- A tap on a cell; `startEndDateChange` is called within a `try`, and a missing date
fails there. -/
def onTap (picker : Picker) (date : ℤ) : Picker :=
  if limits.allow date then
    match onDateClick zone picker.calendar date with
    | none => picker
    | some calendar =>
        { calendar := calendar
          picked := if calendar.complete.isSome then calendar else picker.picked }
  else picker

def taps : Machine Picker ℤ Selection where
  next := onTap zone limits
  outputs picker date := [(onTap zone limits picker date).calendar]

/-- The arguments of `onApplyClick`; nothing where a null check fails. -/
def Picker.applied (picker : Picker) : Option (ℤ × ℤ) :=
  picker.picked.complete

def shownSelections (range : Range) (dates : List ℤ) : List Selection :=
  range.selection :: (taps zone limits).trace (.opened range) dates

variable {zone limits}

/-! ### Runs -/

def Range.taps (zone : Zone) (range : Range) (dates : List ℤ) : Range :=
  dates.foldl (Range.tap zone) range

theorem onTap_of_selection {picker : Picker} {range : Range}
    (shows : picker.calendar = range.selection) (date : ℤ) :
    (onTap zone limits picker date).calendar =
      (if limits.allow date then range.tap zone date else range).selection := by
  unfold onTap
  by_cases allowed : limits.allow date = true
  · rw [if_pos allowed, if_pos allowed, shows, onDateClick_selection]
  · rw [if_neg allowed, if_neg allowed, shows]

/-- The calendar shows the range that the allowed taps make. -/
theorem calendar_run {picker : Picker} {range : Range}
    (shows : picker.calendar = range.selection) (dates : List ℤ) :
    ((taps zone limits).run picker dates).calendar =
      (Range.taps zone range (dates.filter limits.allow)).selection := by
  induction dates generalizing picker range with
  | nil => exact shows
  | cons date rest ih =>
      have next := @onTap_of_selection zone limits _ _ shows date
      change ((taps zone limits).run (onTap zone limits picker date) rest).calendar = _
      rw [ih next]
      by_cases allowed : limits.allow date = true
      · rw [if_pos allowed, List.filter_cons_of_pos allowed]
        rfl
      · rw [if_neg allowed, List.filter_cons_of_neg allowed]

theorem Range.mem_dates_taps {range : Range} {dates : List ℤ} {shown : ℤ}
    (member : shown ∈ (Range.taps zone range dates).dates) :
    shown ∈ dates ∨ shown ∈ range.dates := by
  induction dates generalizing range with
  | nil => exact Or.inr member
  | cons date rest ih =>
      rcases ih member with tapped | before
      · exact Or.inl (List.mem_cons_of_mem date tapped)
      · rcases Range.mem_dates_tap before with here | earlier
        · exact Or.inl (List.mem_cons.mpr (Or.inl here))
        · exact Or.inr earlier

theorem Range.ordered_taps {dates : List ℤ} (tapped : dates ≠ []) (range : Range) :
    (Range.taps zone range dates).Ordered := by
  obtain ⟨before, last, rfl⟩ := List.eq_nil_or_concat dates |>.resolve_left tapped
  unfold Range.taps
  rw [List.concat_eq_append, List.foldl_append]
  exact Range.ordered_tap _ last

/-- The calendar shows a range, and the picker has it if it is complete. -/
def Follows (picker : Picker) : Prop :=
  (∃ range : Range, picker.calendar = range.selection) ∧
    (picker.calendar.complete.isSome → picker.picked = picker.calendar)

theorem applied_of_follows {picker : Picker} (follows : Follows picker)
    (complete : picker.calendar.complete.isSome) :
    picker.applied = picker.calendar.complete := by
  unfold Picker.applied
  rw [follows.2 complete]

theorem onTap_cases {picker : Picker} {range : Range}
    (shows : picker.calendar = range.selection) (date : ℤ) :
    onTap zone limits picker date = picker ∨
      ∃ next : Range, onTap zone limits picker date =
        { calendar := next.selection
          picked := if next.selection.complete.isSome then next.selection
            else picker.picked } := by
  unfold onTap
  by_cases allowed : limits.allow date = true
  · rw [if_pos allowed, shows, onDateClick_selection]
    exact Or.inr ⟨range.tap zone date, rfl⟩
  · rw [if_neg allowed]
    exact Or.inl rfl

theorem follows_onTap {picker : Picker} (follows : Follows picker) (date : ℤ) :
    Follows (onTap zone limits picker date) ∧
      (onTap zone limits picker date).applied =
        (onTap zone limits picker date).calendar.complete.or picker.applied := by
  obtain ⟨range, shows⟩ := follows.1
  rcases @onTap_cases zone limits _ _ shows date with same | ⟨next, changed⟩
  · rw [same]
    refine ⟨follows, ?_⟩
    cases complete : picker.calendar.complete with
    | none => rfl
    | some dates => rw [applied_of_follows follows (by rw [complete]; rfl), complete]; rfl
  · rw [changed]
    unfold Follows Picker.applied
    dsimp only
    cases complete : next.selection.complete with
    | none => exact ⟨⟨⟨next, rfl⟩, fun impossible => nomatch impossible⟩, rfl⟩
    | some dates =>
        rw [Option.isSome_some, if_pos rfl, complete]
        exact ⟨⟨⟨next, rfl⟩, fun _ => rfl⟩, rfl⟩

theorem follows_run {picker : Picker} (follows : Follows picker) (dates : List ℤ) :
    Follows ((taps zone limits).run picker dates) := by
  induction dates generalizing picker with
  | nil => exact follows
  | cons date rest ih => exact ih (follows_onTap follows date).1

theorem applied_run {picker : Picker} (follows : Follows picker) (dates : List ℤ) :
    ((taps zone limits).run picker dates).applied =
      (((taps zone limits).trace picker dates).filterMap Selection.complete).getLast?.or
        picker.applied := by
  induction dates generalizing picker with
  | nil => rfl
  | cons date rest ih =>
      obtain ⟨follows', here⟩ := @follows_onTap zone limits _ follows date
      change ((taps zone limits).run (onTap zone limits picker date) rest).applied =
        ((List.filterMap Selection.complete ([(onTap zone limits picker date).calendar] ++
          (taps zone limits).trace (onTap zone limits picker date) rest)).getLast?).or _
      rw [ih follows', here, List.filterMap_append, List.getLast?_append, Option.or_assoc]
      cases complete : (onTap zone limits picker date).calendar.complete with
      | none => rw [List.filterMap_cons_none complete, List.filterMap_nil, List.getLast?_nil]
      | some both =>
          rw [List.filterMap_cons_some complete, List.filterMap_nil, List.getLast?_singleton]

theorem follows_opened (range : Range) : Follows (.opened range) :=
  ⟨⟨range, rfl⟩, fun _ => rfl⟩

/-- Apply hands over the last complete range that the calendar has shown, and fails where it
has shown none. -/
theorem applied_eq_last_complete (range : Range) (dates : List ℤ) :
    ((taps zone limits).run (.opened range) dates).applied =
      ((shownSelections zone limits range dates).filterMap Selection.complete).getLast? := by
  have run := @applied_run zone limits _ (follows_opened range) dates
  rw [run]
  unfold shownSelections Picker.applied Picker.opened
  dsimp only
  cases complete : range.selection.complete with
  | none => rw [List.filterMap_cons_none complete, Option.or_none]
  | some both =>
      rw [List.filterMap_cons_some complete, List.getLast?_cons]
      cases (List.filterMap Selection.complete
        ((taps zone limits).trace { calendar := range.selection, picked := range.selection }
          dates)).getLast? <;> rfl

theorem Range.covers_taps {range : Range} {before : List ℤ} {date first last : ℤ}
    (after : Range.taps zone range (before ++ [date]) = .days first last) :
    first ≤ date ∧ date ≤ last := by
  unfold Range.taps at after
  rw [List.foldl_append] at after
  exact Range.covers_tap after

theorem onDateClick_never_fails (range : Range) (dates : List ℤ) :
    (taps zone limits).Every
      (fun picker date => ∃ selection, onDateClick zone picker.calendar date = some selection)
      (.opened range) dates := by
  refine Machine.every_of_kept (fun picker => ∃ shown : Range, picker.calendar = shown.selection)
    ?kept ?step ⟨range, rfl⟩ dates
  case kept =>
    rintro picker date ⟨shown, shows⟩
    exact ⟨_, onTap_of_selection shows date⟩
  case step =>
    rintro picker date ⟨shown, shows⟩
    rw [shows]
    exact ⟨_, onDateClick_selection shown date⟩

/-- In every run no null check fails, and the calendar shows what the allowed taps make of the
range it was opened with: in order, made of tapped and given dates, and reaching the last
tapped one. -/
theorem calendar_shows_tapped_range (zone : Zone) (limits : Limits) (range : Range)
    (dates : List ℤ) :
    (taps zone limits).Every
        (fun picker date =>
          ∃ selection, onDateClick zone picker.calendar date = some selection)
        (.opened range) dates ∧
      ((taps zone limits).run (.opened range) dates).calendar =
        (Range.taps zone range (dates.filter limits.allow)).selection ∧
      (dates.filter limits.allow ≠ [] →
        (Range.taps zone range (dates.filter limits.allow)).Ordered) ∧
      (∀ shown ∈ (Range.taps zone range (dates.filter limits.allow)).dates,
        shown ∈ dates.filter limits.allow ∨ shown ∈ range.dates) ∧
      ∀ before date first last, dates.filter limits.allow = before ++ [date] →
        Range.taps zone range (dates.filter limits.allow) = .days first last →
          first ≤ date ∧ date ≤ last := by
  refine ⟨onDateClick_never_fails range dates, calendar_run rfl dates,
    fun tapped => Range.ordered_taps tapped range, fun shown member => Range.mem_dates_taps member,
    ?_⟩
  intro before date first last taps_ after
  rw [taps_] at after
  exact Range.covers_taps after

/-- A range the calendar may show: the given one, or an ordered one of dates that are allowed
or given. -/
def Admissible (limits : Limits) (given range : Range) : Prop :=
  range = given ∨
    (range.Ordered ∧ ∀ date ∈ range.dates, limits.allow date = true ∨ date ∈ given.dates)

theorem Admissible.tap {given range : Range} (admissible : Admissible limits given range)
    {date : ℤ} (allowed : limits.allow date = true) :
    Admissible limits given (range.tap zone date) := by
  refine Or.inr ⟨Range.ordered_tap range date, fun shown member => ?_⟩
  rcases Range.mem_dates_tap member with here | before
  · rw [here]
    exact Or.inl allowed
  · rcases admissible with same | ⟨_, dates⟩
    · rw [same] at before
      exact Or.inr before
    · exact dates shown before

def ShowsAdmissible (limits : Limits) (given : Range) (selection : Selection) : Prop :=
  ∃ range, selection = range.selection ∧ Admissible limits given range

theorem showsAdmissible_onTap {given : Range} {picker : Picker}
    (shows : ShowsAdmissible limits given picker.calendar) (date : ℤ) :
    ShowsAdmissible limits given (onTap zone limits picker date).calendar := by
  obtain ⟨range, same, admissible⟩ := shows
  refine ⟨_, onTap_of_selection same date, ?_⟩
  by_cases allowed : limits.allow date = true
  · rw [if_pos allowed]
    exact admissible.tap allowed
  · rw [if_neg allowed]
    exact admissible

theorem showsAdmissible_of_mem {given : Range} {dates : List ℤ} {selection : Selection}
    (member : selection ∈ shownSelections zone limits given dates) :
    ShowsAdmissible limits given selection := by
  rcases List.mem_cons.mp member with first | later
  · exact ⟨given, first, Or.inl rfl⟩
  · have initially : ShowsAdmissible limits given (Picker.opened given).calendar :=
      ⟨given, rfl, Or.inl rfl⟩
    refine Machine.forall_trace_of_invariant
      (fun picker => ShowsAdmissible limits given picker.calendar)
      (fun picker date shows => showsAdmissible_onTap shows date) ?_ initially selection later
    intro picker date shows output emitted
    rw [List.mem_singleton.mp emitted]
    exact showsAdmissible_onTap shows date

theorem complete_selection {range : Range} {first last : ℤ}
    (complete : range.selection.complete = some (first, last)) : range = .days first last := by
  cases range with
  | empty => cases complete
  | day date => cases complete
  | days first' last' =>
      cases complete
      rfl

theorem getLast?_filterMap_eq_none_iff {α β : Type*} (view : α → Option β) (items : List α) :
    (items.filterMap view).getLast? = none ↔ ∀ item ∈ items, view item = none := by
  rw [List.getLast?_eq_none_iff, List.filterMap_eq_nil_iff]

/-- In every run Apply hands over the last complete range that the calendar has shown.  That
is the range on show exactly while one is shown, or none ever was; and it is the given range
or an ordered one of allowed and given dates. -/
theorem apply_hands_over_last_complete (zone : Zone) (limits : Limits) (range : Range)
    (dates : List ℤ) :
    let finish := (taps zone limits).run (.opened range) dates
    let shown := shownSelections zone limits range dates
    finish.applied = (shown.filterMap Selection.complete).getLast? ∧
      (finish.applied = finish.calendar.complete ↔
        finish.calendar.complete.isSome ∨ ∀ selection ∈ shown, selection.complete = none) ∧
      ∀ first last, finish.applied = some (first, last) →
        Admissible limits range (.days first last) := by
  dsimp only
  have last_ := @applied_eq_last_complete zone limits range dates
  have follows := @follows_run zone limits _ (follows_opened range) dates
  refine ⟨last_, ⟨?_, ?_⟩, ?_⟩
  · intro same
    cases complete : ((taps zone limits).run (.opened range) dates).calendar.complete with
    | some both => exact Or.inl rfl
    | none =>
        rw [complete, last_, getLast?_filterMap_eq_none_iff] at same
        exact Or.inr same
  · rintro (complete | nothing)
    · exact applied_of_follows follows complete
    · have none_ := (getLast?_filterMap_eq_none_iff Selection.complete _).mpr nothing
      cases complete : ((taps zone limits).run (.opened range) dates).calendar.complete with
      | none => rw [last_, none_]
      | some both =>
          rw [← complete]
          exact applied_of_follows follows (by rw [complete]; rfl)
  · intro first last applied
    rw [last_] at applied
    have member := List.mem_of_getLast? applied
    obtain ⟨selection, inside, complete⟩ := List.mem_filterMap.mp member
    obtain ⟨shown, same, admissible⟩ := showsAdmissible_of_mem inside
    rw [same] at complete
    rw [← complete_selection complete]
    exact admissible

end Picker

end FiksOpp.DateRangePicker
