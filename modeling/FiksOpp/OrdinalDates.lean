/-
`formatDate` with a date format that asks for an ordinal day.

The package knows no ordinals, so the date is printed without them, and the suffix is put
after the first place where the digits of the day occur in the text.
-/

import FiksOpp.FaithfulFormats
import FiksOpp.Rescheduling

namespace FiksOpp.OrdinalDates

open BookingDates (addOrdinalSuffix containsText dayDigits replaceFirst
  replaceFirst_of_absent withoutS)
open CivilCalendar
open DatePatterns
open GetDateFormat (englishSuffix markedLanguage)

/-- The formats of the configuration, of which that of dates has a day token that is followed
by `S`, outside of quoted text. -/
structure OrdinalFormats where
  dateFormat : String
  timeFormat : String
  ordinal : ∃ before after, dateFormat.toList = before ++ 'd' :: 'S' :: after ∧
    before.count quote % 2 = 0

section Printing

variable (language : Language) (dateFormat timeFormat : String)

def timePart (showDateWithTime : Bool) : String :=
  if showDateWithTime then " " ++ timeFormat else ""

def formatDate (isTime showDateWithTime : Bool) (date : CivilTime) : Option (List Char) :=
  if isTime then format language timeFormat.toList date
  else if containsText dateFormat.toList ['d', 'S'] then
    match format language dateFormat.toList date with
    | none => none
    | some text =>
        if containsText text (dayDigits date.day) then
          (format language (withoutS dateFormat ++ timePart timeFormat showDateWithTime).toList
            date).map fun plain =>
              replaceFirst plain (dayDigits date.day) (addOrdinalSuffix date.day)
        else format language (dateFormat ++ timePart timeFormat showDateWithTime).toList date
  else format language (dateFormat ++ timePart timeFormat showDateWithTime).toList date

theorem formatDate_eq_by (date : CivilTime) :
    formatDate language dateFormat timeFormat false false date =
      Rescheduling.formatDateBy (fun pattern => format language pattern.toList date) dateFormat
        date.day := by
  rw [formatDate, Rescheduling.formatDateBy, timePart, if_neg Bool.false_ne_true,
    if_neg Bool.false_ne_true, String.append_empty, String.append_empty]
  split
  · cases printed : format language dateFormat.toList date with
    | none => rfl
    | some text => rfl
  · rfl

end Printing

def isDay : Lexeme → Bool
  | .field letter _ => letter == 'd'
  | .quoted _ => false
  | .literal _ => false

/-- A day is followed by its suffix, nothing else is changed. -/
def ordinalText (language : Language) (date : CivilTime) (lexeme : Lexeme) : List Char :=
  if isDay lexeme then lexeme.text language date ++ (englishSuffix date.day).toList
  else lexeme.text language date

section Specification

variable (language : Language) (formats : OrdinalFormats) (showDateWithTime : Bool)
  (date : CivilTime)

def plainLexemes : List Lexeme :=
  lexemesOf language
    (withoutS formats.dateFormat ++ timePart formats.timeFormat showDateWithTime).toList

def PrintsOrdinal : Prop :=
  formatDate language formats.dateFormat formats.timeFormat false showDateWithTime date =
    some ((plainLexemes language formats showDateWithTime).flatMap (ordinalText language date))

/-- There is one day at most, and its digits do not occur before they end there. -/
def dayIsFirst (lexemes : List Lexeme) : Bool :=
  let before := (lexemes.takeWhile fun lexeme => !isDay lexeme).flatMap
    (Lexeme.text language date)
  match lexemes.dropWhile fun lexeme => !isDay lexeme with
  | [] => !containsText before (dayDigits date.day)
  | day :: after =>
      (after.all fun lexeme => !isDay lexeme) &&
        !containsText (before ++ day.text language date).dropLast (dayDigits date.day)

structure Placed : Prop where
  implemented : (lexemesOf language formats.dateFormat.toList).all Lexeme.implemented = true
  implemented_plain :
    (plainLexemes language formats showDateWithTime).all Lexeme.implemented = true
  first : dayIsFirst language date (plainLexemes language formats showDateWithTime) = true

end Specification

theorem containsText_iff {text find : List Char} :
    containsText text find = true ↔ find <:+: text := by
  induction text with
  | nil => rw [containsText, List.isEmpty_iff, List.infix_nil]
  | cons first rest ih =>
      rw [containsText, Bool.or_eq_true, List.isPrefixOf_iff_prefix, ih, List.infix_cons_iff]

theorem replaceFirst_spec {text find : List Char} (present : find <:+: text)
    (replacement : List Char) :
    ∃ before after, text = before ++ (find ++ after) ∧
      replaceFirst text find replacement = before ++ (replacement ++ after) ∧
      ∀ front, front <+: text → find <:+: front →
        (before ++ find).length ≤ front.length := by
  induction text with
  | nil =>
      rw [List.infix_nil] at present
      rw [present]
      refine ⟨[], [], rfl, ?_, fun front _ _ => Nat.zero_le _⟩
      rw [replaceFirst, if_pos List.isEmpty_nil, List.append_nil, List.nil_append]
  | cons first rest ih =>
      by_cases here : find <+: first :: rest
      · obtain ⟨after, split⟩ := here
        refine ⟨[], after, split.symm, ?_, fun front _ inside => inside.length_le⟩
        have found : find.isPrefixOf (first :: rest) = true :=
          List.isPrefixOf_iff_prefix.mpr ⟨after, split⟩
        rw [replaceFirst, if_pos found, ← split, List.drop_left, List.nil_append]
      · have later : find <:+: rest := (List.infix_cons_iff.mp present).resolve_left here
        obtain ⟨before, after, split, replaced, shortest⟩ := ih later
        refine ⟨first :: before, after, ?_, ?_, ?_⟩
        · rw [split, List.cons_append]
        · have notFound : ¬ find.isPrefixOf (first :: rest) = true := fun found =>
            here (List.isPrefixOf_iff_prefix.mp found)
          rw [replaceFirst, if_neg notFound, replaced, List.cons_append]
        · intro front inFront inside
          cases front with
          | nil =>
              rw [List.infix_nil] at inside
              exact absurd (inside ▸ List.nil_prefix) here
          | cons other front =>
              obtain ⟨rfl, inRest⟩ := List.cons_prefix_cons.mp inFront
              rcases List.infix_cons_iff.mp inside with atStart | inTail
              · exact absurd (atStart.trans inFront) here
              · exact Nat.succ_le_succ (shortest front inRest inTail)

theorem append_swap {suffix middle : List Char} (nonempty : suffix ≠ [])
    (apart : ∀ last ∈ middle.getLast?, last ∉ suffix) :
    suffix ++ middle = middle ++ suffix ↔ middle = [] := by
  constructor
  · intro same
    cases last : middle.getLast? with
    | none => exact List.getLast?_eq_none_iff.mp last
    | some char =>
        have lasts := congrArg List.getLast? same
        rw [List.getLast?_append, List.getLast?_append, last, Option.some_or,
          List.getLast?_eq_some_getLast nonempty, Option.some_or] at lasts
        have inSuffix : char ∈ suffix := by
          rw [Option.some.inj lasts]
          exact List.getLast_mem nonempty
        exact absurd inSuffix (apart char last)
  · rintro rfl
    rw [List.append_nil, List.nil_append]

/-- A suffix lands behind an occurrence exactly when none ends earlier. -/
theorem replaceFirst_eq_iff {front find suffix : List Char} (ends : find <:+ front)
    (findSome : find ≠ []) (suffixSome : suffix ≠ [])
    (apart : ∀ last ∈ find.getLast?, last ∉ suffix) (back : List Char) :
    replaceFirst (front ++ back) find (find ++ suffix) = front ++ (suffix ++ back) ↔
      containsText front.dropLast find = false := by
  have inFront : find <:+: front := ends.isInfix
  have present : find <:+: front ++ back := inFront.trans (List.prefix_append _ _).isInfix
  obtain ⟨before, after, split, replaced, shortest⟩ :=
    replaceFirst_spec present (find ++ suffix)
  have within := shortest front (List.prefix_append _ _) inFront
  have occurrence : before ++ find <+: front ++ back :=
    ⟨after, by rw [split, List.append_assoc]⟩
  obtain ⟨middle, rest⟩ :=
    List.prefix_of_prefix_length_le occurrence (List.prefix_append front back) within
  have behind : after = middle ++ back := by
    rw [← rest, List.append_assoc, List.append_assoc] at split
    exact (List.append_cancel_left (List.append_cancel_left split)).symm
  have sameLast : ∀ last ∈ middle.getLast?, last ∉ suffix := by
    intro last isLast
    apply apart
    obtain ⟨pad, padded⟩ := ends
    have lasts := congrArg List.getLast? (rest.trans padded.symm)
    rw [List.getLast?_append, isLast, Option.some_or, List.getLast?_append,
      List.getLast?_eq_some_getLast findSome, Option.some_or] at lasts
    rw [List.getLast?_eq_some_getLast findSome]
    exact lasts.symm
  have swapped : replaceFirst (front ++ back) find (find ++ suffix) =
      front ++ (suffix ++ back) ↔ suffix ++ middle = middle ++ suffix := by
    rw [replaced, behind, ← rest]
    simp only [List.append_assoc, List.append_cancel_left_eq]
    rw [← List.append_assoc, ← List.append_assoc, List.append_cancel_right_eq]
  rw [swapped, append_swap suffixSome sameLast, ← Bool.not_eq_true, containsText_iff]
  constructor
  · rintro rfl earlier
    have bound := shortest front.dropLast
      ((List.dropLast_prefix front).trans (List.prefix_append front back)) earlier
    have length := congrArg List.length rest
    have positive := List.length_pos_of_ne_nil findSome
    simp only [List.length_append, List.length_dropLast, List.length_nil] at bound length
    omega
  · intro absent
    cases last : middle.getLast? with
    | none => exact List.getLast?_eq_none_iff.mp last
    | some char =>
        refine absurd ?_ absent
        have nonempty : middle ≠ [] := by
          rintro rfl
          cases last
        rw [← rest, List.dropLast_append_of_ne_nil nonempty]
        exact ⟨before, middle.dropLast, rfl⟩

/-! ### Days and their suffixes -/

theorem addOrdinalSuffix_upTo : ∀ day < 32,
    addOrdinalSuffix day = dayDigits day ++ (englishSuffix day).toList := by
  decide +kernel

theorem englishSuffix_spec (day : ℕ) : (englishSuffix day).toList.length = 2 ∧
    ((englishSuffix day).toList.all fun char => !char.isDigit) = true := by
  unfold englishSuffix
  split
  · decide
  · split
    · decide
    · split
      · decide
      · split
        · decide
        · decide

theorem day_lt (date : CivilTime) : date.day < 32 := by
  have bound := date.day_le_31
  omega

theorem length_englishSuffix (date : CivilTime) : (englishSuffix date.day).toList.length = 2 :=
  (englishSuffix_spec date.day).1

theorem dayDigits_apart (date : CivilTime) :
    ∀ last ∈ (dayDigits date.day).getLast?, last ∉ (englishSuffix date.day).toList := by
  intro last isLast inSuffix
  have digit : last.isDigit = true :=
    Nat.isDigit_of_mem_toDigits (by decide) (by decide) (List.mem_of_getLast? isLast)
  have letter := List.all_eq_true.mp (englishSuffix_spec date.day).2 last inSuffix
  rw [digit] at letter
  cases letter

section Lexemes

variable (language : Language) (date : CivilTime)

theorem dayDigits_suffix {lexeme : Lexeme} (day : isDay lexeme = true) :
    dayDigits date.day <:+ lexeme.text language date := by
  cases lexeme with
  | quoted inside => cases day
  | literal char => cases day
  | field letter width =>
      rw [isDay, beq_iff_eq] at day
      rw [day]
      change dayDigits date.day <:+ paddedNumber width date.day
      exact List.suffix_append _ _

theorem ordinalText_of_not_day {lexeme : Lexeme} (other : isDay lexeme = false) :
    ordinalText language date lexeme = lexeme.text language date := by
  rw [ordinalText, other, if_neg Bool.false_ne_true]

theorem ordinalText_of_all {lexemes : List Lexeme}
    (others : ∀ lexeme ∈ lexemes, isDay lexeme = false) :
    lexemes.flatMap (ordinalText language date) =
      lexemes.flatMap (Lexeme.text language date) :=
  List.flatMap_congr fun lexeme member =>
    ordinalText_of_not_day language date (others lexeme member)

theorem length_ordinalText (lexemes : List Lexeme) :
    (lexemes.flatMap (ordinalText language date)).length =
      (lexemes.flatMap (Lexeme.text language date)).length + 2 * lexemes.countP isDay := by
  induction lexemes with
  | nil => rfl
  | cons lexeme rest ih =>
      rw [List.flatMap_cons, List.flatMap_cons, List.length_append, List.length_append, ih,
        List.countP_cons]
      cases day : isDay lexeme with
      | false =>
          rw [ordinalText_of_not_day language date day, if_neg Bool.false_ne_true]
          omega
      | true =>
          rw [ordinalText, day, if_pos rfl, if_pos rfl, List.length_append,
            length_englishSuffix]
          omega

theorem length_replaceFirst {text : List Char} (present : dayDigits date.day <:+: text) :
    (replaceFirst text (dayDigits date.day) (addOrdinalSuffix date.day)).length =
      text.length + 2 := by
  obtain ⟨before, after, split, replaced, _⟩ :=
    replaceFirst_spec present (addOrdinalSuffix date.day)
  rw [replaced, addOrdinalSuffix_upTo date.day (day_lt date), split]
  simp only [List.length_append, length_englishSuffix]
  omega

theorem infix_flatMap {lexemes : List Lexeme} {lexeme : Lexeme} (member : lexeme ∈ lexemes) :
    lexeme.text language date <:+: lexemes.flatMap (Lexeme.text language date) := by
  obtain ⟨before, after, rfl⟩ := List.append_of_mem member
  rw [List.flatMap_append, List.flatMap_cons, ← List.append_assoc]
  exact ⟨_, _, rfl⟩

theorem replaceFirst_without_day {lexemes : List Lexeme}
    (others : ∀ lexeme ∈ lexemes, isDay lexeme = false) :
    replaceFirst (lexemes.flatMap (Lexeme.text language date)) (dayDigits date.day)
        (addOrdinalSuffix date.day) = lexemes.flatMap (ordinalText language date) ↔
      containsText (lexemes.flatMap (Lexeme.text language date)) (dayDigits date.day) =
        false := by
  rw [ordinalText_of_all language date others]
  cases present : containsText (lexemes.flatMap (Lexeme.text language date))
      (dayDigits date.day) with
  | false => exact iff_of_true (replaceFirst_of_absent present _) rfl
  | true =>
      refine iff_of_false ?_ Bool.true_eq_false_eq_False
      intro same
      have longer := length_replaceFirst date (containsText_iff.mp present)
      rw [same] at longer
      omega

theorem replaceFirst_with_day {before : List Lexeme} {day : Lexeme} (isDay_day : isDay day = true)
    (others : ∀ lexeme ∈ before, isDay lexeme = false) (after : List Lexeme) :
    replaceFirst ((before ++ day :: after).flatMap (Lexeme.text language date))
        (dayDigits date.day) (addOrdinalSuffix date.day) =
        (before ++ day :: after).flatMap (ordinalText language date) ↔
      (after.all fun lexeme => !isDay lexeme) = true ∧
        containsText (before.flatMap (Lexeme.text language date) ++
          day.text language date).dropLast (dayDigits date.day) = false := by
  cases single : after.all fun lexeme => !isDay lexeme with
  | true =>
      have othersAfter : ∀ lexeme ∈ after, isDay lexeme = false := fun lexeme member =>
        Bool.not_eq_true' _ |>.mp (List.all_eq_true.mp single lexeme member)
      have ends := (dayDigits_suffix language date isDay_day).trans
        (List.suffix_append (before.flatMap (Lexeme.text language date)) _)
      have suffixSome : (englishSuffix date.day).toList ≠ [] := by
        apply List.ne_nil_of_length_pos
        rw [length_englishSuffix]
        exact Nat.zero_lt_two
      have located := replaceFirst_eq_iff ends Nat.toDigits_ne_nil suffixSome
        (dayDigits_apart date) (after.flatMap (Lexeme.text language date))
      rw [addOrdinalSuffix_upTo date.day (day_lt date), List.flatMap_append, List.flatMap_cons,
        List.flatMap_append, List.flatMap_cons, ordinalText_of_all language date others,
        ordinalText_of_all language date othersAfter, ordinalText, isDay_day, if_pos rfl,
        and_iff_right rfl, ← located]
      simp only [List.append_assoc]
  | false =>
      refine iff_of_false ?_ fun both => Bool.false_ne_true both.1
      intro same
      have shown : dayDigits date.day <:+:
          (before ++ day :: after).flatMap (Lexeme.text language date) :=
        (dayDigits_suffix language date isDay_day).isInfix.trans
          (infix_flatMap language date (List.mem_append_right _ List.mem_cons_self))
      have longer := length_replaceFirst date shown
      have second : 0 < after.countP isDay := by
        rw [List.countP_pos_iff]
        obtain ⟨lexeme, member, isDay_lexeme⟩ := List.all_eq_false.mp single
        exact ⟨lexeme, member, by simpa using isDay_lexeme⟩
      rw [same, length_ordinalText, List.countP_append, List.countP_cons, isDay_day,
        if_pos rfl] at longer
      omega

theorem replaceFirst_lexemes_iff (lexemes : List Lexeme) :
    replaceFirst (lexemes.flatMap (Lexeme.text language date)) (dayDigits date.day)
        (addOrdinalSuffix date.day) = lexemes.flatMap (ordinalText language date) ↔
      dayIsFirst language date lexemes = true := by
  have others : ∀ lexeme ∈ lexemes.takeWhile fun lexeme => !isDay lexeme,
      isDay lexeme = false := by
    intro lexeme member
    have taken := List.all_eq_true.mp List.all_takeWhile lexeme member
    exact Bool.not_eq_true' _ |>.mp taken
  have split : lexemes = (lexemes.takeWhile fun lexeme => !isDay lexeme) ++
      lexemes.dropWhile fun lexeme => !isDay lexeme := List.takeWhile_append_dropWhile.symm
  unfold dayIsFirst
  cases rest : lexemes.dropWhile fun lexeme => !isDay lexeme with
  | nil =>
      rw [rest, List.append_nil] at split
      rw [← split] at others
      dsimp only
      rw [← split, Bool.not_eq_true']
      exact replaceFirst_without_day language date others
  | cons day after =>
      have isDay_day : isDay day = true := by
        have first := List.head?_dropWhile_not (fun lexeme => !isDay lexeme) lexemes
        rw [rest] at first
        simpa using first
      rw [rest] at split
      dsimp only
      rw [Bool.and_eq_true, Bool.not_eq_true',
        ← replaceFirst_with_day language date isDay_day others after, ← split]

end Lexemes

theorem containsText_ordinal (formats : OrdinalFormats) :
    containsText formats.dateFormat.toList ['d', 'S'] = true := by
  obtain ⟨before, after, split, _⟩ := formats.ordinal
  rw [containsText_iff, split]
  exact ⟨before, after, by rw [List.append_assoc]; rfl⟩

theorem commonFormats_plain : ∀ pattern ∈ commonFormats.map String.toList, 'S' ∉ pattern := by
  decide

theorem exists_day_mem (language : Language) (formats : OrdinalFormats) :
    ∃ width, Lexeme.field 'd' width ∈ lexemesOf language formats.dateFormat.toList := by
  obtain ⟨before, after, split, unquoted⟩ := formats.ordinal
  have notCommon : isCommon formats.dateFormat.toList = false := by
    cases common : isCommon formats.dateFormat.toList with
    | false => rfl
    | true =>
        have plain := commonFormats_plain _ (List.contains_iff_mem.mp common)
        rw [split] at plain
        exact absurd (List.mem_append_right _ (List.mem_cons_of_mem _ List.mem_cons_self)) plain
  rw [lexemesOf, notCommon, if_neg Bool.false_ne_true, split]
  exact exists_field_mem_lex (by decide) unquoted _

theorem formatDate_eq (language : Language) (formats : OrdinalFormats)
    (showDateWithTime : Bool) (date : CivilTime) :
    formatDate language formats.dateFormat formats.timeFormat false showDateWithTime date =
      if (lexemesOf language formats.dateFormat.toList).all Lexeme.implemented ∧
          (plainLexemes language formats showDateWithTime).all Lexeme.implemented then
        some (replaceFirst ((plainLexemes language formats showDateWithTime).flatMap
          (Lexeme.text language date)) (dayDigits date.day) (addOrdinalSuffix date.day))
      else none := by
  rw [formatDate, if_neg Bool.false_ne_true, if_pos (containsText_ordinal formats)]
  cases implemented : (lexemesOf language formats.dateFormat.toList).all Lexeme.implemented with
  | false =>
      rw [format, implemented, if_neg Bool.false_ne_true, if_neg fun both =>
        Bool.false_ne_true both.1]
  | true =>
      obtain ⟨width, member⟩ := exists_day_mem language formats
      have shown : containsText ((lexemesOf language formats.dateFormat.toList).flatMap
          (Lexeme.text language date)) (dayDigits date.day) = true :=
        containsText_iff.mpr ((dayDigits_suffix language date rfl).isInfix.trans
          (infix_flatMap language date member))
      rw [format, implemented, if_pos rfl]
      dsimp only
      rw [if_pos shown, format]
      change Option.map _ (if (plainLexemes language formats showDateWithTime).all
        Lexeme.implemented = true then _ else none) = _
      cases plain : (plainLexemes language formats showDateWithTime).all Lexeme.implemented with
      | false =>
          rw [if_neg Bool.false_ne_true, if_neg fun both => Bool.false_ne_true both.2]
          rfl
      | true =>
          rw [if_pos rfl, if_pos ⟨rfl, rfl⟩]
          rfl

/-- The suffix is put behind the day exactly when the digits of the day end nowhere before,
there is no second day, and the formats ask for nothing that is not implemented. -/
theorem formatDate_ordinal_iff (language : Language) (formats : OrdinalFormats)
    (showDateWithTime : Bool) (date : CivilTime) :
    PrintsOrdinal language formats showDateWithTime date ↔
      Placed language formats showDateWithTime date := by
  rw [PrintsOrdinal, formatDate_eq]
  constructor
  · intro prints
    split at prints
    · rename_i both
      exact ⟨both.1, both.2,
        (replaceFirst_lexemes_iff language date _).mp (Option.some.inj prints)⟩
    · cases prints
  · intro placed
    rw [if_pos ⟨placed.implemented, placed.implemented_plain⟩,
      (replaceFirst_lexemes_iff language date _).mpr placed.first]

def fifthOfMay : CivilTime :=
  ofReading (IsoDateTime.dayNumber 2005 5 5 * 86400000000)

def isoOrdinal : OrdinalFormats where
  dateFormat := "yyyy-MM-ddS"
  timeFormat := "HH:mm"
  ordinal := ⟨"yyyy-MM-d".toList, [], by decide, by decide⟩

/-- It is printed as `2005th-05-05`. -/
theorem suffix_in_year :
    ¬ ∀ language formats showDateWithTime date,
      PrintsOrdinal language formats showDateWithTime date := by
  intro always
  have prints := always markedLanguage isoOrdinal false fifthOfMay
  unfold PrintsOrdinal at prints
  revert prints
  decide +kernel

end FiksOpp.OrdinalDates
