/-
Patterns that print dates: a run of one letter is a field, text between apostrophes is
printed as it is, and so is every character that is no letter of a field.

A pattern that is the name of a common format stands for the language's own pattern of it.
Three letters, which ask for the zone, are not implemented.  Digits are ASCII digits.
-/

import FiksOpp.Foundations.CivilCalendar

namespace FiksOpp.DatePatterns

open CivilCalendar
open IsoDateTime

def weekday (date : CivilTime) : ℕ :=
  ((dayNumber date.year date.month date.day + 5) % 7).toNat + 1

structure Language where
  shortMonth : ℕ → List Char
  longMonth : ℕ → List Char
  narrowMonth : ℕ → List Char
  shortWeekday : ℕ → List Char
  longWeekday : ℕ → List Char
  /-- Halves of the day, hours counted in other ways, quarters, eras and names that stand
  alone. -/
  otherField : Char → ℕ → CivilTime → List Char
  commonPattern : List Char → List Char

def quote : Char :=
  Char.ofNat 39

def isField (char : Char) : Bool :=
  "GyMkSEahKHcLQdDmsvzZ".toList.contains char

inductive Lexeme where
  /-- Text between apostrophes; two apostrophes in a row are one inside. -/
  | quoted (inside : List Char)
  | field (letter : Char) (width : ℕ)
  | literal (char : Char)
  deriving DecidableEq, Repr

/-- The text up to the apostrophe that closes it, and what is left.  Two in a row do not
close, unless nothing later does. -/
def closeQuote : List Char → Option (List Char × List Char)
  | [] => none
  | [only] => if only = quote then some ([], []) else none
  | first :: second :: rest =>
      if first = quote then
        if second = quote then
          match closeQuote rest with
          | some (inside, left) => some (quote :: inside, left)
          | none => some ([], second :: rest)
        else some ([], second :: rest)
      else (closeQuote (second :: rest)).map fun found => (first :: found.1, found.2)

/-- What follows an apostrophe that is never closed is dropped. -/
def lexFrom : ℕ → List Char → List Lexeme
  | 0, _ => []
  | _ + 1, [] => []
  | fuel + 1, first :: rest =>
      if first = quote then
        match closeQuote rest with
        | some (inside, left) => .quoted inside :: lexFrom fuel left
        | none => []
      else if isField first then
        .field first ((rest.takeWhile (· == first)).length + 1) ::
          lexFrom fuel (rest.dropWhile (· == first))
      else .literal first :: lexFrom fuel rest

def lex (pattern : List Char) : List Lexeme :=
  lexFrom pattern.length pattern

def commonFormats : List String :=
  ["d", "E", "EEEE", "LLL", "LLLL", "M", "Md", "MEd", "MMM", "MMMd", "MMMEd", "MMMM", "MMMMd",
    "MMMMEEEEd", "QQQ", "QQQQ", "y", "yM", "yMd", "yMEd", "yMMM", "yMMMd", "yMMMEd", "yMMMM",
    "yMMMMd", "yMMMMEEEEd", "yQQQ", "yQQQQ", "H", "Hm", "Hms", "j", "jm", "jms", "jmv", "jmz",
    "jz", "m", "ms", "s"]

def isCommon (pattern : List Char) : Bool :=
  (commonFormats.map String.toList).contains pattern

/-- Years are printed without their era. -/
def fieldText (language : Language) (date : CivilTime) (letter : Char) (width : ℕ) :
    List Char :=
  if letter = 'y' then
    paddedNumber width (if width = 2 then date.year.natAbs % 100 else date.year.natAbs)
  else if letter = 'M' then
    if width = 3 then language.shortMonth date.month
    else if width = 4 then language.longMonth date.month
    else if width = 5 then language.narrowMonth date.month
    else paddedNumber width date.month
  else if letter = 'd' then paddedNumber width date.day
  else if letter = 'E' ∧ width ≤ 3 then language.shortWeekday (weekday date)
  else if letter = 'E' ∧ width = 4 then language.longWeekday (weekday date)
  else if letter = 'H' then paddedNumber width date.hour
  else if letter = 'm' then paddedNumber width date.minute
  else if letter = 's' then paddedNumber width date.second
  else if letter = 'S' then
    paddedNumber 3 (date.microsecond / 1000) ++ List.replicate (width - 3) '0'
  else language.otherField letter width date

namespace Lexeme

def implemented : Lexeme → Bool
  | .quoted _ => true
  | .field letter _ => !(['v', 'z', 'Z'].contains letter)
  | .literal _ => true

/-- Two apostrophes with nothing between them are one. -/
def text (language : Language) (date : CivilTime) : Lexeme → List Char
  | .quoted inside => if inside = [] then [quote] else inside
  | .field letter width => fieldText language date letter width
  | .literal char => [char]

end Lexeme

def lexemesOf (language : Language) (pattern : List Char) : List Lexeme :=
  lex (if isCommon pattern then language.commonPattern pattern else pattern)

/-- Nothing where a field is not implemented. -/
def format (language : Language) (pattern : List Char) (date : CivilTime) :
    Option (List Char) :=
  if (lexemesOf language pattern).all Lexeme.implemented then
    some ((lexemesOf language pattern).flatMap (Lexeme.text language date))
  else none

/-- A closing apostrophe is left out; what is inside stands for itself, but for its
apostrophes, which stand for two. -/
theorem closeQuote_spec {text inside left : List Char}
    (found : closeQuote text = some (inside, left)) :
    left.length < text.length ∧
      text.count quote = 2 * inside.count quote + 1 + left.count quote := by
  induction text using closeQuote.induct generalizing inside left with
  | case1 => cases found
  | case2 =>
      cases found
      exact ⟨Nat.zero_lt_one, by decide⟩
  | case3 only other =>
      unfold closeQuote at found
      rw [if_neg other] at found
      cases found
  | case4 rest closed remaining later ih =>
      unfold closeQuote at found
      rw [if_pos rfl, if_pos rfl, later] at found
      cases found
      obtain ⟨shorter, counted⟩ := ih later
      simp only [List.length_cons, List.count_cons_self]
      omega
  | case5 rest later ih =>
      unfold closeQuote at found
      rw [if_pos rfl, if_pos rfl, later] at found
      cases found
      simp only [List.length_cons, List.count_cons_self, List.count_nil]
      omega
  | case6 second rest other =>
      unfold closeQuote at found
      rw [if_pos rfl, if_neg other] at found
      cases found
      simp only [List.length_cons, List.count_cons_self, List.count_nil]
      omega
  | case7 first second rest other ih =>
      unfold closeQuote at found
      rw [if_neg other] at found
      obtain ⟨pair, later, same⟩ := Option.map_eq_some_iff.mp found
      cases same
      obtain ⟨shorter, counted⟩ := ih later
      rw [List.count_cons_of_ne other, List.count_cons_of_ne other]
      exact ⟨Nat.lt_succ_of_lt shorter, counted⟩

theorem length_dropWhile_lt (letter : Char) (rest : List Char) :
    (rest.dropWhile (· == letter)).length < (letter :: rest).length :=
  Nat.lt_succ_of_le (List.dropWhile_sublist _).length_le

theorem lexFrom_congr {fuel other : ℕ} {pattern : List Char} (enough : pattern.length ≤ fuel)
    (alsoEnough : pattern.length ≤ other) : lexFrom fuel pattern = lexFrom other pattern := by
  induction fuel generalizing other pattern with
  | zero =>
      rw [List.length_eq_zero_iff.mp (Nat.le_zero.mp enough)]
      cases other with
      | zero => rfl
      | succ _ => rfl
  | succ fuel ih =>
      cases pattern with
      | nil =>
          cases other with
          | zero => rfl
          | succ _ => rfl
      | cons first rest =>
          cases other with
          | zero => exact absurd alsoEnough (Nat.not_succ_le_zero _)
          | succ other =>
              have shorter : rest.length ≤ fuel := Nat.le_of_succ_le_succ enough
              have shorter' : rest.length ≤ other := Nat.le_of_succ_le_succ alsoEnough
              unfold lexFrom
              by_cases opens : first = quote
              · rw [if_pos opens, if_pos opens]
                cases closes : closeQuote rest with
                | none => rfl
                | some found =>
                    have left := (closeQuote_spec closes).1
                    dsimp only
                    rw [@ih other found.2 (by omega) (by omega)]
              · rw [if_neg opens, if_neg opens]
                have dropped := length_dropWhile_lt first rest
                rw [List.length_cons] at dropped
                rw [@ih other rest shorter shorter',
                  @ih other (rest.dropWhile (· == first)) (by omega) (by omega)]

theorem lex_cons (first : Char) (rest : List Char) :
    lex (first :: rest) =
      if first = quote then
        match closeQuote rest with
        | some (inside, left) => .quoted inside :: lex left
        | none => []
      else if isField first then
        .field first ((rest.takeWhile (· == first)).length + 1) ::
          lex (rest.dropWhile (· == first))
      else .literal first :: lex rest := by
  have dropped := length_dropWhile_lt first rest
  rw [List.length_cons] at dropped
  rw [lex, List.length_cons, lexFrom]
  by_cases opens : first = quote
  · rw [if_pos opens, if_pos opens]
    cases closes : closeQuote rest with
    | none => rfl
    | some found =>
        have shorter := (closeQuote_spec closes).1
        dsimp only
        rw [lex, @lexFrom_congr rest.length found.2.length found.2 (by omega) (Nat.le_refl _)]
  · rw [if_neg opens, if_neg opens]
    rw [lex, lex, @lexFrom_congr rest.length (rest.dropWhile (· == first)).length
      (rest.dropWhile (· == first)) (by omega) (Nat.le_refl _)]

theorem quote_not_field : isField quote = false := by
  decide

theorem ne_quote_of_isField {char : Char} (letter : isField char = true) : char ≠ quote := by
  rintro rfl
  rw [quote_not_field] at letter
  cases letter

theorem lex_unmatched {rest : List Char} (unmatched : closeQuote rest = none) :
    lex (quote :: rest) = [] := by
  rw [lex_cons, if_pos rfl, unmatched]

theorem lex_quoted {rest inside left : List Char}
    (closes : closeQuote rest = some (inside, left)) :
    lex (quote :: rest) = .quoted inside :: lex left := by
  rw [lex_cons, if_pos rfl, closes]

theorem lex_field {letter : Char} (field : isField letter = true) (rest : List Char) :
    lex (letter :: rest) =
      .field letter ((rest.takeWhile (· == letter)).length + 1) ::
        lex (rest.dropWhile (· == letter)) := by
  rw [lex_cons, if_neg (ne_quote_of_isField field), if_pos field]

theorem lex_literal {char : Char} (notQuote : char ≠ quote) (notField : isField char = false)
    (rest : List Char) : lex (char :: rest) = .literal char :: lex rest := by
  rw [lex_cons, if_neg notQuote, notField, if_neg Bool.false_ne_true]

/-- Induction along the lexemes of a pattern. -/
theorem pattern_induction {motive : List Char → Prop} (nil : motive [])
    (unmatched : ∀ rest, closeQuote rest = none → motive (quote :: rest))
    (quoted : ∀ rest inside left, closeQuote rest = some (inside, left) → motive left →
      motive (quote :: rest))
    (field : ∀ letter rest, isField letter = true →
      motive (rest.dropWhile (· == letter)) → motive (letter :: rest))
    (literal : ∀ char rest, char ≠ quote → isField char = false → motive rest →
      motive (char :: rest)) (pattern : List Char) : motive pattern := by
  induction length : pattern.length using Nat.strong_induction_on generalizing pattern with
  | _ size ih =>
      cases pattern with
      | nil => exact nil
      | cons first rest =>
          by_cases opens : first = quote
          · rw [opens]
            cases closes : closeQuote rest with
            | none => exact unmatched rest closes
            | some found =>
                have shorter := (closeQuote_spec closes).1
                rw [List.length_cons] at length
                exact quoted rest found.1 found.2 closes (ih _ (by omega) found.2 rfl)
          · cases letter : isField first with
            | true =>
                have shorter := length_dropWhile_lt first rest
                exact field first rest letter (ih _ (by omega) _ rfl)
            | false =>
                rw [List.length_cons] at length
                exact literal first rest opens letter (ih _ (by omega) rest rfl)

/-! ### Letters outside of quoted text -/

theorem closeQuote_append {text : List Char} (odd : text.count quote % 2 = 1) {letter : Char}
    (other : letter ≠ quote) (after : List Char) :
    ∃ inside left, closeQuote (text ++ letter :: after) = some (inside, left ++ letter :: after) ∧
      left.length < text.length ∧ left.count quote % 2 = 0 := by
  induction text using closeQuote.induct with
  | case1 =>
      rw [List.count_nil] at odd
      cases odd
  | case2 =>
      refine ⟨[], [], ?_, Nat.zero_lt_one, rfl⟩
      rw [List.cons_append, List.nil_append, closeQuote, if_pos rfl, if_neg other]
  | case3 only otherOnly =>
      rw [List.count_cons_of_ne otherOnly, List.count_nil] at odd
      cases odd
  | case4 rest _ _ _ ih =>
      rw [List.count_cons_self, List.count_cons_self] at odd
      obtain ⟨inside, left, closes, shorter, even⟩ := ih (by omega)
      refine ⟨quote :: inside, left, ?_, ?_, even⟩
      · rw [List.cons_append, List.cons_append, closeQuote, if_pos rfl, if_pos rfl, closes]
      · simp only [List.length_cons]
        omega
  | case5 rest _ ih =>
      rw [List.count_cons_self, List.count_cons_self] at odd
      obtain ⟨inside, left, closes, shorter, even⟩ := ih (by omega)
      refine ⟨quote :: inside, left, ?_, ?_, even⟩
      · rw [List.cons_append, List.cons_append, closeQuote, if_pos rfl, if_pos rfl, closes]
      · simp only [List.length_cons]
        omega
  | case6 second rest otherSecond =>
      refine ⟨[], second :: rest, ?_, Nat.lt_succ_self _, ?_⟩
      · rw [List.cons_append, List.cons_append, closeQuote, if_pos rfl, if_neg otherSecond]
      · rw [List.count_cons_self] at odd
        omega
  | case7 first second rest otherFirst ih =>
      rw [List.count_cons_of_ne otherFirst] at odd
      obtain ⟨inside, left, closes, shorter, even⟩ := ih odd
      refine ⟨first :: inside, left, ?_, Nat.lt_succ_of_lt shorter, even⟩
      rw [List.cons_append, List.cons_append, closeQuote, if_neg otherFirst,
        ← List.cons_append, closes, Option.map_some]

theorem count_quote_dropWhile {letter : Char} (other : letter ≠ quote) (rest : List Char) :
    (rest.dropWhile (· == letter)).count quote = rest.count quote := by
  induction rest with
  | nil => rfl
  | cons first rest ih =>
      rw [List.dropWhile_cons]
      split
      · rename_i same
        rw [ih, beq_iff_eq.mp same, List.count_cons_of_ne other]
      · rfl

theorem dropWhile_append_of_ne {letter first : Char} (other : letter ≠ first)
    (rest after : List Char) :
    (rest ++ letter :: after).dropWhile (· == first) =
      rest.dropWhile (· == first) ++ letter :: after := by
  induction rest with
  | nil => rw [List.nil_append, List.dropWhile_cons, if_neg (by simpa using other)]; rfl
  | cons next rest ih =>
      rw [List.cons_append, List.dropWhile_cons, List.dropWhile_cons]
      split
      · exact ih
      · rfl

theorem exists_field_mem_lex {letter : Char} (field : isField letter = true)
    {before : List Char} (unquoted : before.count quote % 2 = 0) (after : List Char) :
    ∃ width, Lexeme.field letter width ∈ lex (before ++ letter :: after) := by
  induction size : before.length using Nat.strong_induction_on generalizing before with
  | _ size ih =>
      cases before with
      | nil =>
          rw [List.nil_append, lex_field field]
          exact ⟨_, List.mem_cons_self⟩
      | cons first rest =>
          rw [List.length_cons] at size
          rw [List.cons_append]
          by_cases opens : first = quote
          · rw [opens, List.count_cons_self] at unquoted
            have odd : rest.count quote % 2 = 1 := by omega
            obtain ⟨inside, left, closes, shorter, even⟩ :=
              closeQuote_append odd (ne_quote_of_isField field) after
            obtain ⟨width, member⟩ := ih left.length (by omega) even rfl
            rw [opens, lex_quoted closes]
            exact ⟨width, List.mem_cons_of_mem _ member⟩
          · rw [List.count_cons_of_ne opens] at unquoted
            cases fieldFirst : isField first with
            | true =>
                rw [lex_field fieldFirst]
                by_cases same : letter = first
                · rw [← same]
                  exact ⟨_, List.mem_cons_self⟩
                · have shorter := length_dropWhile_lt first rest
                  rw [List.length_cons] at shorter
                  have even := count_quote_dropWhile opens rest
                  rw [← even] at unquoted
                  obtain ⟨width, member⟩ := ih _ (by omega) unquoted rfl
                  rw [dropWhile_append_of_ne same]
                  exact ⟨width, List.mem_cons_of_mem _ member⟩
            | false =>
                obtain ⟨width, member⟩ := ih rest.length (by omega) unquoted rfl
                rw [lex_literal opens fieldFirst]
                exact ⟨width, List.mem_cons_of_mem _ member⟩

/-- A field that is not the start of a longer one is counted at its end. -/
def fieldRuns : List Char → ℕ
  | [] => 0
  | first :: rest =>
      if isField first ∧ rest.head? ≠ some first then fieldRuns rest + 1 else fieldRuns rest

theorem fieldRuns_field {letter : Char} (field : isField letter = true) (rest : List Char) :
    fieldRuns (letter :: rest) = fieldRuns (rest.dropWhile (· == letter)) + 1 := by
  induction rest with
  | nil =>
      have last : ([] : List Char).head? ≠ some letter := by simp
      rw [fieldRuns, if_pos ⟨field, last⟩]
      rfl
  | cons next rest ih =>
      rw [List.dropWhile_cons]
      by_cases same : next = letter
      · rw [same, fieldRuns, if_neg (by simp), ih, if_pos (beq_self_eq_true letter)]
      · rw [fieldRuns, if_pos ⟨field, by simpa using same⟩, if_neg (by simpa using same)]

theorem fieldRuns_literal {char : Char} (notField : isField char = false) (rest : List Char) :
    fieldRuns (char :: rest) = fieldRuns rest := by
  rw [fieldRuns, if_neg (by simp [notField])]

theorem filter_dropWhile_field {letter : Char} (field : isField letter = true)
    (rest : List Char) :
    (rest.dropWhile (· == letter)).filter (fun char => !isField char) =
      rest.filter fun char => !isField char := by
  induction rest with
  | nil => rfl
  | cons first rest ih =>
      rw [List.dropWhile_cons]
      split
      · rename_i same
        rw [ih, beq_iff_eq.mp same, List.filter_cons_of_neg (by simp [field])]
      · rfl

/-- When every field shows so many of some characters, the text shows as many for each
field, and those that stand for themselves. -/
theorem countP_text {language : Language} {date : CivilTime} {marked : Char → Bool} {each : ℕ}
    (fields : ∀ letter width, isField letter = true →
      (fieldText language date letter width).countP marked = each)
    {pattern : List Char} (noQuotes : quote ∉ pattern) :
    ((lex pattern).flatMap (Lexeme.text language date)).countP marked =
      each * fieldRuns pattern +
        (pattern.filter fun char => !isField char).countP marked := by
  induction pattern using pattern_induction with
  | nil => rfl
  | unmatched rest _ => exact absurd List.mem_cons_self noQuotes
  | quoted rest _ _ _ _ => exact absurd List.mem_cons_self noQuotes
  | field letter rest field ih =>
      have later := ih fun member =>
        noQuotes (List.mem_cons_of_mem _ ((List.dropWhile_sublist _).subset member))
      rw [lex_field field, List.flatMap_cons, List.countP_append, later,
        fieldRuns_field field, filter_dropWhile_field field,
        List.filter_cons_of_neg (by simp [field])]
      have here := fields letter ((rest.takeWhile (· == letter)).length + 1) field
      rw [Lexeme.text, here, Nat.mul_succ]
      omega
  | literal char rest notQuote notField ih =>
      have later := ih fun member => noQuotes (List.mem_cons_of_mem _ member)
      rw [lex_literal notQuote notField, List.flatMap_cons, List.countP_append, later,
        fieldRuns_literal notField, List.filter_cons_of_pos (by simp [notField]),
        List.countP_cons, Lexeme.text, List.countP_singleton]
      omega

theorem count_quote_text {language : Language} {date : CivilTime}
    (fields : ∀ letter width, isField letter = true →
      quote ∉ fieldText language date letter width) (pattern : List Char) :
    2 * ((lex pattern).flatMap (Lexeme.text language date)).count quote ≤
      pattern.count quote := by
  induction pattern using pattern_induction with
  | nil => exact Nat.le_refl _
  | unmatched rest unmatched =>
      rw [lex_unmatched unmatched]
      exact Nat.zero_le _
  | quoted rest inside left closes ih =>
      have counted := (closeQuote_spec closes).2
      rw [lex_quoted closes, List.flatMap_cons, List.count_append, List.count_cons_self,
        Lexeme.text]
      split
      · rename_i empty
        rw [empty, List.count_nil] at counted
        rw [List.count_singleton_self]
        omega
      · omega
  | field letter rest field ih =>
      have absent := List.count_eq_zero_of_not_mem
        (fields letter ((rest.takeWhile (· == letter)).length + 1) field)
      have other := ne_quote_of_isField field
      have same := count_quote_dropWhile other rest
      rw [lex_field field, List.flatMap_cons, List.count_append, Lexeme.text, absent,
        List.count_cons_of_ne other]
      omega
  | literal char rest notQuote notField ih =>
      rw [lex_literal notQuote notField, List.flatMap_cons, List.count_append, Lexeme.text,
        List.count_cons_of_ne notQuote, List.count_cons_of_ne notQuote, List.count_nil]
      omega

theorem takeWhile_run (letter : Char) (count : ℕ) {rest : List Char}
    (apart : rest.head? ≠ some letter) :
    (List.replicate count letter ++ rest).takeWhile (· == letter) =
        List.replicate count letter ∧
      (List.replicate count letter ++ rest).dropWhile (· == letter) = rest := by
  induction count with
  | zero =>
      cases rest with
      | nil => exact ⟨rfl, rfl⟩
      | cons first rest =>
          have other : ¬ (first == letter) = true := by simpa using apart
          rw [List.replicate_zero, List.nil_append, List.takeWhile_cons, List.dropWhile_cons,
            if_neg other, if_neg other]
          exact ⟨rfl, rfl⟩
  | succ count ih =>
      rw [List.replicate_succ, List.cons_append, List.takeWhile_cons, List.dropWhile_cons,
        if_pos (beq_self_eq_true letter), if_pos (beq_self_eq_true letter), ih.1, ih.2]
      exact ⟨rfl, rfl⟩

theorem lex_run {letter : Char} (field : isField letter = true) {width : ℕ}
    (positive : 0 < width) {rest : List Char} (apart : rest.head? ≠ some letter) :
    lex (List.replicate width letter ++ rest) = .field letter width :: lex rest := by
  obtain ⟨count, rfl⟩ := Nat.exists_eq_succ_of_ne_zero (Nat.pos_iff_ne_zero.mp positive)
  obtain ⟨taken, dropped⟩ := takeWhile_run letter count apart
  rw [List.replicate_succ, List.cons_append, lex_field field, taken, dropped,
    List.length_replicate]

theorem fieldRuns_run {letter : Char} (field : isField letter = true) {width : ℕ}
    (positive : 0 < width) (rest : List Char) :
    fieldRuns (List.replicate width letter ++ rest) =
      if rest.head? = some letter then fieldRuns rest else fieldRuns rest + 1 := by
  obtain ⟨count, rfl⟩ := Nat.exists_eq_succ_of_ne_zero (Nat.pos_iff_ne_zero.mp positive)
  clear positive
  induction count with
  | zero =>
      change fieldRuns (letter :: rest) = _
      rw [fieldRuns]
      by_cases same : rest.head? = some letter
      · rw [if_pos same, if_neg (fun found => found.2 same)]
      · rw [if_neg same, if_pos ⟨field, same⟩]
  | succ count ih =>
      rw [List.replicate_succ, List.cons_append, fieldRuns, ih,
        if_neg (fun found => found.2 (by rw [List.replicate_succ]; rfl))]

end FiksOpp.DatePatterns
