/-
The formats that `getDateFormat` translates faithfully, exactly.

What is not kept, or not apart, is found out at one moment in one language, where every
field shows one mark: the marks of the text are counted against those of the pattern.
-/

import FiksOpp.GetDateFormat

namespace FiksOpp.GetDateFormat

open CivilCalendar
open DatePatterns

def markedLanguage : Language where
  shortMonth _ := ['1']
  longMonth _ := ['1']
  narrowMonth _ := ['1']
  shortWeekday _ := ['1']
  longWeekday _ := ['1']
  otherField _ _ _ := ['1']
  commonPattern _ := ['-']

def firstMoment : ZonedTime where
  shown :=
    { year := 1, month := 1, day := 1, hour := 1, minute := 1, second := 1, microsecond := 1000
      month_pos := by decide, month_le := by decide, day_pos := by decide, day_le := by decide
      hour_lt := by decide, minute_lt := by decide, second_lt := by decide
      microsecond_lt := by decide }
  zoneName := "GMT".toList
  offset := 0

theorem paddedNumber_one (width : ℕ) :
    paddedNumber width 1 = List.replicate (width - 1) '0' ++ '1' :: List.replicate 0 '0' :=
  rfl

theorem markedField (letter : Char) (width : ℕ) :
    ∃ before after, fieldText markedLanguage firstMoment.shown letter width =
      List.replicate before '0' ++ '1' :: List.replicate after '0' := by
  have name : ['1'] = List.replicate 0 '0' ++ '1' :: List.replicate 0 '0' := rfl
  have number : ∃ before after, paddedNumber width 1 =
      List.replicate before '0' ++ '1' :: List.replicate after '0' :=
    ⟨_, _, paddedNumber_one width⟩
  unfold fieldText
  split_ifs
  · exact number
  · exact number
  · exact ⟨_, _, name⟩
  · exact ⟨_, _, name⟩
  · exact ⟨_, _, name⟩
  · exact number
  · exact number
  · exact ⟨_, _, name⟩
  · exact ⟨_, _, name⟩
  · exact number
  · exact number
  · exact number
  · exact ⟨2, width - 3, rfl⟩
  · exact ⟨_, _, name⟩

theorem count_markedField (letter : Char) (width : ℕ) :
    (fieldText markedLanguage firstMoment.shown letter width).countP (· == '1') = 1 := by
  obtain ⟨before, after, shown⟩ := markedField letter width
  rw [shown, List.countP_append, List.countP_cons, List.countP_replicate, List.countP_replicate]
  rfl

theorem count_markedField_other {char : Char} (notZero : char ≠ '0') (notOne : char ≠ '1')
    (letter : Char) (width : ℕ) :
    (fieldText markedLanguage firstMoment.shown letter width).countP (· == char) = 0 := by
  obtain ⟨before, after, shown⟩ := markedField letter width
  have zero : ('0' == char) = false := by simpa using notZero.symm
  have one : ('1' == char) = false := by simpa using notOne.symm
  rw [shown, List.countP_append, List.countP_cons, List.countP_replicate, List.countP_replicate,
    zero, one]
  rfl

/-- Where one of two texts has no more of some characters piece by piece, and no fewer in
all, it has as many in every piece. -/
theorem countP_flatMap_le {α : Type} {first second : α → List Char} {marked : Char → Bool}
    {pieces : List α}
    (fewer : ∀ piece ∈ pieces, (first piece).countP marked ≤ (second piece).countP marked) :
    (pieces.flatMap first).countP marked ≤ (pieces.flatMap second).countP marked ∧
      ((pieces.flatMap second).countP marked ≤ (pieces.flatMap first).countP marked →
        ∀ piece ∈ pieces, (second piece).countP marked ≤ (first piece).countP marked) := by
  induction pieces with
  | nil => exact ⟨Nat.le_refl _, fun _ piece member => absurd member List.not_mem_nil⟩
  | cons piece pieces ih =>
      obtain ⟨below, each⟩ := ih fun other member => fewer other (List.mem_cons_of_mem _ member)
      have here := fewer piece List.mem_cons_self
      rw [List.flatMap_cons, List.flatMap_cons, List.countP_append, List.countP_append]
      refine ⟨by omega, fun inAll other member => ?_⟩
      rcases List.mem_cons.mp member with rfl | later
      · omega
      · exact each (by omega) other later

/-! ### What is not translated -/

section Untranslated

variable {phpFormat : List PhpPiece}

theorem token_dash : ∀ kind ∈ phpTokens,
    '-' ∈ kind.text markedLanguage firstMoment → 'U' ∈ replaceToken kind.letter := by
  decide +kernel

theorem dash_or_U {piece : PhpPiece} (dash : '-' ∈ piece.text markedLanguage firstMoment) :
    '-' ∈ piece.pattern ∨ 'U' ∈ piece.pattern := by
  cases piece with
  | token kind => exact Or.inr (token_dash kind (mem_phpTokens kind) dash)
  | escaped char =>
      rw [PhpPiece.text, List.mem_singleton] at dash
      rw [← dash]
      decide
  | literal char plain =>
      rw [PhpPiece.text, List.mem_singleton] at dash
      rw [PhpPiece.pattern, dash]
      exact Or.inl (List.mem_singleton.mpr rfl)

theorem pattern_of_prints (prints : Prints markedLanguage firstMoment phpFormat) :
    isCommon (phpFormat.flatMap PhpPiece.pattern) = false ∧
      (lex (phpFormat.flatMap PhpPiece.pattern)).all Lexeme.implemented = true ∧
      (lex (phpFormat.flatMap PhpPiece.pattern)).flatMap
          (Lexeme.text markedLanguage firstMoment.shown) =
        phpFormat.flatMap (PhpPiece.text markedLanguage firstMoment) := by
  unfold Prints format at prints
  rw [getDateFormat_source] at prints
  split at prints
  · rename_i implemented
    have same := Option.some.inj prints
    unfold lexemesOf at same implemented
    cases common : isCommon (phpFormat.flatMap PhpPiece.pattern) with
    | false =>
        rw [common, if_neg Bool.false_ne_true] at same implemented
        exact ⟨rfl, implemented, same⟩
    | true =>
        rw [common, if_pos rfl] at same
        have dash : '-' ∈ phpFormat.flatMap (PhpPiece.text markedLanguage firstMoment) := by
          rw [← same]
          change '-' ∈ (lex ['-']).flatMap (Lexeme.text markedLanguage firstMoment.shown)
          decide
        obtain ⟨piece, member, inPiece⟩ := List.mem_flatMap.mp dash
        have letters := commonFormats_letters _ (List.contains_iff_mem.mp common)
        rcases dash_or_U inPiece with inPattern | inPattern
        · rcases letters _ (List.mem_flatMap.mpr ⟨piece, member, inPattern⟩) with field | isJ
          · cases field
          · cases isJ
        · rcases letters _ (List.mem_flatMap.mpr ⟨piece, member, inPattern⟩) with field | isJ
          · cases field
          · cases isJ
  · cases prints

theorem token_quote : ∀ kind ∈ phpTokens, quote ∉ replaceToken kind.letter := by
  decide

theorem count_quote_pattern (piece : PhpPiece) :
    piece.pattern.count quote ≤ (piece.text markedLanguage firstMoment).count quote := by
  cases piece with
  | token kind =>
      rw [PhpPiece.pattern,
        List.count_eq_zero_of_not_mem (token_quote kind (mem_phpTokens kind))]
      exact Nat.zero_le _
  | escaped char =>
      rw [PhpPiece.pattern, PhpPiece.text]
      split
      · rw [List.count_cons_of_ne (by decide)]
      · cases known : tokenClass.contains char with
        | true =>
            have spec := replaceToken_spec char (List.contains_iff_mem.mp known)
            rw [List.count_eq_zero_of_not_mem spec.2.1]
            exact Nat.zero_le _
        | false => rw [replaceToken_other known]
  | literal char plain => exact Nat.le_refl _

theorem no_quote (prints : Prints markedLanguage firstMoment phpFormat) :
    quote ∉ phpFormat.flatMap PhpPiece.pattern := by
  obtain ⟨_, _, same⟩ := pattern_of_prints prints
  have halved := count_quote_text
    (fun letter width _ => List.count_eq_zero.mp
      (count_markedField_other (by decide) (by decide) letter width))
    (phpFormat.flatMap PhpPiece.pattern)
  rw [same] at halved
  have below := (countP_flatMap_le (fun piece (_ : piece ∈ phpFormat) =>
    count_quote_pattern piece)).1
  intro member
  have positive := List.count_pos_iff.mpr member
  unfold List.count at halved positive
  omega

theorem no_zone (prints : Prints markedLanguage firstMoment phpFormat) {letter : Char}
    (zone : letter = 'z' ∨ letter = 'Z') : letter ∉ phpFormat.flatMap PhpPiece.pattern := by
  obtain ⟨_, implemented, _⟩ := pattern_of_prints prints
  have noQuote := no_quote prints
  have field : isField letter = true := by
    rcases zone with rfl | rfl <;> decide
  intro member
  obtain ⟨before, after, split⟩ := List.append_of_mem member
  rw [split] at noQuote implemented
  have unquoted : before.count quote % 2 = 0 := by
    rw [List.count_eq_zero_of_not_mem fun found => noQuote (List.mem_append_left _ found)]
  obtain ⟨width, found⟩ := exists_field_mem_lex field unquoted after
  have here := List.all_eq_true.mp implemented _ found
  rcases zone with rfl | rfl <;> cases here

theorem count_text (prints : Prints markedLanguage firstMoment phpFormat) {char : Char}
    (notZero : char ≠ '0') (notOne : char ≠ '1') :
    (phpFormat.flatMap (PhpPiece.text markedLanguage firstMoment)).countP (· == char) =
      ((phpFormat.flatMap PhpPiece.pattern).filter fun other => !isField other).countP
        (· == char) := by
  obtain ⟨_, _, same⟩ := pattern_of_prints prints
  rw [← same, countP_text (fun letter width _ =>
    count_markedField_other notZero notOne letter width) (no_quote prints), Nat.zero_mul,
    Nat.zero_add]

theorem field_not_mem_text (prints : Prints markedLanguage firstMoment phpFormat) {char : Char}
    (field : isField char = true) :
    char ∉ phpFormat.flatMap (PhpPiece.text markedLanguage firstMoment) := by
  have notZero : char ≠ '0' := by
    rintro rfl
    cases field
  have notOne : char ≠ '1' := by
    rintro rfl
    cases field
  rw [← List.count_eq_zero, List.count, count_text prints notZero notOne,
    List.countP_eq_zero]
  intro other member same
  rw [← beq_iff_eq.mp same] at field
  have notField := (List.mem_filter.mp member).2
  rw [field] at notField
  cases notField

theorem mem_replaceToken : ∀ token ∈ tokenClass, ∀ char ∈ tokenClass, isField char = false →
    char ∈ replaceToken token → 'Z' ∈ replaceToken token := by
  have table : (tokenClass.all fun token => tokenClass.all fun char =>
      decide (isField char = false → char ∈ replaceToken token →
        'Z' ∈ replaceToken token)) = true := by
    decide
  intro token member
  exact List.all_iff_forall_prop.mp (List.all_eq_true.mp table token member)

theorem tokenClass_plain : ∀ char ∈ tokenClass, char ≠ '\\' ∧ char ≠ '0' ∧ char ≠ '1' ∧
    isLineBreak char = false ∧ isPhpLetter char = true :=
  List.all_iff_forall_prop.mp (by decide)

theorem zone_of_mem_replaceToken {token char : Char} (known : char ∈ tokenClass)
    (notField : isField char = false) (member : char ∈ replaceToken token) :
    'Z' ∈ replaceToken token := by
  cases knownToken : tokenClass.contains token with
  | true =>
      exact mem_replaceToken token (List.contains_iff_mem.mp knownToken) char known notField member
  | false =>
      rw [replaceToken_other knownToken, List.mem_singleton] at member
      rw [← member, List.contains_iff_mem.mpr known] at knownToken
      cases knownToken

theorem zone_of_mem_pattern {piece : PhpPiece} {char : Char} (known : char ∈ tokenClass)
    (notField : isField char = false) (member : char ∈ piece.pattern) : 'Z' ∈ piece.pattern := by
  obtain ⟨notBackslash, _, _, sameLine, letter⟩ := tokenClass_plain char known
  cases piece with
  | token kind => exact zone_of_mem_replaceToken known notField member
  | escaped token =>
      rw [PhpPiece.pattern] at member ⊢
      cases breaks : isLineBreak token with
      | true =>
          rw [breaks, if_pos rfl] at member
          rcases List.mem_cons.mp member with backslash | here
          · exact absurd backslash notBackslash
          · rw [List.mem_singleton.mp here, breaks] at sameLine
            cases sameLine
      | false =>
          rw [breaks, if_neg Bool.false_ne_true] at member
          rw [if_neg Bool.false_ne_true]
          exact zone_of_mem_replaceToken known notField member
  | literal other plain =>
      rw [PhpPiece.pattern, List.mem_singleton] at member
      rw [member, plain.1] at letter
      cases letter

theorem token_not_mem_text (prints : Prints markedLanguage firstMoment phpFormat) {char : Char}
    (known : char ∈ tokenClass) :
    char ∉ phpFormat.flatMap (PhpPiece.text markedLanguage firstMoment) := by
  obtain ⟨_, notZero, notOne, _⟩ := tokenClass_plain char known
  cases field : isField char with
  | true => exact field_not_mem_text prints field
  | false =>
      rw [← List.count_eq_zero, List.count, count_text prints notZero notOne,
        List.countP_eq_zero]
      intro other member same
      rw [beq_iff_eq.mp same] at member
      obtain ⟨piece, inFormat, inPiece⟩ := List.mem_flatMap.mp (List.mem_filter.mp member).1
      exact no_zone prints (Or.inr rfl)
        (List.mem_flatMap.mpr ⟨piece, inFormat, zone_of_mem_pattern known field inPiece⟩)

theorem count_piece (prints : Prints markedLanguage firstMoment phpFormat) {char : Char}
    (notZero : char ≠ '0') (notOne : char ≠ '1') (notField : isField char = false)
    (fewer : ∀ piece ∈ phpFormat, (piece.text markedLanguage firstMoment).countP (· == char) ≤
      piece.pattern.countP (· == char)) :
    ∀ piece ∈ phpFormat, piece.pattern.countP (· == char) ≤
      (piece.text markedLanguage firstMoment).countP (· == char) := by
  refine (countP_flatMap_le fewer).2 ?_
  rw [count_text prints notZero notOne, List.countP_filter]
  refine Nat.le_of_eq (List.countP_congr fun other _ => ?_)
  refine ⟨fun same => ?_, fun both => (Bool.and_eq_true_iff.mp both).1⟩
  rw [same, beq_iff_eq.mp same, notField]
  rfl

theorem count_text_le {char : Char} (other : tokenClass.contains char = false)
    (noToken : ∀ kind ∈ phpTokens, char ∉ kind.text markedLanguage firstMoment)
    (piece : PhpPiece) :
    (piece.text markedLanguage firstMoment).countP (· == char) ≤
      piece.pattern.countP (· == char) := by
  cases piece with
  | token kind =>
      have absent := List.count_eq_zero_of_not_mem (noToken kind (mem_phpTokens kind))
      rw [List.count] at absent
      rw [PhpPiece.text, absent]
      exact Nat.zero_le _
  | escaped found =>
      rw [PhpPiece.text, List.countP_singleton]
      split
      · rename_i same
        rw [beq_iff_eq.mp same, PhpPiece.pattern, replaceToken_other other]
        refine List.countP_pos_iff.mpr ⟨char, ?_, beq_self_eq_true char⟩
        split
        · exact List.mem_cons_of_mem _ List.mem_cons_self
        · exact List.mem_cons_self
      · exact Nat.zero_le _
  | literal found plain => exact Nat.le_refl _

theorem token_kinds : ∀ kind ∈ phpTokens, kind.field = none → kind = .U ∨
    'z' ∈ replaceToken kind.letter ∨ 'Z' ∈ replaceToken kind.letter ∨
      (kind.text markedLanguage firstMoment).any isField = true := by
  decide +kernel

theorem kept_token (prints : Prints markedLanguage firstMoment phpFormat) {kind : PhpToken}
    (member : .token kind ∈ phpFormat) : kind.field.isSome = true := by
  cases found : kind.field with
  | some _ => rfl
  | none =>
      rcases token_kinds kind (mem_phpTokens kind) found with rfl | zone | zone | letter
      · have absent : ∀ kind ∈ phpTokens, 'U' ∉ kind.text markedLanguage firstMoment := by
          decide +kernel
        have fewer := count_piece prints (by decide) (by decide) (by decide)
          (fun piece _ => count_text_le (by decide) absent piece) _ member
        revert fewer
        decide +kernel
      · exact absurd (List.mem_flatMap.mpr ⟨_, member, zone⟩) (no_zone prints (Or.inl rfl))
      · exact absurd (List.mem_flatMap.mpr ⟨_, member, zone⟩) (no_zone prints (Or.inr rfl))
      · obtain ⟨char, inText, field⟩ := List.any_eq_true.mp letter
        exact absurd (List.mem_flatMap.mpr ⟨_, member, inText⟩) (field_not_mem_text prints field)

theorem kept_escaped (prints : Prints markedLanguage firstMoment phpFormat) {char : Char}
    (member : .escaped char ∈ phpFormat) : (PhpPiece.escaped char).Kept := by
  have inText : char ∈ phpFormat.flatMap (PhpPiece.text markedLanguage firstMoment) :=
    List.mem_flatMap.mpr ⟨_, member, List.mem_cons_self⟩
  refine ⟨?_, ?_, ?_, ?_⟩
  · cases known : tokenClass.contains char with
    | false => rfl
    | true =>
        exact absurd inText (token_not_mem_text prints (List.contains_iff_mem.mp known))
  · cases field : isField char with
    | false => rfl
    | true => exact absurd inText (field_not_mem_text prints field)
  · rintro rfl
    have inPattern : quote ∈ (PhpPiece.escaped quote).pattern := by decide
    exact no_quote prints (List.mem_flatMap.mpr ⟨_, member, inPattern⟩)
  · cases breaks : isLineBreak char with
    | false => rfl
    | true =>
        have absent : ∀ kind ∈ phpTokens, '\\' ∉ kind.text markedLanguage firstMoment := by
          decide +kernel
        have fewer := count_piece prints (by decide) (by decide) (by decide)
          (fun piece _ => count_text_le (by decide) absent piece) _ member
        have notBackslash : ¬ (char == '\\') = true := by
          intro same
          rw [beq_iff_eq.mp same] at breaks
          cases breaks
        rw [PhpPiece.pattern, breaks, if_pos rfl, PhpPiece.text, List.countP_cons,
          List.countP_singleton, if_neg notBackslash] at fewer
        exact absurd fewer (by decide)

theorem kept_of_prints (prints : Prints markedLanguage firstMoment phpFormat) :
    ∀ piece ∈ phpFormat, piece.Kept := by
  intro piece member
  cases piece with
  | token kind => exact kept_token prints member
  | escaped char => exact kept_escaped prints member
  | literal char plain =>
      have inText : char ∈ phpFormat.flatMap (PhpPiece.text markedLanguage firstMoment) :=
        List.mem_flatMap.mpr ⟨_, member, List.mem_cons_self⟩
      constructor
      · cases field : isField char with
        | false => rfl
        | true => exact absurd inText (field_not_mem_text prints field)
      · rintro rfl
        exact no_quote prints (List.mem_flatMap.mpr ⟨_, member, List.mem_cons_self⟩)

theorem token_one : ∀ kind ∈ phpTokens, kind.field.isSome = true →
    (kind.text markedLanguage firstMoment).countP (· == '1') = 1 := by
  decide +kernel

theorem count_one (kept : ∀ piece ∈ phpFormat, piece.Kept) :
    (phpFormat.flatMap (PhpPiece.text markedLanguage firstMoment)).countP (· == '1') =
      phpFormat.countP (fun piece => piece.fieldLetter.isSome) +
        ((phpFormat.flatMap PhpPiece.pattern).filter fun char => !isField char).countP
          (· == '1') := by
  induction phpFormat with
  | nil => rfl
  | cons piece rest ih =>
      have later := ih fun other member => kept other (List.mem_cons_of_mem _ member)
      have here := kept piece List.mem_cons_self
      rw [List.flatMap_cons, List.flatMap_cons, List.countP_append, List.filter_append,
        List.countP_append, List.countP_cons, later]
      rcases PhpPiece.kept_cases here with
        ⟨kind, letter, width, isToken, found, isLetter, _, run⟩ |
        ⟨char, noLetter, _, self, prints, notField, _⟩
      · have one := token_one kind (mem_phpTokens kind) (by rw [found]; rfl)
        have field := (PhpToken.field_spec found).1
        rw [run, isLetter, isToken, PhpPiece.text, one,
          List.filter_replicate_of_neg (by simp [field]), List.countP_nil,
          if_pos Option.isSome_some]
        omega
      · rw [self, noLetter, prints, List.filter_cons_of_pos (by simp [notField]), List.filter_nil,
          if_neg (by decide)]
        omega

theorem translated_of_prints (every : ∀ language moment, 0 ≤ moment.shown.year →
    Prints language moment phpFormat) : Translated phpFormat := by
  have prints := every markedLanguage firstMoment (by decide)
  have kept := kept_of_prints prints
  obtain ⟨notCommon, _, same⟩ := pattern_of_prints prints
  refine ⟨kept, ?_, ?_⟩
  · apply (fieldRuns_pattern kept).2
    have ones := count_one kept
    rw [← same, countP_text (fun letter width _ => count_markedField letter width)
      (no_quote prints)] at ones
    omega
  · rintro kinds member rfl
    rw [commonTokens_common kinds member] at notCommon
    cases notCommon

end Untranslated

def earlyMoment : ZonedTime where
  shown :=
    { year := -1, month := 1, day := 1, hour := 1, minute := 1, second := 1, microsecond := 1000
      month_pos := by decide, month_le := by decide, day_pos := by decide, day_le := by decide
      hour_lt := by decide, minute_lt := by decide, second_lt := by decide
      microsecond_lt := by decide }
  zoneName := "GMT".toList
  offset := 0

theorem no_year_of_prints {phpFormat : List PhpPiece} (translated : Translated phpFormat)
    (prints : Prints markedLanguage earlyMoment phpFormat) : PhpPiece.token .Y ∉ phpFormat := by
  rw [Prints, format_of_translated translated] at prints
  have same := Option.some.inj prints
  have fewer : ∀ piece ∈ phpFormat,
      (piece.lexeme.text markedLanguage earlyMoment.shown).countP (· == '-') ≤
        (piece.text markedLanguage earlyMoment).countP (· == '-') := by
    intro piece member
    by_cases year : piece = .token .Y
    · rw [year]
      decide
    · rw [PhpPiece.text_lexeme (translated.kept piece member) _ _ (Or.inr year)]
  intro member
  have dash := (countP_flatMap_le fewer).2 (Nat.le_of_eq (by rw [same])) _ member
  revert dash
  decide

/-- Any date is printed as PHP prints it exactly in formats of kept pieces that are apart and
not a common format; before year 0, without the year too. -/
theorem getDateFormat_prints_iff (phpFormat : List PhpPiece) :
    ((∀ language moment, Prints language moment phpFormat) ↔
      Translated phpFormat ∧ PhpPiece.token .Y ∉ phpFormat) ∧
    ((∀ language moment, 0 ≤ moment.shown.year → Prints language moment phpFormat) ↔
      Translated phpFormat) := by
  constructor
  · constructor
    · intro every
      have translated := translated_of_prints fun language moment _ => every language moment
      exact ⟨translated, no_year_of_prints translated (every markedLanguage earlyMoment)⟩
    · rintro ⟨translated, noYear⟩ language moment
      exact prints_of_translated translated language moment (Or.inr noYear)
  · constructor
    · exact translated_of_prints
    · intro translated language moment positive
      exact prints_of_translated translated language moment (Or.inl positive)

/-- `\d` is printed as the day, PHP prints the letter. -/
theorem escaped_token_not_printed :
    ¬ ∀ phpFormat language moment, Prints language moment phpFormat := by
  intro always
  have prints := always [.escaped 'd'] markedLanguage firstMoment
  unfold Prints at prints
  revert prints
  decide

end FiksOpp.GetDateFormat
