/-
`getDateFormat`: the date format of the back end, which is PHP's, as a pattern of the `intl`
package.

Tokens are replaced before backslashes are taken out, so an escaped token is replaced as
well, and nothing is put between apostrophes, so letters that only the package knows become
fields.  PHP prints month and weekday names here as the package does.
-/

import FiksOpp.Foundations.DatePatterns
import Mathlib.Data.Bool.AllAny
import Mathlib.Data.List.Basic

namespace FiksOpp.GetDateFormat

open CivilCalendar
open DatePatterns

def formatMapping : List (Char × String) :=
  [('Y', "yyyy"), ('m', "MM"), ('d', "dd"), ('j', "d"), ('S', "S"), ('M', "MMM"), ('F', "MMMM"),
    ('l', "EEEE"), ('D', "EEE"), ('H', "HH"), ('i', "mm"), ('s', "ss"), ('A', "a"), ('T', "z"),
    ('v', "S"), ('U', "y-MM-ddTHH:mm:ssZ"), ('u', "y-MM-ddTHH:mm:ss.SSSZ"), ('G', "H"),
    ('B', "EEE, d MMM y HH:mm:ss Z")]

/-- The characters that the first expression matches: neither `A` nor `U`, but `a`. -/
def tokenClass : List Char :=
  "YmjdSFMlDHisaTvGuB".toList

def replaceToken (char : Char) : List Char :=
  if tokenClass.contains char then
    ((formatMapping.lookup char).map String.toList).getD [char]
  else [char]

/-- What `.` does not match. -/
def isLineBreak (char : Char) : Bool :=
  ['\n', '\r', Char.ofNat 0x2028, Char.ofNat 0x2029].contains char

def unescape : List Char → List Char
  | [] => []
  | [only] => [only]
  | first :: second :: rest =>
      if first = '\\' ∧ isLineBreak second = false then second :: unescape rest
      else first :: unescape (second :: rest)

def getDateFormat (phpFormat : List Char) : List Char :=
  unescape (phpFormat.flatMap replaceToken)

/-- The keys of the mapping, and the one letter that is matched but has no entry. -/
inductive PhpToken where
  | Y | m | d | j | S | M | F | l | D | H | i | s | A | T | v | U | u | G | B | a
  deriving DecidableEq, Repr

def PhpToken.letter : PhpToken → Char
  | .Y => 'Y'
  | .m => 'm'
  | .d => 'd'
  | .j => 'j'
  | .S => 'S'
  | .M => 'M'
  | .F => 'F'
  | .l => 'l'
  | .D => 'D'
  | .H => 'H'
  | .i => 'i'
  | .s => 's'
  | .A => 'A'
  | .T => 'T'
  | .v => 'v'
  | .U => 'U'
  | .u => 'u'
  | .G => 'G'
  | .B => 'B'
  | .a => 'a'

def phpTokens : List PhpToken :=
  [.Y, .m, .d, .j, .S, .M, .F, .l, .D, .H, .i, .s, .A, .T, .v, .U, .u, .G, .B, .a]

theorem mem_phpTokens (kind : PhpToken) : kind ∈ phpTokens := by
  cases kind <;> decide

def isPhpLetter (char : Char) : Bool :=
  "dDjlNSwzWFmMntLoXxYyaABgGhHisuveIOPpTZcrU".toList.contains char

inductive PhpPiece where
  | token (kind : PhpToken)
  | escaped (char : Char)
  | literal (char : Char) (plain : isPhpLetter char = false ∧ char ≠ '\\')
  deriving DecidableEq, Repr

def PhpPiece.source : PhpPiece → List Char
  | .token kind => [kind.letter]
  | .escaped char => ['\\', char]
  | .literal char _ => [char]

structure ZonedTime where
  shown : CivilTime
  zoneName : List Char
  /-- In seconds. -/
  offset : ℤ

def ZonedTime.timestamp (moment : ZonedTime) : ℤ :=
  moment.shown.reading / 1000000 - 719528 * 86400 - moment.offset

def signed (number : ℤ) (digits : List Char) : List Char :=
  if number < 0 then '-' :: digits else digits

def englishSuffix (day : ℕ) : String :=
  if 10 ≤ day ∧ day ≤ 19 then "th"
  else if day % 10 = 1 then "st"
  else if day % 10 = 2 then "nd"
  else if day % 10 = 3 then "rd"
  else "th"

section Printing

variable (language : Language) (moment : ZonedTime)

def PhpToken.text (token : PhpToken) : List Char :=
  let shown := moment.shown
  match token with
  | .Y => signed shown.year (paddedNumber 4 shown.year.natAbs)
  | .m => paddedNumber 2 shown.month
  | .d => paddedNumber 2 shown.day
  | .j => paddedNumber 1 shown.day
  | .S => (englishSuffix shown.day).toList
  | .M => language.shortMonth shown.month
  | .F => language.longMonth shown.month
  | .l => language.longWeekday (weekday shown)
  | .D => language.shortWeekday (weekday shown)
  | .H => paddedNumber 2 shown.hour
  | .i => paddedNumber 2 shown.minute
  | .s => paddedNumber 2 shown.second
  | .A => if shown.hour < 12 then ['A', 'M'] else ['P', 'M']
  | .T => moment.zoneName
  | .v => paddedNumber 3 (shown.microsecond / 1000)
  | .U => signed moment.timestamp (paddedNumber 1 moment.timestamp.natAbs)
  | .u => paddedNumber 6 shown.microsecond
  | .G => paddedNumber 1 shown.hour
  | .B => paddedNumber 3 ((moment.timestamp + 3600) % 86400 * 10 / 864).toNat
  | .a => if shown.hour < 12 then ['a', 'm'] else ['p', 'm']

def PhpPiece.text : PhpPiece → List Char
  | .token kind => kind.text language moment
  | .escaped char => [char]
  | .literal char _ => [char]

/-- The package prints what PHP does. -/
def Prints (phpFormat : List PhpPiece) : Prop :=
  format language (getDateFormat (phpFormat.flatMap PhpPiece.source)) moment.shown =
    some (phpFormat.flatMap (PhpPiece.text language moment))

end Printing

/-- The field that prints what the token does, where there is one. -/
def PhpToken.field : PhpToken → Option (Char × ℕ)
  | .Y => some ('y', 4)
  | .m => some ('M', 2)
  | .d => some ('d', 2)
  | .j => some ('d', 1)
  | .M => some ('M', 3)
  | .F => some ('M', 4)
  | .l => some ('E', 4)
  | .D => some ('E', 3)
  | .H => some ('H', 2)
  | .i => some ('m', 2)
  | .s => some ('s', 2)
  | .v => some ('S', 1)
  | .G => some ('H', 1)
  | .S | .A | .T | .U | .u | .B | .a => none

namespace PhpPiece

def Kept : PhpPiece → Prop
  | .token kind => kind.field.isSome = true
  | .escaped char => tokenClass.contains char = false ∧ isField char = false ∧ char ≠ quote ∧
      isLineBreak char = false
  | .literal char _ => isField char = false ∧ char ≠ quote

def fieldLetter : PhpPiece → Option Char
  | .token kind => kind.field.map Prod.fst
  | .escaped _ => none
  | .literal _ _ => none

def Apart (before after : PhpPiece) : Prop :=
  before.fieldLetter = none ∨ before.fieldLetter ≠ after.fieldLetter

end PhpPiece

/-- The formats whose translation is the name of a common format. -/
def commonTokens : List (List PhpToken) :=
  [[.j], [.l], [.M], [.F], [.G], [.M, .j], [.F, .j], [.F, .l, .j]]

structure Translated (phpFormat : List PhpPiece) : Prop where
  kept : ∀ piece ∈ phpFormat, piece.Kept
  apart : phpFormat.IsChain PhpPiece.Apart
  not_common : ∀ tokens ∈ commonTokens, phpFormat ≠ tokens.map .token

/-! ### Piece by piece -/

theorem unescape_cons {first : Char} (plain : first ≠ '\\') (rest : List Char) :
    unescape (first :: rest) = first :: unescape rest := by
  cases rest with
  | nil => rfl
  | cons second rest => rw [unescape, if_neg fun escapes => plain escapes.1]

theorem unescape_append {text : List Char} (plain : '\\' ∉ text) (rest : List Char) :
    unescape (text ++ rest) = text ++ unescape rest := by
  induction text with
  | nil => rfl
  | cons first text ih =>
      have here : first ≠ '\\' := fun same => plain (same ▸ List.mem_cons_self)
      rw [List.cons_append, unescape_cons here,
        ih fun member => plain (List.mem_cons_of_mem _ member), List.cons_append]

theorem unescape_escaped {char : Char} (sameLine : isLineBreak char = false)
    (rest : List Char) : unescape ('\\' :: char :: rest) = char :: unescape rest := by
  rw [unescape, if_pos ⟨rfl, sameLine⟩]

theorem unescape_lineBreak {char : Char} (breaks : isLineBreak char = true)
    (rest : List Char) : unescape ('\\' :: char :: rest) = '\\' :: unescape (char :: rest) := by
  rw [unescape, if_neg]
  intro escapes
  rw [breaks] at escapes
  cases escapes.2

theorem replaceToken_other {char : Char} (other : tokenClass.contains char = false) :
    replaceToken char = [char] := by
  rw [replaceToken, other, if_neg Bool.false_ne_true]

theorem replaceToken_spec : ∀ char ∈ tokenClass, '\\' ∉ replaceToken char ∧
    quote ∉ replaceToken char ∧ isLineBreak char = false ∧
      ((replaceToken char).head?.map isLineBreak) = some false :=
  List.all_iff_forall_prop.mp (by decide)

def PhpPiece.pattern : PhpPiece → List Char
  | .token kind => replaceToken kind.letter
  | .escaped char => if isLineBreak char then ['\\', char] else replaceToken char
  | .literal char _ => [char]

theorem ne_backslash_of_token (kind : PhpToken) : '\\' ∉ replaceToken kind.letter := by
  cases kind <;> decide

theorem unescape_escapedPiece (char : Char) (rest : List Char) :
    unescape ('\\' :: (replaceToken char ++ rest)) =
      (PhpPiece.escaped char).pattern ++ unescape rest := by
  rw [PhpPiece.pattern]
  cases known : tokenClass.contains char with
  | true =>
      obtain ⟨plain, _, sameLine, firstPlain⟩ :=
        replaceToken_spec char (List.contains_iff_mem.mp known)
      rw [sameLine, if_neg Bool.false_ne_true]
      cases replaced : replaceToken char with
      | nil =>
          rw [replaced] at firstPlain
          cases firstPlain
      | cons first more =>
          rw [replaced] at firstPlain plain
          have later : '\\' ∉ more := fun member => plain (List.mem_cons_of_mem _ member)
          rw [List.cons_append, unescape_escaped (Option.some.inj firstPlain),
            unescape_append later, List.cons_append]
  | false =>
      rw [replaceToken_other known]
      cases breaks : isLineBreak char with
      | true =>
          have plain : char ≠ '\\' := by
            rintro rfl
            cases breaks
          rw [List.cons_append, List.nil_append, unescape_lineBreak breaks,
            unescape_cons plain]
          rfl
      | false => exact unescape_escaped breaks rest

theorem not_token_of_plain {char : Char} (plain : isPhpLetter char = false) :
    tokenClass.contains char = false := by
  have letters : ∀ char ∈ tokenClass, isPhpLetter char = true :=
    List.all_iff_forall_prop.mp (by decide)
  rw [← Bool.not_eq_true, List.contains_iff_mem]
  intro known
  rw [letters char known] at plain
  cases plain

theorem unescape_piece (piece : PhpPiece) (rest : List Char) :
    unescape (piece.source.flatMap replaceToken ++ rest) = piece.pattern ++ unescape rest := by
  cases piece with
  | token kind =>
      rw [PhpPiece.source, PhpPiece.pattern, List.flatMap_singleton]
      exact unescape_append (ne_backslash_of_token kind) rest
  | literal char plain =>
      rw [PhpPiece.source, PhpPiece.pattern, List.flatMap_singleton,
        replaceToken_other (not_token_of_plain plain.1)]
      exact unescape_cons plain.2 rest
  | escaped char =>
      have backslash : replaceToken '\\' = ['\\'] := by decide
      rw [PhpPiece.source, List.flatMap_cons, List.flatMap_singleton, backslash]
      exact unescape_escapedPiece char rest

theorem getDateFormat_source (phpFormat : List PhpPiece) :
    getDateFormat (phpFormat.flatMap PhpPiece.source) =
      phpFormat.flatMap PhpPiece.pattern := by
  unfold getDateFormat
  induction phpFormat with
  | nil => rfl
  | cons piece phpFormat ih =>
      rw [List.flatMap_cons, List.flatMap_append, unescape_piece, ih, List.flatMap_cons]

theorem fields_spec : ∀ kind ∈ phpTokens, ∀ run ∈ kind.field,
    isField run.1 = true ∧ 0 < run.2 ∧
      replaceToken kind.letter = List.replicate run.2 run.1 := by
  decide

theorem PhpToken.field_spec {kind : PhpToken} {letter : Char} {width : ℕ}
    (found : kind.field = some (letter, width)) :
    isField letter = true ∧ 0 < width ∧
      replaceToken kind.letter = List.replicate width letter :=
  fields_spec kind (mem_phpTokens kind) (letter, width) found

def PhpPiece.lexeme : PhpPiece → Lexeme
  | .token kind =>
      match kind.field with
      | some (letter, width) => .field letter width
      | none => .literal kind.letter
  | .escaped char => .literal char
  | .literal char _ => .literal char

theorem PhpPiece.kept_cases {piece : PhpPiece} (kept : piece.Kept) :
    (∃ kind letter width, piece = .token kind ∧ kind.field = some (letter, width) ∧
        piece.fieldLetter = some letter ∧ piece.lexeme = .field letter width ∧
        piece.pattern = List.replicate width letter) ∨
      ∃ char, piece.fieldLetter = none ∧ piece.lexeme = .literal char ∧
        piece.pattern = [char] ∧ (∀ language moment, piece.text language moment = [char]) ∧
        isField char = false ∧ char ≠ quote ∧ char ≠ 'j' := by
  cases piece with
  | token kind =>
      unfold PhpPiece.Kept at kept
      obtain ⟨⟨letter, width⟩, found⟩ := Option.isSome_iff_exists.mp kept
      refine Or.inl ⟨kind, letter, width, rfl, found, ?_, ?_, ?_⟩
      · rw [PhpPiece.fieldLetter, found, Option.map_some]
      · rw [PhpPiece.lexeme, found]
      · rw [PhpPiece.pattern, (PhpToken.field_spec found).2.2]
  | escaped char =>
      obtain ⟨other, notField, notQuote, sameLine⟩ := kept
      refine Or.inr ⟨char, rfl, rfl, ?_, fun _ _ => rfl, notField, notQuote, ?_⟩
      · rw [PhpPiece.pattern, sameLine, if_neg Bool.false_ne_true, replaceToken_other other]
      · rintro rfl
        cases other
  | literal char plain =>
      obtain ⟨notField, notQuote⟩ := kept
      refine Or.inr ⟨char, rfl, rfl, rfl, fun _ _ => rfl, notField, notQuote, ?_⟩
      rintro rfl
      cases plain.1

theorem head?_pattern {rest : List PhpPiece} (kept : ∀ piece ∈ rest, piece.Kept)
    {letter : Char} (field : isField letter = true) :
    (rest.flatMap PhpPiece.pattern).head? = some letter ↔
      rest.head?.bind PhpPiece.fieldLetter = some letter := by
  cases rest with
  | nil => exact Iff.rfl
  | cons piece rest =>
      rw [List.flatMap_cons, List.head?_cons, Option.bind_some]
      rcases PhpPiece.kept_cases (kept piece List.mem_cons_self) with
        ⟨kind, other, width, _, found, isLetter, _, run⟩ |
        ⟨char, noLetter, _, self, _, notField, _⟩
      · obtain ⟨_, positive, _⟩ := PhpToken.field_spec found
        obtain ⟨count, rfl⟩ := Nat.exists_eq_succ_of_ne_zero (Nat.pos_iff_ne_zero.mp positive)
        rw [run, isLetter, List.replicate_succ, List.cons_append, List.head?_cons]
      · rw [self, noLetter, List.cons_append, List.head?_cons]
        refine iff_of_false ?_ (Option.some_ne_none letter).symm
        intro same
        rw [Option.some.inj same, field] at notField
        cases notField

theorem apart_cons_iff {piece : PhpPiece} {rest : List PhpPiece} :
    (piece :: rest).IsChain PhpPiece.Apart ↔
      (piece.fieldLetter = none ∨
        rest.head?.bind PhpPiece.fieldLetter ≠ piece.fieldLetter) ∧
        rest.IsChain PhpPiece.Apart := by
  cases rest with
  | nil =>
      refine iff_of_true (List.IsChain.singleton piece) ⟨?_, List.IsChain.nil⟩
      cases piece.fieldLetter with
      | none => exact Or.inl rfl
      | some letter => exact Or.inr (Option.some_ne_none letter).symm
  | cons next rest =>
      rw [List.isChain_cons_cons, PhpPiece.Apart, List.head?_cons, Option.bind_some, ne_comm]

theorem lex_pattern {phpFormat : List PhpPiece} (kept : ∀ piece ∈ phpFormat, piece.Kept)
    (apart : phpFormat.IsChain PhpPiece.Apart) :
    lex (phpFormat.flatMap PhpPiece.pattern) = phpFormat.map PhpPiece.lexeme := by
  induction phpFormat with
  | nil => rfl
  | cons piece rest ih =>
      have keptRest := fun other member => kept other (List.mem_cons_of_mem _ member)
      obtain ⟨first, apartRest⟩ := apart_cons_iff.mp apart
      rw [List.flatMap_cons, List.map_cons]
      rcases PhpPiece.kept_cases (kept piece List.mem_cons_self) with
        ⟨kind, letter, width, _, found, isLetter, isLexeme, run⟩ |
        ⟨char, _, isLexeme, self, _, notField, notQuote, _⟩
      · obtain ⟨field, positive, _⟩ := PhpToken.field_spec found
        have ends : (rest.flatMap PhpPiece.pattern).head? ≠ some letter := by
          rw [Ne, head?_pattern keptRest field]
          rcases first with noLetter | other
          · rw [isLetter] at noLetter
            cases noLetter
          · rwa [isLetter] at other
        rw [run, isLexeme, lex_run field positive ends, ih keptRest apartRest]
      · rw [self, isLexeme, List.cons_append, List.nil_append, lex_literal notQuote notField,
          ih keptRest apartRest]

theorem fieldRuns_pattern {phpFormat : List PhpPiece}
    (kept : ∀ piece ∈ phpFormat, piece.Kept) :
    fieldRuns (phpFormat.flatMap PhpPiece.pattern) ≤
        phpFormat.countP (fun piece => piece.fieldLetter.isSome) ∧
      (fieldRuns (phpFormat.flatMap PhpPiece.pattern) =
          phpFormat.countP (fun piece => piece.fieldLetter.isSome) →
        phpFormat.IsChain PhpPiece.Apart) := by
  induction phpFormat with
  | nil => exact ⟨Nat.le_refl _, fun _ => List.IsChain.nil⟩
  | cons piece rest ih =>
      have keptRest := fun other member => kept other (List.mem_cons_of_mem _ member)
      obtain ⟨fewer, chain⟩ := ih keptRest
      rw [List.flatMap_cons, List.countP_cons, apart_cons_iff]
      rcases PhpPiece.kept_cases (kept piece List.mem_cons_self) with
        ⟨kind, letter, width, _, found, isLetter, _, run⟩ |
        ⟨char, noLetter, _, self, _, notField, _⟩
      · obtain ⟨field, positive, _⟩ := PhpToken.field_spec found
        rw [run, fieldRuns_run field positive, isLetter, if_pos Option.isSome_some]
        split
        · exact ⟨by omega, fun same => absurd same (by omega)⟩
        · rename_i ends
          rw [head?_pattern keptRest field] at ends
          exact ⟨by omega, fun same => ⟨Or.inr ends, chain (by omega)⟩⟩
      · rw [self, noLetter, List.cons_append, List.nil_append, fieldRuns_literal notField,
          if_neg (by decide)]
        exact ⟨fewer, fun same => ⟨Or.inl rfl, chain same⟩⟩

/-! ### Common formats -/

def tokenOf : Lexeme → Option PhpToken
  | .field letter width =>
      phpTokens.find? fun kind => kind.field = some (letter, width)
  | .quoted _ => none
  | .literal _ => none

def tokensOf : List Lexeme → Option (List PhpToken)
  | [] => some []
  | first :: rest =>
      match tokenOf first, tokensOf rest with
      | some kind, some kinds => some (kind :: kinds)
      | _, _ => none

theorem tokenOf_fields : ∀ kind ∈ phpTokens, ∀ run ∈ kind.field,
    tokenOf (.field run.1 run.2) = some kind := by
  decide

theorem tokensOf_lexemes {phpFormat : List PhpPiece}
    (kept : ∀ piece ∈ phpFormat, piece.Kept)
    (tokens : ∀ piece ∈ phpFormat, piece.fieldLetter.isSome = true) :
    ∃ kinds : List PhpToken, phpFormat = kinds.map .token ∧
      tokensOf (phpFormat.map PhpPiece.lexeme) = some kinds := by
  induction phpFormat with
  | nil => exact ⟨[], rfl, rfl⟩
  | cons piece rest ih =>
      obtain ⟨kinds, same, read⟩ :=
        ih (fun other member => kept other (List.mem_cons_of_mem _ member))
          fun other member => tokens other (List.mem_cons_of_mem _ member)
      rcases PhpPiece.kept_cases (kept piece List.mem_cons_self) with
        ⟨kind, letter, width, isToken, found, _, isLexeme, _⟩ | ⟨_, noLetter, _⟩
      · refine ⟨kind :: kinds, ?_, ?_⟩
        · rw [List.map_cons, isToken, ← same]
        · have first := tokenOf_fields kind (mem_phpTokens kind) _ found
          rw [List.map_cons, isLexeme, tokensOf, first, read]
      · have hasLetter := tokens piece List.mem_cons_self
        rw [noLetter] at hasLetter
        cases hasLetter

theorem commonFormats_letters : ∀ pattern ∈ commonFormats.map String.toList,
    ∀ char ∈ pattern, isField char = true ∨ char = 'j' := by
  have letters : ∀ pattern ∈ commonFormats.map String.toList,
      (pattern.all fun char => decide (isField char = true ∨ char = 'j')) = true := by
    decide
  intro pattern member
  exact List.all_iff_forall_prop.mp (letters pattern member)

theorem commonFormats_tokens : ∀ pattern ∈ commonFormats.map String.toList,
    ((tokensOf (lex pattern)).map commonTokens.contains).getD true = true := by
  decide +kernel

theorem commonTokens_common : ∀ kinds ∈ commonTokens,
    isCommon ((kinds.map PhpPiece.token).flatMap PhpPiece.pattern) = true := by
  decide +kernel

theorem mem_commonTokens {phpFormat : List PhpPiece} (kept : ∀ piece ∈ phpFormat, piece.Kept)
    (apart : phpFormat.IsChain PhpPiece.Apart)
    (common : isCommon (phpFormat.flatMap PhpPiece.pattern) = true) :
    ∃ kinds ∈ commonTokens, phpFormat = kinds.map .token := by
  have listed := List.contains_iff_mem.mp common
  have tokens : ∀ piece ∈ phpFormat, piece.fieldLetter.isSome = true := by
    intro piece member
    rcases PhpPiece.kept_cases (kept piece member) with
      ⟨kind, letter, width, _, _, isLetter, _⟩ | ⟨char, _, _, self, _, notField, _, notJ⟩
    · rw [isLetter]
      rfl
    · have inPattern : char ∈ phpFormat.flatMap PhpPiece.pattern :=
        List.mem_flatMap.mpr ⟨piece, member, self ▸ List.mem_singleton.mpr rfl⟩
      rcases commonFormats_letters _ listed char inPattern with field | isJ
      · rw [field] at notField
        cases notField
      · exact absurd isJ notJ
  obtain ⟨kinds, same, read⟩ := tokensOf_lexemes kept tokens
  have known := commonFormats_tokens _ listed
  rw [lex_pattern kept apart, read] at known
  exact ⟨kinds, List.contains_iff_mem.mp known, same⟩

theorem Translated.isCommon_eq {phpFormat : List PhpPiece} (translated : Translated phpFormat) :
    isCommon (phpFormat.flatMap PhpPiece.pattern) = false := by
  cases common : isCommon (phpFormat.flatMap PhpPiece.pattern) with
  | false => rfl
  | true =>
      obtain ⟨kinds, member, same⟩ :=
        mem_commonTokens translated.kept translated.apart common
      exact absurd same (translated.not_common kinds member)

theorem fields_implemented : ∀ kind ∈ phpTokens, ∀ run ∈ kind.field,
    (Lexeme.field run.1 run.2).implemented = true := by
  decide

theorem PhpPiece.implemented_lexeme {piece : PhpPiece} (kept : piece.Kept) :
    piece.lexeme.implemented = true := by
  rcases PhpPiece.kept_cases kept with
    ⟨kind, letter, width, _, found, _, isLexeme, _⟩ | ⟨char, _, isLexeme, _⟩
  · rw [isLexeme]
    exact fields_implemented kind (mem_phpTokens kind) _ found
  · rw [isLexeme, Lexeme.implemented]

theorem PhpPiece.text_lexeme {piece : PhpPiece} (kept : piece.Kept) (language : Language)
    (moment : ZonedTime) (signedYear : 0 ≤ moment.shown.year ∨ piece ≠ .token .Y) :
    piece.lexeme.text language moment.shown = piece.text language moment := by
  rcases PhpPiece.kept_cases kept with
    ⟨kind, letter, width, isToken, found, _, isLexeme, _⟩ | ⟨char, _, isLexeme, _, prints, _⟩
  · rw [isLexeme, isToken, PhpPiece.text, Lexeme.text]
    cases kind with
    | Y =>
        cases found
        rcases signedYear with positive | other
        · rw [PhpToken.text, signed, if_neg (Int.not_lt.mpr positive)]
          rfl
        · exact absurd isToken other
    | v =>
        cases found
        change paddedNumber 3 (moment.shown.microsecond / 1000) ++ [] = _
        rw [List.append_nil]
        rfl
    | S => cases found
    | A => cases found
    | T => cases found
    | U => cases found
    | u => cases found
    | B => cases found
    | a => cases found
    | _ =>
        cases found
        rfl
  · rw [isLexeme, prints, Lexeme.text]

theorem format_of_translated {phpFormat : List PhpPiece} (translated : Translated phpFormat)
    (language : Language) (date : CivilTime) :
    format language (getDateFormat (phpFormat.flatMap PhpPiece.source)) date =
      some (phpFormat.flatMap fun piece => piece.lexeme.text language date) := by
  have lexed : lexemesOf language (phpFormat.flatMap PhpPiece.pattern) =
      phpFormat.map PhpPiece.lexeme := by
    rw [lexemesOf, translated.isCommon_eq, if_neg Bool.false_ne_true,
      lex_pattern translated.kept translated.apart]
  rw [format, getDateFormat_source, lexed, if_pos, List.flatMap_map]
  rw [List.all_eq_true]
  intro lexeme member
  obtain ⟨piece, inFormat, rfl⟩ := List.mem_map.mp member
  exact PhpPiece.implemented_lexeme (translated.kept piece inFormat)

theorem prints_of_translated {phpFormat : List PhpPiece} (translated : Translated phpFormat)
    (language : Language) (moment : ZonedTime)
    (signedYear : 0 ≤ moment.shown.year ∨ PhpPiece.token .Y ∉ phpFormat) :
    Prints language moment phpFormat := by
  rw [Prints, format_of_translated translated]
  congr 1
  refine List.flatMap_congr fun piece member => ?_
  refine PhpPiece.text_lexeme (translated.kept piece member) language moment ?_
  rcases signedYear with positive | noYear
  · exact Or.inl positive
  · exact Or.inr fun same => noYear (same ▸ member)

end FiksOpp.GetDateFormat
