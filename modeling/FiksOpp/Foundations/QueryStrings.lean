/-
Queries of an address that are put together from keys and values as they are.

A decoder splits a query at its ampersands and each part at its first equals sign.  A
query whose keys are plain and occur once is read back exactly when each value is plain:
it has no ampersand, no number sign, no plus sign and no escape.
-/

import FiksOpp.Foundations.PercentEncoding
import Mathlib.Data.List.Nodup

namespace FiksOpp.QueryStrings

open PercentEncoding

abbrev Pair := List Char × List Char

def fields : List Char → List (List Char)
  | [] => [[]]
  | char :: rest =>
      if char = '&' then [] :: fields rest
      else
        match fields rest with
        | [] => [[char]]
        | first :: others => (char :: first) :: others

/-- An empty field, or one without a key, is passed over; a field that cannot be decoded
fails. -/
def decodeField (field : List Char) : Option (Option Pair) :=
  match field.dropWhile (· ≠ '=') with
  | [] =>
      if field = [] then some none
      else (decodeComponent field).map fun key => some (key, [])
  | _ :: value =>
      if field.takeWhile (· ≠ '=') = [] then some none
      else
        match decodeComponent (field.takeWhile (· ≠ '=')), decodeComponent value with
        | some key, some value => some (some (key, value))
        | _, _ => none

def decodeFields : List (List Char) → Option (List Pair)
  | [] => some []
  | field :: rest =>
      match decodeField field, decodeFields rest with
      | some (some pair), some pairs => some (pair :: pairs)
      | some none, some pairs => some pairs
      | _, _ => none

def decodeQuery (query : List Char) : Option (List Pair) :=
  decodeFields (fields query)

/-- What a parser of addresses keeps of the text after the question mark: a number sign
starts the fragment. -/
def parsed (text : List Char) : List Char :=
  normalize (text.takeWhile (· ≠ '#'))

def queryOf (address : List Char) : Option (List Char) :=
  match (address.takeWhile (· ≠ '#')).dropWhile (· ≠ '?') with
  | [] => none
  | _ :: query => some (normalize query)

def readBack (text : List Char) : Option (List Pair) :=
  decodeQuery (parsed text)

inductive Part where
  /-- Nothing between two ampersands. -/
  | gap
  | pair (key value : List Char)
  deriving DecidableEq, Repr

def pairText (key value : List Char) : List Char :=
  key ++ '=' :: value

def Part.text : Part → List Char
  | .gap => []
  | .pair key value => pairText key value

def Part.sent : Part → Option Pair
  | .gap => none
  | .pair key value => some (key, value)

/-- The parts, each with an ampersand after it, and a last pair. -/
def render (last : Pair) : List Part → List Char
  | [] => pairText last.1 last.2
  | part :: rest => part.text ++ '&' :: render last rest

def sent (last : Pair) (parts : List Part) : List Pair :=
  parts.filterMap Part.sent ++ [last]

def Plain (value : List Char) : Prop :=
  Kept value ∧ '&' ∉ value ∧ '#' ∉ value

instance (value : List Char) : Decidable (Plain value) :=
  inferInstanceAs (Decidable (_ ∧ _ ∧ _))

structure PlainKey (key : List Char) : Prop where
  plain : Plain key
  assigned : '=' ∉ key
  nonempty : key ≠ []

theorem isMark_ampersand : IsMark '&' :=
  ⟨by decide, by decide, by decide, by decide⟩

theorem isMark_equals : IsMark '=' :=
  ⟨by decide, by decide, by decide, by decide⟩

theorem fields_append {first : List Char} (absent : '&' ∉ first) (rest : List Char) :
    fields (first ++ '&' :: rest) = first :: fields rest := by
  induction first with
  | nil => rfl
  | cons char first ih =>
      rw [List.mem_cons, not_or] at absent
      rw [List.cons_append, fields, if_neg (Ne.symm absent.1), ih absent.2]

theorem fields_of_not_mem {text : List Char} (absent : '&' ∉ text) : fields text = [text] := by
  induction text with
  | nil => rfl
  | cons char text ih =>
      rw [List.mem_cons, not_or] at absent
      rw [fields, if_neg (Ne.symm absent.1), ih absent.2]

theorem takeWhile_append_of_not_mem {mark : Char} {first : List Char} (absent : mark ∉ first)
    (rest : List Char) :
    (first ++ rest).takeWhile (· ≠ mark) = first ++ rest.takeWhile (· ≠ mark) := by
  apply List.takeWhile_append_of_pos
  intro char inside
  rw [decide_eq_true_iff]
  rintro rfl
  exact absent inside

theorem dropWhile_append_of_not_mem {mark : Char} {first : List Char} (absent : mark ∉ first)
    (rest : List Char) :
    (first ++ rest).dropWhile (· ≠ mark) = rest.dropWhile (· ≠ mark) := by
  apply List.dropWhile_append_of_pos
  intro char inside
  rw [decide_eq_true_iff]
  rintro rfl
  exact absent inside

theorem decodeComponent_normalize_of_kept {text : List Char} (kept : Kept text) :
    decodeComponent (normalize text) = some text := by
  rw [decodeComponent_normalize]
  exact (utf8Decode_meaning_iff (List.prefix_refl text)).mpr ⟨rfl, kept⟩

theorem decodeField_normalize {key : List Char} (plainKey : PlainKey key) (value : List Char) :
    decodeField (normalize (pairText key value)) =
      (utf8Decode (meaning value)).map fun read => some (key, read) := by
  have noEquals : '=' ∉ normalize key := not_mem_normalize isMark_equals plainKey.assigned
  have read := decodeComponent_normalize_of_kept plainKey.plain.1
  have nonempty : normalize key ≠ [] := by
    intro empty
    rw [empty] at read
    have nothing : decodeComponent [] = some [] := (utf8Decode_eq_some_iff [] []).mpr rfl
    rw [nothing, Option.some.injEq] at read
    exact plainKey.nonempty read.symm
  unfold pairText
  rw [normalize_append_mark isMark_equals, decodeField, dropWhile_append_of_not_mem noEquals,
    takeWhile_append_of_not_mem noEquals, List.dropWhile_cons_of_neg (by decide),
    List.takeWhile_cons_of_neg (by decide), List.append_nil]
  dsimp only
  rw [if_neg nonempty, read, decodeComponent_normalize]
  cases utf8Decode (meaning value) <;> rfl

theorem parsed_append {first : List Char} (unfragmented : '#' ∉ first) (rest : List Char) :
    parsed (first ++ '&' :: rest) = normalize first ++ '&' :: parsed rest := by
  unfold parsed
  rw [takeWhile_append_of_not_mem unfragmented, List.takeWhile_cons_of_pos (by decide),
    normalize_append_mark isMark_ampersand]

theorem decodeFields_cons {field : List Char} {pair : Pair}
    (read : decodeField field = some (some pair)) (rest : List (List Char)) :
    decodeFields (field :: rest) = (decodeFields rest).map (pair :: ·) := by
  rw [decodeFields, read]
  cases decodeFields rest <;> rfl

theorem readBack_gap (rest : List Char) : readBack ('&' :: rest) = readBack rest := by
  have split : parsed ('&' :: rest) = normalize [] ++ '&' :: parsed rest :=
    parsed_append List.not_mem_nil rest
  have empty : fields ('&' :: parsed rest) = [] :: fields (parsed rest) := rfl
  unfold readBack decodeQuery
  rw [split]
  change decodeFields (fields ('&' :: parsed rest)) = _
  rw [empty, decodeFields]
  change (match some none, decodeFields (fields (parsed rest)) with
    | some (some pair), some pairs => some (pair :: pairs)
    | some none, some pairs => some pairs
    | _, _ => none) = _
  cases decodeFields (fields (parsed rest)) <;> rfl

theorem not_mem_pairText {mark : Char} {key value : List Char} (inKey : mark ∉ key)
    (equals : mark ≠ '=') (inValue : mark ∉ value) : mark ∉ pairText key value := by
  unfold pairText
  rw [List.mem_append, List.mem_cons]
  rintro (left | same | right)
  · exact inKey left
  · exact equals same
  · exact inValue right

section OnePair

variable {key value : List Char} (plainKey : PlainKey key)

include plainKey in
theorem decodeField_of_plain (plain : Plain value) :
    decodeField (normalize (pairText key value)) = some (some (key, value)) := by
  rw [decodeField_normalize plainKey,
    (utf8Decode_meaning_iff (List.prefix_refl value)).mpr ⟨rfl, plain.1⟩]
  rfl

include plainKey in
theorem readBack_pair (plain : Plain value) (rest : List Char) :
    readBack (pairText key value ++ '&' :: rest) = (readBack rest).map ((key, value) :: ·) := by
  have unfragmented : '#' ∉ pairText key value :=
    not_mem_pairText plainKey.plain.2.2 (by decide) plain.2.2
  have unsplit : '&' ∉ pairText key value :=
    not_mem_pairText plainKey.plain.2.1 (by decide) plain.2.1
  unfold readBack decodeQuery
  rw [parsed_append unfragmented, fields_append (not_mem_normalize isMark_ampersand unsplit)]
  exact decodeFields_cons (decodeField_of_plain plainKey plain) _

include plainKey in
theorem readBack_last (plain : Plain value) :
    readBack (pairText key value) = some [(key, value)] := by
  have unfragmented : '#' ∉ pairText key value :=
    not_mem_pairText plainKey.plain.2.2 (by decide) plain.2.2
  have unsplit : '&' ∉ pairText key value :=
    not_mem_pairText plainKey.plain.2.1 (by decide) plain.2.1
  have whole : (pairText key value).takeWhile (· ≠ '#') = pairText key value := by
    have appended := takeWhile_append_of_not_mem unfragmented []
    rw [List.append_nil] at appended
    exact appended.trans (List.append_nil _)
  unfold readBack decodeQuery parsed
  rw [whole, fields_of_not_mem (not_mem_normalize isMark_ampersand unsplit)]
  exact decodeFields_cons (decodeField_of_plain plainKey plain) []

def passes (char : Char) : Bool :=
  char ≠ '&' && char ≠ '#'

/-- The part of a value before the first mark that ends it. -/
def stopped (value : List Char) : List Char :=
  value.takeWhile passes

theorem not_mem_stopped (value : List Char) : '&' ∉ stopped value ∧ '#' ∉ stopped value := by
  unfold stopped
  induction value with
  | nil => exact ⟨List.not_mem_nil, List.not_mem_nil⟩
  | cons char rest ih =>
      by_cases passed : passes char = true
      · rw [List.takeWhile_cons_of_pos passed, List.mem_cons, List.mem_cons, not_or, not_or]
        unfold passes at passed
        rw [Bool.and_eq_true, decide_eq_true_iff, decide_eq_true_iff] at passed
        exact ⟨⟨passed.1.symm, ih.1⟩, passed.2.symm, ih.2⟩
      · rw [List.takeWhile_cons_of_neg passed]
        exact ⟨List.not_mem_nil, List.not_mem_nil⟩

theorem stopped_cases (value : List Char) :
    ∃ rest, value = stopped value ++ rest ∧
      (rest = [] ∨ (∃ next, rest = '&' :: next) ∨ ∃ fragment, rest = '#' :: fragment) := by
  unfold stopped
  induction value with
  | nil => exact ⟨[], rfl, Or.inl rfl⟩
  | cons char tail ih =>
      by_cases passed : passes char = true
      · obtain ⟨rest, split, kind⟩ := ih
        refine ⟨rest, ?_, kind⟩
        rw [List.takeWhile_cons_of_pos passed, List.cons_append, ← split]
      · refine ⟨char :: tail, ?_, Or.inr ?_⟩
        · rw [List.takeWhile_cons_of_neg passed]
          rfl
        · by_cases ampersand : char = '&'
          · exact Or.inl ⟨tail, by rw [ampersand]⟩
          · have number : char = '#' := by
              by_contra other
              exact passed (by simp [passes, ampersand, other])
            exact Or.inr ⟨tail, by rw [number]⟩

theorem takeWhile_pair (key value : List Char) (unfragmented : '#' ∉ key) {tail : List Char}
    (ends : tail = [] ∨ ∃ rest, tail = '&' :: rest) :
    ∃ rest, (pairText key value ++ tail).takeWhile (· ≠ '#') =
        pairText key (stopped value) ++ rest ∧
      (rest = [] ∨ ∃ next, rest = '&' :: next) := by
  obtain ⟨remaining, split, kind⟩ := stopped_cases value
  have whole : pairText key value ++ tail =
      pairText key (stopped value) ++ (remaining ++ tail) := by
    unfold pairText
    rw [List.append_assoc, List.append_assoc, List.cons_append, List.cons_append]
    nth_rewrite 1 [split]
    rw [List.append_assoc]
  refine ⟨(remaining ++ tail).takeWhile (· ≠ '#'), ?_, ?_⟩
  · rw [whole]
    exact takeWhile_append_of_not_mem
      (not_mem_pairText unfragmented (by decide) (not_mem_stopped value).2) _
  · rcases kind with rfl | ⟨next, rfl⟩ | ⟨fragment, rfl⟩
    · rcases ends with rfl | ⟨rest, rfl⟩
      · exact Or.inl rfl
      · exact Or.inr ⟨_, List.takeWhile_cons_of_pos (by decide)⟩
    · exact Or.inr ⟨_, List.takeWhile_cons_of_pos (by decide)⟩
    · exact Or.inl (List.takeWhile_cons_of_neg (by decide))

include plainKey in
theorem readBack_first {tail : List Char} (ends : tail = [] ∨ ∃ rest, tail = '&' :: rest)
    {pairs : List Pair} (read : readBack (pairText key value ++ tail) = some pairs) :
    ∃ first others, pairs = (key, first) :: others ∧
      utf8Decode (meaning (stopped value)) = some first := by
  obtain ⟨rest, kept, kind⟩ := takeWhile_pair key value plainKey.plain.2.2 ends
  have unsplit : '&' ∉ pairText key (stopped value) :=
    not_mem_pairText plainKey.plain.2.1 (by decide) (not_mem_stopped value).1
  have fieldsFirst : ∃ others,
      fields (parsed (pairText key value ++ tail)) =
        normalize (pairText key (stopped value)) :: others := by
    unfold parsed
    rw [kept]
    rcases kind with rfl | ⟨next, rfl⟩
    · rw [List.append_nil]
      exact ⟨[], fields_of_not_mem (not_mem_normalize isMark_ampersand unsplit)⟩
    · rw [normalize_append_mark isMark_ampersand]
      exact ⟨_, fields_append (not_mem_normalize isMark_ampersand unsplit) _⟩
  obtain ⟨others, split⟩ := fieldsFirst
  unfold readBack decodeQuery at read
  rw [split, decodeFields, decodeField_normalize plainKey] at read
  cases decoded : utf8Decode (meaning (stopped value)) with
  | none =>
      rw [decoded] at read
      cases read
  | some first =>
      rw [decoded] at read
      cases later : decodeFields others with
      | none =>
          rw [later] at read
          cases read
      | some rest =>
          rw [later] at read
          cases read
          exact ⟨first, rest, rfl, rfl⟩

include plainKey in
theorem plain_of_readBack {tail : List Char} (ends : tail = [] ∨ ∃ rest, tail = '&' :: rest)
    {pairs others : List Pair} (read : readBack (pairText key value ++ tail) = some pairs)
    (same : pairs.Perm ((key, value) :: others)) (once : key ∉ others.map Prod.fst) :
    Plain value := by
  obtain ⟨first, rest, rfl, decoded⟩ := readBack_first plainKey ends read
  have member : (key, first) ∈ (key, value) :: others :=
    same.subset List.mem_cons_self
  have value_ : first = value := by
    rcases List.mem_cons.mp member with here | there
    · exact (Prod.mk.inj here).2
    · exact absurd (List.mem_map_of_mem there) once
  rw [value_] at decoded
  obtain ⟨unstopped, kept⟩ :=
    (utf8Decode_meaning_iff (List.takeWhile_prefix _)).mp decoded
  have clean := not_mem_stopped value
  rw [show stopped value = value from unstopped] at clean
  exact ⟨kept, clean⟩

include plainKey in
/-- A query of one pair is read back exactly when its value is plain and nothing else was
asked for. -/
theorem readBack_last_iff {unsent : List Pair} (once : key ∉ unsent.map Prod.fst) :
    (∃ pairs, readBack (pairText key value) = some pairs ∧ pairs.Perm ((key, value) :: unsent)) ↔
      Plain value ∧ unsent = [] := by
  constructor
  · rintro ⟨pairs, read, same⟩
    have ended := read
    rw [← List.append_nil (pairText key value)] at ended
    have plain : Plain value := plain_of_readBack plainKey (Or.inl rfl) ended same once
    rw [readBack_last plainKey plain, Option.some.injEq] at read
    rw [← read] at same
    exact ⟨plain, List.nil_perm.mp (List.Perm.cons_inv same)⟩
  · rintro ⟨plain, rfl⟩
    exact ⟨[(key, value)], readBack_last plainKey plain, List.Perm.refl _⟩

include plainKey in
/-- The first pair of a query is read back exactly when its value is plain and the rest is
read back. -/
theorem readBack_pair_iff {rest : List Char} {others : List Pair}
    (once : key ∉ others.map Prod.fst) :
    (∃ pairs, readBack (pairText key value ++ '&' :: rest) = some pairs ∧
        pairs.Perm ((key, value) :: others)) ↔
      Plain value ∧ ∃ pairs, readBack rest = some pairs ∧ pairs.Perm others := by
  constructor
  · rintro ⟨pairs, read, same⟩
    have plain : Plain value :=
      plain_of_readBack plainKey (Or.inr ⟨_, rfl⟩) read same once
    refine ⟨plain, ?_⟩
    rw [readBack_pair plainKey plain] at read
    obtain ⟨later, readRest, rfl⟩ := Option.map_eq_some_iff.mp read
    exact ⟨later, readRest, List.Perm.cons_inv same⟩
  · rintro ⟨plain, later, readRest, same⟩
    refine ⟨(key, value) :: later, ?_, List.Perm.cons _ same⟩
    rw [readBack_pair plainKey plain, readRest]
    rfl

end OnePair

/-! ### Reading a query back -/

/-- A query is read back as what was asked for, each key once, exactly when every value is
plain and nothing that was asked for is left out. -/
theorem readBack_render_iff {last : Pair} {parts : List Part} {unsent : List Pair}
    (keys : ∀ pair ∈ sent last parts, PlainKey pair.1)
    (once : ((sent last parts ++ unsent).map Prod.fst).Nodup) :
    (∃ pairs, readBack (render last parts) = some pairs ∧
        pairs.Perm (sent last parts ++ unsent)) ↔
      (∀ pair ∈ sent last parts, Plain pair.2) ∧ unsent = [] := by
  induction parts with
  | nil =>
      obtain ⟨key, value⟩ := last
      have all : sent (key, value) [] ++ unsent = (key, value) :: unsent := rfl
      rw [all, List.map_cons, List.nodup_cons] at once
      have plainKey : PlainKey key := keys (key, value) List.mem_cons_self
      have single : (∀ pair ∈ sent (key, value) [], Plain pair.2) ↔ Plain value :=
        List.forall_mem_singleton
      rw [all, single]
      exact readBack_last_iff plainKey once.1
  | cons part rest ih =>
      cases part with
      | gap =>
          have text : render last (.gap :: rest) = '&' :: render last rest := rfl
          rw [text, readBack_gap]
          exact ih keys once
      | pair key value =>
          have text : render last (.pair key value :: rest) =
              pairText key value ++ '&' :: render last rest := rfl
          have all : sent last (.pair key value :: rest) = (key, value) :: sent last rest := rfl
          rw [all] at keys once ⊢
          rw [List.cons_append, List.map_cons, List.nodup_cons] at once
          have plainKey : PlainKey key := keys (key, value) List.mem_cons_self
          have later := ih (fun pair inside => keys pair (List.mem_cons_of_mem _ inside)) once.2
          rw [text, List.forall_mem_cons, List.cons_append, and_assoc, ← later]
          exact readBack_pair_iff plainKey once.1

theorem queryOf_append {first : List Char} (unfragmented : '#' ∉ first) (path : '?' ∉ first)
    (query : List Char) : queryOf (first ++ '?' :: query) = some (parsed query) := by
  unfold queryOf
  rw [takeWhile_append_of_not_mem unfragmented, List.takeWhile_cons_of_pos (by decide),
    dropWhile_append_of_not_mem path, List.dropWhile_cons_of_neg (by decide)]
  rfl

end FiksOpp.QueryStrings
