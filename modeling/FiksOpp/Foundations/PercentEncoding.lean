/-
Percent encoding of the text of a query, and what a decoder reads back.

A parser of addresses keeps the escapes it finds and escapes what an address may not
hold, so every character but a plus sign decodes to itself unless it is part of an
escape.  A text decodes to itself, or is extended by decoding, only when it has neither.
-/

import Mathlib.Algebra.GroupWithZero.Nat
import Mathlib.Data.List.Basic

namespace FiksOpp.PercentEncoding

def hexValue (digit : Char) : Option ℕ :=
  if '0' ≤ digit ∧ digit ≤ '9' then some (digit.toNat - 48)
  else if 'A' ≤ digit ∧ digit ≤ 'F' then some (digit.toNat - 55)
  else if 'a' ≤ digit ∧ digit ≤ 'f' then some (digit.toNat - 87)
  else none

def hexDigit (value : ℕ) : Char :=
  Char.ofNat (if value < 10 then 48 + value else 55 + value)

def escapeOf (high low : Char) : Option UInt8 :=
  match hexValue high, hexValue low with
  | some first, some second => some (UInt8.ofNat (16 * first + second))
  | _, _ => none

inductive Token where
  | escape (byte : UInt8)
  | literal (char : Char)
  deriving DecidableEq, Repr

/-- A percent sign that starts no escape is a character like any other. -/
def tokens : List Char → List Token
  | [] => []
  | [first] => [.literal first]
  | [first, second] => [.literal first, .literal second]
  | first :: second :: third :: rest =>
      if first = '%' then
        match escapeOf second third with
        | some byte => .escape byte :: tokens rest
        | none => .literal first :: tokens (second :: third :: rest)
      else .literal first :: tokens (second :: third :: rest)

def percentEncode (byte : UInt8) : List Char :=
  ['%', hexDigit (byte.toNat / 16), hexDigit (byte.toNat % 16)]

def unreserved (char : Char) : Bool :=
  char.isAlphanum || ['-', '.', '_', '~'].contains char

/-- The characters that the query of an address may hold as they are; 39 is the
apostrophe. -/
def queryChar (char : Char) : Bool :=
  unreserved char || char = Char.ofNat 39 ||
    ['!', '$', '&', '(', ')', '*', '+', ',', ';', '=', ':', '@', '/', '?'].contains char

def normalizeToken : Token → List Char
  | .escape byte =>
      if unreserved (Char.ofNat byte.toNat) then [Char.ofNat byte.toNat]
      else percentEncode byte
  | .literal char =>
      if char = '%' then percentEncode 37
      else if queryChar char then [char]
      else (String.utf8EncodeChar char).flatMap percentEncode

def normalize (text : List Char) : List Char :=
  (tokens text).flatMap normalizeToken

/-- Nothing where the text has a broken escape or a character beyond ASCII. -/
def componentBytes : List Char → Option (List UInt8)
  | [] => some []
  | '%' :: high :: low :: rest =>
      match escapeOf high low with
      | some byte => (componentBytes rest).map (byte :: ·)
      | none => none
  | char :: rest =>
      if char = '%' then none
      else if char = '+' then (componentBytes rest).map (32 :: ·)
      else if char.toNat < 128 then (componentBytes rest).map (UInt8.ofNat char.toNat :: ·)
      else none

def utf8Decode (bytes : List UInt8) : Option (List Char) :=
  bytes.toByteArray.utf8Decode?.map Array.toList

def decodeComponent (text : List Char) : Option (List Char) :=
  (componentBytes text).bind utf8Decode

def Token.meaning : Token → List UInt8
  | .escape byte => [byte]
  | .literal char => if char = '+' then [32] else String.utf8EncodeChar char

def meaning (text : List Char) : List UInt8 :=
  (tokens text).flatMap Token.meaning

theorem hexValue_hexDigit (value : Fin 16) : hexValue (hexDigit value) = some value.val := by
  revert value
  decide

theorem escapeOf_hexDigit (byte : UInt8) :
    escapeOf (hexDigit (byte.toNat / 16)) (hexDigit (byte.toNat % 16)) = some byte := by
  have bound : byte.toNat < 256 := byte.toNat_lt
  have high := hexValue_hexDigit ⟨byte.toNat / 16, by omega⟩
  have low := hexValue_hexDigit ⟨byte.toNat % 16, by omega⟩
  unfold escapeOf
  dsimp only at high low
  rw [high, low]
  dsimp only
  rw [Nat.div_add_mod, UInt8.ofNat_toNat]

theorem componentBytes_percentEncode (byte : UInt8) (rest : List Char) :
    componentBytes (percentEncode byte ++ rest) = (componentBytes rest).map (byte :: ·) := by
  change componentBytes ('%' :: _ :: _ :: rest) = _
  rw [componentBytes, escapeOf_hexDigit]

theorem componentBytes_flatMap_percentEncode (bytes : List UInt8) (rest : List Char) :
    componentBytes (bytes.flatMap percentEncode ++ rest) =
      (componentBytes rest).map (bytes ++ ·) := by
  induction bytes with
  | nil => simp
  | cons byte bytes ih =>
      rw [List.flatMap_cons, List.append_assoc, componentBytes_percentEncode, ih, Option.map_map]
      rfl

theorem componentBytes_cons {char : Char} (percent : char ≠ '%') (rest : List Char) :
    componentBytes (char :: rest) =
      if char = '+' then (componentBytes rest).map (32 :: ·)
      else if char.toNat < 128 then (componentBytes rest).map (UInt8.ofNat char.toNat :: ·)
      else none := by
  rw [componentBytes]
  · rw [if_neg percent]
  · intro _ _ _ same _
    exact percent same

theorem utf8EncodeChar_of_ascii {char : Char} (ascii : char.toNat < 128) :
    String.utf8EncodeChar char = [UInt8.ofNat char.toNat] := by
  unfold String.utf8EncodeChar
  dsimp only
  exact if_pos (Nat.le_of_lt_succ ascii)

theorem ascii_of_isAlphanum {char : Char} (letter : char.isAlphanum = true) :
    char.toNat < 128 := by
  unfold Char.isAlphanum Char.isAlpha Char.isUpper Char.isLower Char.isDigit at letter
  simp only [Bool.or_eq_true, Bool.and_eq_true, decide_eq_true_iff, ge_iff_le,
    UInt32.le_iff_toNat_le] at letter
  change char.val.toNat < 128
  have last : 'Z'.val.toNat = 90 ∧ 'z'.val.toNat = 122 ∧ '9'.val.toNat = 57 := ⟨rfl, rfl, rfl⟩
  omega

theorem ascii_of_unreserved {char : Char} (plain : unreserved char = true) :
    char.toNat < 128 := by
  unfold unreserved at plain
  rcases Bool.or_eq_true_iff.mp plain with letter | mark
  · exact ascii_of_isAlphanum letter
  · simp only [List.contains_iff_mem, List.mem_cons, List.not_mem_nil, or_false] at mark
    rcases mark with rfl | rfl | rfl | rfl <;> decide

theorem ascii_of_queryChar {char : Char} (allowed : queryChar char = true) :
    char.toNat < 128 := by
  unfold queryChar at allowed
  simp only [Bool.or_eq_true, decide_eq_true_iff, List.contains_iff_mem, List.mem_cons,
    List.not_mem_nil, or_false] at allowed
  rcases allowed with (plain | rfl) | mark
  · exact ascii_of_unreserved plain
  · decide
  · rcases mark with rfl | rfl | rfl | rfl | rfl | rfl | rfl | rfl | rfl | rfl | rfl | rfl |
      rfl | rfl <;> decide

theorem ofNat_toNat_byte (byte : UInt8) :
    UInt8.ofNat (Char.ofNat byte.toNat).toNat = byte := by
  have bound : byte.toNat < 256 := byte.toNat_lt
  have valid : byte.toNat.isValidChar := Or.inl (by omega)
  unfold Char.ofNat
  rw [dif_pos valid]
  exact UInt8.ofNat_toNat

theorem componentBytes_normalizeToken (token : Token) (rest : List Char) :
    componentBytes (normalizeToken token ++ rest) =
      (componentBytes rest).map (token.meaning ++ ·) := by
  cases token with
  | escape byte =>
      unfold normalizeToken
      dsimp only
      by_cases plain : unreserved (Char.ofNat byte.toNat) = true
      · have ascii := ascii_of_unreserved plain
        have percent : Char.ofNat byte.toNat ≠ '%' := by
          intro same
          rw [same] at plain
          exact absurd plain (by decide)
        have plus : Char.ofNat byte.toNat ≠ '+' := by
          intro same
          rw [same] at plain
          exact absurd plain (by decide)
        rw [if_pos plain, List.singleton_append, componentBytes_cons percent, if_neg plus,
          if_pos ascii, ofNat_toNat_byte]
        rfl
      · rw [if_neg plain]
        exact componentBytes_percentEncode byte rest
  | literal char =>
      unfold normalizeToken Token.meaning
      dsimp only
      by_cases percent : char = '%'
      · subst percent
        exact componentBytes_percentEncode 37 rest
      · rw [if_neg percent]
        by_cases allowed : queryChar char = true
        · rw [if_pos allowed, List.singleton_append, componentBytes_cons percent]
          by_cases plus : char = '+'
          · rw [if_pos plus, if_pos plus]
            rfl
          · have ascii := ascii_of_queryChar allowed
            rw [if_neg plus, if_neg plus, if_pos ascii, utf8EncodeChar_of_ascii ascii]
            rfl
        · have plus : char ≠ '+' := by
            rintro rfl
            exact allowed (by decide)
          rw [if_neg allowed, if_neg plus]
          exact componentBytes_flatMap_percentEncode _ rest

theorem componentBytes_normalize (text : List Char) :
    componentBytes (normalize text) = some (meaning text) := by
  unfold normalize meaning
  induction tokens text with
  | nil => rfl
  | cons token rest ih =>
      rw [List.flatMap_cons, componentBytes_normalizeToken, ih]
      rfl

theorem decodeComponent_normalize (text : List Char) :
    decodeComponent (normalize text) = utf8Decode (meaning text) := by
  unfold decodeComponent
  rw [componentBytes_normalize, Option.bind_some]

/-! ### Encoded characters -/

theorem utf8Decode_eq_some_iff (bytes : List UInt8) (chars : List Char) :
    utf8Decode bytes = some chars ↔ bytes = chars.flatMap String.utf8EncodeChar := by
  unfold utf8Decode
  constructor
  · intro decoded
    obtain ⟨array, read, rfl⟩ := Option.map_eq_some_iff.mp decoded
    have valid : bytes.toByteArray.utf8Decode?.isSome = true := by rw [read]; rfl
    have encoded : (bytes.toByteArray.utf8Decode?.get valid).toList.utf8Encode =
        bytes.toByteArray := ByteArray.utf8Encode_get_utf8Decode?
    have same : bytes.toByteArray.utf8Decode?.get valid = array :=
      Option.get_of_eq_some valid read
    rw [same, List.utf8Encode] at encoded
    exact (List.toByteArray_inj.mp encoded).symm
  · rintro rfl
    have read : chars.utf8Encode.utf8Decode? = some chars.toArray := List.utf8Decode?_utf8Encode
    rw [List.utf8Encode] at read
    rw [read]
    rfl

def startsChar (byte : UInt8) : Bool :=
  decide byte.IsUTF8FirstByte

theorem countP_utf8EncodeChar (char : Char) :
    (String.utf8EncodeChar char).countP startsChar = 1 := by
  have starts : ∀ index (bound : index < (String.utf8EncodeChar char).length),
      (String.utf8EncodeChar char)[index].IsUTF8FirstByte ↔ index = 0 :=
    fun index bound => UInt8.isUTF8FirstByte_getElem_utf8EncodeChar
  cases bytes : String.utf8EncodeChar char with
  | nil => exact absurd bytes String.utf8EncodeChar_ne_nil
  | cons first rest =>
      rw [bytes] at starts
      have head : first.IsUTF8FirstByte := (starts 0 (Nat.succ_pos _)).mpr rfl
      have others : rest.countP startsChar = 0 := by
        rw [List.countP_eq_zero]
        intro byte inside starting
        obtain ⟨index, bound, rfl⟩ := List.getElem_of_mem inside
        have zero := (starts (index + 1) (Nat.succ_lt_succ bound)).mp
          (of_decide_eq_true starting)
        exact absurd zero (Nat.succ_ne_zero index)
      have counted : startsChar first = true := decide_eq_true head
      rw [List.countP_cons_of_pos counted, others]

theorem countP_utf8 (chars : List Char) :
    (chars.flatMap String.utf8EncodeChar).countP startsChar =
      chars.length := by
  induction chars with
  | nil => rfl
  | cons char rest ih =>
      rw [List.flatMap_cons, List.countP_append, countP_utf8EncodeChar, ih, List.length_cons]
      omega

theorem countP_meaning_le (token : Token) :
    token.meaning.countP startsChar ≤ 1 := by
  cases token with
  | escape byte => exact List.countP_le_length
  | literal char =>
      unfold Token.meaning
      dsimp only
      split
      · exact List.countP_le_length
      · exact Nat.le_of_eq (countP_utf8EncodeChar char)

def Token.size : Token → ℕ
  | .escape _ => 3
  | .literal _ => 1

def Token.isLiteral : Token → Bool
  | .escape _ => false
  | .literal _ => true

theorem sum_size_tokens (text : List Char) :
    ((tokens text).map Token.size).sum = text.length := by
  induction text using tokens.induct with
  | case1 => rfl
  | case2 first => rfl
  | case3 first second => rfl
  | case4 second third rest byte escaped ih =>
      rw [tokens, if_pos rfl, escaped]
      change 3 + ((tokens rest).map Token.size).sum = rest.length + 3
      omega
  | case5 second third rest unescaped ih =>
      rw [tokens, if_pos rfl, unescaped]
      change 1 + ((tokens (second :: third :: rest)).map Token.size).sum = _ + 1
      omega
  | case6 first second third rest percent ih =>
      rw [tokens, if_neg percent]
      change 1 + ((tokens (second :: third :: rest)).map Token.size).sum = _ + 1
      omega

theorem length_le_sum_size (parts : List Token) :
    parts.length ≤ (parts.map Token.size).sum := by
  induction parts with
  | nil => exact Nat.le_refl 0
  | cons part rest ih =>
      rw [List.length_cons, List.map_cons, List.sum_cons]
      cases part with
      | escape byte => change _ ≤ 3 + _; omega
      | literal char => change _ ≤ 1 + _; omega

theorem isLiteral_of_sum_size_le {parts : List Token}
    (tight : (parts.map Token.size).sum ≤ parts.length) :
    ∀ part ∈ parts, part.isLiteral = true := by
  induction parts with
  | nil =>
      intro part inside
      exact absurd inside List.not_mem_nil
  | cons part rest ih =>
      have shorter := length_le_sum_size rest
      rw [List.length_cons, List.map_cons, List.sum_cons] at tight
      cases part with
      | escape byte =>
          change 3 + _ ≤ _ at tight
          omega
      | literal char =>
          change 1 + _ ≤ _ at tight
          intro other inside
          rcases List.mem_cons.mp inside with rfl | later
          · rfl
          · exact ih (by omega) other later

theorem tokens_eq_map {text : List Char}
    (literals : ∀ part ∈ tokens text, part.isLiteral = true) :
    tokens text = text.map Token.literal := by
  induction text using tokens.induct with
  | case1 => rfl
  | case2 first => rfl
  | case3 first second => rfl
  | case4 second third rest byte escaped ih =>
      rw [tokens, if_pos rfl, escaped] at literals
      cases literals _ List.mem_cons_self
  | case5 second third rest unescaped ih =>
      rw [tokens, if_pos rfl, unescaped] at literals ⊢
      dsimp only at literals ⊢
      rw [ih (fun part inside => literals part (List.mem_cons_of_mem _ inside))]
      rfl
  | case6 first second third rest percent ih =>
      rw [tokens, if_neg percent] at literals ⊢
      rw [ih (fun part inside => literals part (List.mem_cons_of_mem _ inside))]
      rfl

def Kept (text : List Char) : Prop :=
  (∀ part ∈ tokens text, part.isLiteral = true) ∧ '+' ∉ text

instance (text : List Char) : Decidable (Kept text) :=
  inferInstanceAs (Decidable (_ ∧ _))

theorem isLiteral_of_not_mem {text : List Char} (unescaped : '%' ∉ text) :
    ∀ part ∈ tokens text, part.isLiteral = true := by
  have literal : ∀ char : Char, (Token.literal char).isLiteral = true := fun _ => rfl
  induction text using tokens.induct with
  | case1 => simp [tokens]
  | case2 first => simp [tokens, literal]
  | case3 first second => simp [tokens, literal]
  | case4 second third rest byte escaped ih => exact absurd List.mem_cons_self unescaped
  | case5 second third rest kept ih => exact absurd List.mem_cons_self unescaped
  | case6 first second third rest percent ih =>
      rw [tokens, if_neg percent, List.forall_mem_cons]
      exact ⟨rfl, ih (List.not_mem_of_not_mem_cons unescaped)⟩

def plusToSpace (char : Char) : Char :=
  if char = '+' then ' ' else char

theorem meaning_of_literals {text : List Char}
    (literals : ∀ part ∈ tokens text, part.isLiteral = true) :
    meaning text = (text.map plusToSpace).flatMap String.utf8EncodeChar := by
  unfold meaning
  rw [tokens_eq_map literals, List.flatMap_map, List.flatMap_map]
  congr 1
  funext char
  unfold Token.meaning plusToSpace
  dsimp only
  split <;> rfl

theorem map_plusToSpace_eq_iff (text : List Char) :
    text.map plusToSpace = text ↔ '+' ∉ text := by
  induction text with
  | nil => simp
  | cons char rest ih =>
      rw [List.map_cons, List.cons.injEq, ih, List.mem_cons, not_or]
      refine and_congr_left fun _ => ?_
      unfold plusToSpace
      constructor
      · rintro same rfl
        exact absurd same (by decide)
      · intro plus
        rw [if_neg (fun same => plus same.symm)]

/-- What is read of a part of a text is the whole text only if it is the text, and kept. -/
theorem utf8Decode_meaning_iff {part text : List Char} (part_ : part <+: text) :
    utf8Decode (meaning part) = some text ↔ part = text ∧ Kept text := by
  rw [utf8Decode_eq_some_iff]
  constructor
  · intro encoded
    have chars : (meaning part).countP startsChar = text.length := by
      rw [encoded, countP_utf8]
    have starts : (meaning part).countP startsChar ≤ (tokens part).length := by
      unfold meaning
      induction tokens part with
      | nil => exact Nat.le_refl 0
      | cons token rest ih =>
          rw [List.flatMap_cons, List.countP_append, List.length_cons]
          have one := countP_meaning_le token
          omega
    have sizes := sum_size_tokens part
    have tokenCount := length_le_sum_size (tokens part)
    have shorter := part_.length_le
    have same : part = text := part_.eq_of_length (by omega)
    subst same
    have literals : ∀ token ∈ tokens part, token.isLiteral = true :=
      isLiteral_of_sum_size_le (by omega)
    refine ⟨rfl, literals, ?_⟩
    rw [meaning_of_literals literals] at encoded
    have decoded := (utf8Decode_eq_some_iff _ part).mpr encoded
    have spaced := (utf8Decode_eq_some_iff _ (part.map plusToSpace)).mpr rfl
    rw [spaced, Option.some.injEq] at decoded
    exact (map_plusToSpace_eq_iff part).mp decoded
  · rintro ⟨rfl, literals, plus⟩
    rw [meaning_of_literals literals, (map_plusToSpace_eq_iff part).mpr plus]

/-! ### Marks between components -/

/-- A mark separates components: it is kept as it is and is no part of an escape. -/
structure IsMark (mark : Char) : Prop where
  kept : queryChar mark = true
  reserved : unreserved mark = false
  percent : mark ≠ '%'
  digit : hexValue mark = none

theorem tokens_cons {first : Char} {rest : List Char}
    (unescaped : first = '%' → ∀ high low tail, rest = high :: low :: tail →
      escapeOf high low = none) :
    tokens (first :: rest) = .literal first :: tokens rest := by
  match rest, unescaped with
  | [], _ => rfl
  | [second], _ => rfl
  | second :: third :: tail, unescaped =>
      rw [tokens]
      by_cases percent : first = '%'
      · rw [if_pos percent, unescaped percent second third tail rfl]
      · rw [if_neg percent]

theorem escapeOf_of_high {mark : Char} (digit : hexValue mark = none) (low : Char) :
    escapeOf mark low = none := by
  unfold escapeOf
  rw [digit]

theorem escapeOf_of_low {mark : Char} (digit : hexValue mark = none) (high : Char) :
    escapeOf high mark = none := by
  unfold escapeOf
  rw [digit]
  cases hexValue high <;> rfl

theorem tokens_append_mark {mark : Char} (isMark : IsMark mark) (left right : List Char) :
    tokens (left ++ mark :: right) = tokens left ++ .literal mark :: tokens right := by
  have alone : tokens (mark :: right) = .literal mark :: tokens right :=
    tokens_cons fun percent => absurd percent isMark.percent
  induction left using tokens.induct with
  | case1 => exact alone
  | case2 first =>
      have step : tokens (first :: mark :: right) = .literal first :: tokens (mark :: right) := by
        apply tokens_cons
        intro _ high low tail same
        rw [← (List.cons.inj same).1]
        exact escapeOf_of_high isMark.digit low
      exact step.trans (congrArg _ alone)
  | case3 first second =>
      have last : tokens (second :: mark :: right) = .literal second :: tokens (mark :: right) := by
        apply tokens_cons
        intro _ high low tail same
        rw [← (List.cons.inj same).1]
        exact escapeOf_of_high isMark.digit low
      have step : tokens (first :: second :: mark :: right) =
          .literal first :: tokens (second :: mark :: right) := by
        apply tokens_cons
        intro _ high low tail same
        rw [← (List.cons.inj (List.cons.inj same).2).1]
        exact escapeOf_of_low isMark.digit high
      rw [last, alone] at step
      exact step
  | case4 second third rest byte escaped ih =>
      change tokens ('%' :: second :: third :: (rest ++ mark :: right)) = _
      rw [tokens, tokens, if_pos rfl, if_pos rfl, escaped]
      exact congrArg _ ih
  | case5 second third rest unescaped ih =>
      change tokens ('%' :: second :: third :: (rest ++ mark :: right)) = _
      rw [tokens, tokens, if_pos rfl, if_pos rfl, unescaped]
      exact congrArg _ ih
  | case6 first second third rest percent ih =>
      change tokens (first :: second :: third :: (rest ++ mark :: right)) = _
      rw [tokens, tokens, if_neg percent, if_neg percent]
      exact congrArg _ ih

theorem normalize_append_mark {mark : Char} (isMark : IsMark mark) (left right : List Char) :
    normalize (left ++ mark :: right) = normalize left ++ mark :: normalize right := by
  have kept : normalizeToken (.literal mark) = [mark] := by
    unfold normalizeToken
    dsimp only
    rw [if_neg isMark.percent, if_pos isMark.kept]
  unfold normalize
  rw [tokens_append_mark isMark, List.flatMap_append, List.flatMap_cons, kept]
  rfl

theorem not_mem_percentEncode {mark : Char} (percent : mark ≠ '%') (digit : hexValue mark = none)
    (byte : UInt8) : mark ∉ percentEncode byte := by
  have bound : byte.toNat < 256 := byte.toNat_lt
  have high := hexValue_hexDigit ⟨byte.toNat / 16, by omega⟩
  have low := hexValue_hexDigit ⟨byte.toNat % 16, by omega⟩
  intro inside
  unfold percentEncode at inside
  simp only [List.mem_cons, List.not_mem_nil, or_false] at inside
  rcases inside with same | same | same
  · exact percent same
  · rw [← same, digit] at high
    cases high
  · rw [← same, digit] at low
    cases low

theorem eq_literal_of_mem_normalizeToken {mark : Char} (isMark : IsMark mark) {token : Token}
    (inside : mark ∈ normalizeToken token) : token = .literal mark := by
  cases token with
  | escape byte =>
      unfold normalizeToken at inside
      dsimp only at inside
      split at inside
      · next plain =>
          rw [← List.mem_singleton.mp inside, isMark.reserved] at plain
          cases plain
      · exact absurd inside (not_mem_percentEncode isMark.percent isMark.digit byte)
  | literal char =>
      unfold normalizeToken at inside
      dsimp only at inside
      split at inside
      · exact absurd inside (not_mem_percentEncode isMark.percent isMark.digit 37)
      · split at inside
        · rw [List.mem_singleton.mp inside]
        · obtain ⟨byte, _, encoded⟩ := List.mem_flatMap.mp inside
          exact absurd encoded (not_mem_percentEncode isMark.percent isMark.digit byte)

theorem mem_of_literal_mem_tokens {char : Char} {text : List Char}
    (inside : Token.literal char ∈ tokens text) : char ∈ text := by
  induction text using tokens.induct with
  | case1 => cases inside
  | case2 first =>
      cases List.mem_singleton.mp inside
      exact List.mem_cons_self
  | case3 first second =>
      rcases List.mem_cons.mp inside with same | later
      · cases same
        exact List.mem_cons_self
      · cases List.mem_singleton.mp later
        exact List.mem_cons_of_mem _ List.mem_cons_self
  | case4 second third rest byte escaped ih =>
      rw [tokens, if_pos rfl, escaped] at inside
      rcases List.mem_cons.mp inside with same | later
      · cases same
      · exact List.mem_cons_of_mem _ (List.mem_cons_of_mem _ (List.mem_cons_of_mem _ (ih later)))
  | case5 second third rest unescaped ih =>
      rw [tokens, if_pos rfl, unescaped] at inside
      rcases List.mem_cons.mp inside with same | later
      · cases same
        exact List.mem_cons_self
      · exact List.mem_cons_of_mem _ (ih later)
  | case6 first second third rest percent ih =>
      rw [tokens, if_neg percent] at inside
      rcases List.mem_cons.mp inside with same | later
      · cases same
        exact List.mem_cons_self
      · exact List.mem_cons_of_mem _ (ih later)

theorem not_mem_normalize {mark : Char} (isMark : IsMark mark) {text : List Char}
    (absent : mark ∉ text) : mark ∉ normalize text := by
  intro inside
  obtain ⟨token, member, made⟩ := List.mem_flatMap.mp inside
  rw [eq_literal_of_mem_normalizeToken isMark made] at member
  exact absent (mem_of_literal_mem_tokens member)

end FiksOpp.PercentEncoding
