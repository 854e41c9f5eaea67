/-
Encoders that put any text into one component of an address.

An encoder keeps the unreserved characters and perhaps some marks, and escapes the bytes of
all others.  A parser of addresses leaves an encoded text as it is, a decoder reads the text
back, and only a text of kept characters is its own encoding.
-/

import FiksOpp.Foundations.PercentEncoding

namespace FiksOpp.PercentEncoding

structure Encoder where
  keeps : Char → Bool
  unreserved_kept : ∀ char, unreserved char = true → keeps char = true
  kept_allowed : ∀ char, keeps char = true → queryChar char = true
  marks_escaped : ∀ mark ∈ ['+', '/', '?'], keeps mark = false

namespace Encoder

variable (encoder : Encoder)

def encodeChar (char : Char) : List Char :=
  if encoder.keeps char then [char] else (String.utf8EncodeChar char).flatMap percentEncode

def encode (text : List Char) : List Char :=
  text.flatMap encoder.encodeChar

variable {encoder}

theorem keeps_eq_false {char : Char} (outside : queryChar char = false) :
    encoder.keeps char = false := by
  rw [← Bool.not_eq_true]
  intro kept
  rw [encoder.kept_allowed char kept] at outside
  cases outside

theorem percent_escaped : encoder.keeps '%' = false :=
  keeps_eq_false (by decide)

theorem ne_percent_of_keeps {char : Char} (kept : encoder.keeps char = true) : char ≠ '%' := by
  rintro rfl
  rw [percent_escaped] at kept
  cases kept

theorem encodeChar_of_keeps {char : Char} (kept : encoder.keeps char = true) :
    encoder.encodeChar char = [char] :=
  if_pos kept

theorem encodeChar_of_not_keeps {char : Char} (escaped : encoder.keeps char = false) :
    encoder.encodeChar char = (String.utf8EncodeChar char).flatMap percentEncode := by
  unfold encodeChar
  rw [escaped]
  rfl

theorem componentBytes_encodeChar (char : Char) (rest : List Char) :
    componentBytes (encoder.encodeChar char ++ rest) =
      (componentBytes rest).map (String.utf8EncodeChar char ++ ·) := by
  cases kept : encoder.keeps char with
  | true =>
      have plus : char ≠ '+' := by
        rintro rfl
        rw [encoder.marks_escaped _ (by decide)] at kept
        cases kept
      have ascii := ascii_of_queryChar (encoder.kept_allowed char kept)
      rw [encodeChar_of_keeps kept, List.singleton_append,
        componentBytes_cons (ne_percent_of_keeps kept), if_neg plus, if_pos ascii,
        utf8EncodeChar_of_ascii ascii]
      rfl
  | false =>
      rw [encodeChar_of_not_keeps kept]
      exact componentBytes_flatMap_percentEncode _ rest

theorem decodeComponent_encode (text : List Char) :
    decodeComponent (encoder.encode text) = some text := by
  have bytes : componentBytes (encoder.encode text) =
      some (text.flatMap String.utf8EncodeChar) := by
    unfold encode
    induction text with
    | nil => rfl
    | cons char rest ih =>
        rw [List.flatMap_cons, componentBytes_encodeChar, ih]
        rfl
  unfold decodeComponent
  rw [bytes, Option.bind_some]
  exact (utf8Decode_eq_some_iff _ _).mpr rfl

/-! ### What a parser of addresses keeps -/

theorem tokens_percentEncode (byte : UInt8) (rest : List Char) :
    tokens (percentEncode byte ++ rest) = .escape byte :: tokens rest := by
  change tokens ('%' :: _ :: _ :: rest) = _
  rw [tokens, if_pos rfl, escapeOf_hexDigit]

theorem tokens_flatMap_percentEncode (bytes : List UInt8) (rest : List Char) :
    tokens (bytes.flatMap percentEncode ++ rest) = bytes.map Token.escape ++ tokens rest := by
  induction bytes with
  | nil => rfl
  | cons byte bytes ih =>
      rw [List.flatMap_cons, List.append_assoc, tokens_percentEncode, ih]
      rfl

theorem toNat_ofNat_byte (byte : UInt8) : (Char.ofNat byte.toNat).toNat = byte.toNat := by
  have bound : byte.toNat < 256 := byte.toNat_lt
  have valid : byte.toNat.isValidChar := Or.inl (by omega)
  unfold Char.ofNat
  rw [dif_pos valid]
  rfl

theorem le_toNat_of_mem_utf8 {char : Char} (beyond : ¬ char.toNat < 128) {byte : UInt8}
    (member : byte ∈ String.utf8EncodeChar char) : 128 ≤ byte.toNat := by
  have large : ¬ char.val.toNat ≤ 0x7f := fun small => beyond (Nat.lt_succ_of_le small)
  unfold String.utf8EncodeChar at member
  dsimp only at member
  rw [if_neg large] at member
  split at member
  · simp only [List.mem_cons, List.not_mem_nil, or_false] at member
    rcases member with rfl | rfl <;> rw [UInt8.toNat_ofNat'] <;> omega
  · split at member
    · simp only [List.mem_cons, List.not_mem_nil, or_false] at member
      rcases member with rfl | rfl | rfl <;> rw [UInt8.toNat_ofNat'] <;> omega
    · simp only [List.mem_cons, List.not_mem_nil, or_false] at member
      rcases member with rfl | rfl | rfl | rfl <;> rw [UInt8.toNat_ofNat'] <;> omega

theorem reserved_of_mem_utf8 {char : Char} (escaped : encoder.keeps char = false) {byte : UInt8}
    (member : byte ∈ String.utf8EncodeChar char) :
    unreserved (Char.ofNat byte.toNat) = false := by
  rw [← Bool.not_eq_true]
  intro plain
  have ascii := ascii_of_unreserved plain
  rw [toNat_ofNat_byte] at ascii
  by_cases small : char.toNat < 128
  · rw [utf8EncodeChar_of_ascii small] at member
    have same : Char.ofNat byte.toNat = char := by
      apply Char.ext
      apply UInt32.toNat_inj.mp
      change (Char.ofNat byte.toNat).toNat = char.toNat
      rw [toNat_ofNat_byte, List.mem_singleton.mp member, UInt8.toNat_ofNat']
      omega
    rw [same] at plain
    rw [encoder.unreserved_kept char plain] at escaped
    cases escaped
  · have large := le_toNat_of_mem_utf8 small member
    omega

theorem normalizeToken_escape {byte : UInt8}
    (reserved : unreserved (Char.ofNat byte.toNat) = false) :
    normalizeToken (.escape byte) = percentEncode byte := by
  unfold normalizeToken
  dsimp only
  rw [reserved, if_neg Bool.false_ne_true]

theorem normalize_encode (text : List Char) :
    normalize (encoder.encode text) = encoder.encode text := by
  induction text with
  | nil => rfl
  | cons char rest ih =>
      change normalize (encoder.encodeChar char ++ encoder.encode rest) =
        encoder.encodeChar char ++ encoder.encode rest
      unfold normalize at ih ⊢
      cases kept : encoder.keeps char with
      | true =>
          have percent := ne_percent_of_keeps kept
          have token : normalizeToken (.literal char) = [char] := by
            unfold normalizeToken
            dsimp only
            rw [if_neg percent, if_pos (encoder.kept_allowed char kept)]
          rw [encodeChar_of_keeps kept, List.singleton_append,
            tokens_cons (fun same => absurd same percent), List.flatMap_cons, token, ih]
          rfl
      | false =>
          have escapes : ((String.utf8EncodeChar char).map Token.escape).flatMap normalizeToken =
              (String.utf8EncodeChar char).flatMap percentEncode := by
            rw [List.flatMap_map]
            exact List.flatMap_congr fun byte member =>
              normalizeToken_escape (reserved_of_mem_utf8 kept member)
          rw [encodeChar_of_not_keeps kept, tokens_flatMap_percentEncode, List.flatMap_append,
            escapes, ih]

theorem not_mem_encode {mark : Char} (escaped : encoder.keeps mark = false)
    (percent : mark ≠ '%') (digit : hexValue mark = none) (text : List Char) :
    mark ∉ encoder.encode text := by
  intro inside
  obtain ⟨char, _, made⟩ := List.mem_flatMap.mp inside
  cases kept : encoder.keeps char with
  | true =>
      rw [encodeChar_of_keeps kept] at made
      rw [← List.mem_singleton.mp made, escaped] at kept
      cases kept
  | false =>
      rw [encodeChar_of_not_keeps kept] at made
      obtain ⟨byte, _, encoded⟩ := List.mem_flatMap.mp made
      exact absurd encoded (not_mem_percentEncode percent digit byte)

theorem one_lt_length_of_not_keeps {char : Char} (escaped : encoder.keeps char = false) :
    1 < (encoder.encodeChar char).length := by
  rw [encodeChar_of_not_keeps escaped]
  cases bytes : String.utf8EncodeChar char with
  | nil => exact absurd bytes String.utf8EncodeChar_ne_nil
  | cons first rest =>
      rw [List.flatMap_cons, List.length_append]
      change 1 < 3 + _
      omega

theorem length_le_encode (text : List Char) : text.length ≤ (encoder.encode text).length := by
  induction text with
  | nil => exact Nat.le_refl 0
  | cons char rest ih =>
      change rest.length + 1 ≤ (encoder.encodeChar char ++ encoder.encode rest).length
      rw [List.length_append]
      cases kept : encoder.keeps char with
      | true =>
          rw [encodeChar_of_keeps kept, List.length_singleton]
          omega
      | false =>
          have long := one_lt_length_of_not_keeps kept
          omega

theorem encode_of_keeps {text : List Char} (kept : ∀ char ∈ text, encoder.keeps char = true) :
    encoder.encode text = text := by
  induction text with
  | nil => rfl
  | cons char rest ih =>
      change encoder.encodeChar char ++ encoder.encode rest = char :: rest
      rw [encodeChar_of_keeps (kept char List.mem_cons_self),
        ih fun other member => kept other (List.mem_cons_of_mem _ member)]
      rfl

/-- An escape is longer than what it stands for, so nothing may be escaped. -/
theorem encode_eq_self_iff (text : List Char) :
    encoder.encode text = text ↔ ∀ char ∈ text, encoder.keeps char = true := by
  refine ⟨fun same => ?_, encode_of_keeps⟩
  have short : (encoder.encode text).length ≤ text.length :=
    Nat.le_of_eq (congrArg _ same)
  clear same
  induction text with
  | nil =>
      intro char member
      exact absurd member List.not_mem_nil
  | cons char rest ih =>
      change (encoder.encodeChar char ++ encoder.encode rest).length ≤ rest.length + 1 at short
      have longer := @length_le_encode encoder rest
      rw [List.length_append] at short
      cases kept : encoder.keeps char with
      | true =>
          rw [encodeChar_of_keeps kept, List.length_singleton] at short
          exact List.forall_mem_cons.mpr ⟨kept, ih (by omega)⟩
      | false =>
          have long := one_lt_length_of_not_keeps kept
          omega

end Encoder

end FiksOpp.PercentEncoding
