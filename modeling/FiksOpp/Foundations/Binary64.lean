/-
Doubles as the core library models them: which kind of number a result is, and the number
that a text with a fixed count of decimals is read back as.

A datum that comes out of an operation is packed into 64 bits and unpacked by the next one.
What survives that is its kind here: not a number, a zero or another number, and its sign.
-/

import Mathlib

namespace FiksOpp.Binary64

open Float.Model (UnpackedFloat Format totalExponent)
open Float.Model.UnpackedFloat

inductive Kind where
  | notANumber
  | zero (negative : Bool)
  | other (negative : Bool)
  deriving DecidableEq, Repr

def bit : Sign → Bool
  | .negative => true
  | .positive => false

def kindOf : UnpackedFloat → Kind
  | .notANumber => .notANumber
  | .infinity sign => .other (bit sign)
  | .zero sign => .zero (bit sign)
  | .finite sign _ _ _ => .other (bit sign)

def kind (x : Float.Model) : Kind :=
  kindOf x.unpack

/-- Minus zero is negative, and what is not a number is not. -/
def Kind.isNegative : Kind → Bool
  | .notANumber => false
  | .zero negative => negative
  | .other negative => negative

def isNegative (x : Float.Model) : Bool :=
  (kind x).isNegative

/-- Units of the last of `digits` decimals, halves up. -/
def units (digits mantissa : ℕ) (exponent : ℤ) : ℕ :=
  ⌊(mantissa : ℚ) * 2 ^ exponent * 10 ^ digits + 1 / 2⌋₊

def signed : Sign → UnpackedFloat → UnpackedFloat
  | .negative, x => x.neg
  | .positive, x => x

/-- The double that is read from the text of a double with `digits` decimals.  The text of a
number from `10 ^ 21` on has as many digits as it takes to read the number back, and the
sign is written before zeros too. -/
def fixed (digits : ℕ) (x : Float.Model) : Float.Model :=
  match x.unpack with
  | .finite sign mantissa exponent _ =>
      if 10 ^ 21 ≤ (mantissa : ℚ) * 2 ^ exponent then x
      else
        .pack (signed sign
          (ofScientific Format.binary64 (units digits mantissa exponent) (-digits)))
  | _ => x

def value? (x : Float.Model) : Option ℚ :=
  match x.unpack with
  | .notANumber => none
  | .infinity _ => none
  | .zero _ => some 0
  | .finite sign mantissa exponent _ =>
      some (if bit sign then -(mantissa * 2 ^ exponent) else mantissa * 2 ^ exponent)

section Packing

theorem unpack_packComponents (sign : Sign) (exponent : BitVec 11) (mantissa : BitVec 52) :
    kindOf (unpack Format.binary64 (packComponents Format.binary64 sign exponent mantissa)) =
      if exponent = -1#11 then
        if mantissa = 0#52 then .other (bit sign) else .notANumber
      else if exponent = 0#11 ∧ mantissa = 0#52 then .zero (bit sign)
      else .other (bit sign) := by
  unfold unpack
  simp only [unpackMantissa_packComponents, unpackExponent_packComponents,
    unpackSign_packComponents, Sign.ofBitVec_toBitVec]
  by_cases special : exponent = -1#11
  · simp only [special, if_true]
    split <;> rfl
  · simp only [special, if_false]
    by_cases small : exponent = 0#11
    · simp only [small, if_true, true_and]
      split <;> rfl
    · simp only [small, if_false, false_and]
      rfl

theorem kindOf_packedInfinity (sign : Sign) :
    kindOf (unpack Format.binary64 (packedInfinity Format.binary64 sign)) = .other (bit sign) := by
  unfold packedInfinity
  rw [unpack_packComponents, if_pos rfl]
  exact if_pos rfl

theorem kindOf_pack_special (x : UnpackedFloat)
    (special : ∀ sign mantissa exponent positive, x ≠ .finite sign mantissa exponent positive) :
    kindOf (unpack Format.binary64 (pack Format.binary64 x)) = kindOf x := by
  cases x with
  | notANumber =>
      exact congrArg kindOf unpack_packedNaN
  | infinity sign => exact kindOf_packedInfinity sign
  | zero sign =>
      exact congrArg kindOf unpack_packedZero
  | finite sign mantissa exponent positive =>
      exact absurd rfl (special sign mantissa exponent positive)

/-- A normal number stays one, or overflows. -/
theorem kindOf_pack_normal (sign : Sign) {mantissa : ℕ} {exponent : ℤ} (positive : 0 < mantissa)
    (low : 2 ^ 52 ≤ mantissa) (high : mantissa < 2 ^ 53) (least : -1074 ≤ exponent) :
    kindOf (unpack Format.binary64 (pack Format.binary64 (.finite sign mantissa exponent positive))) =
      .other (bit sign) := by
  have log : mantissa.log2 = 52 := by
    apply (Nat.log2_eq_iff positive.ne').mpr
    exact ⟨low, high⟩
  unfold pack
  simp only [log]
  split
  · exact kindOf_packedInfinity sign
  · rename_i fits
    have biased : 1 ≤ (exponent + 1023 + 52).toNat := by omega
    have bounded : (exponent + 1023 + 52).toNat + 1 < 2048 := not_le.mp fits
    have field : (BitVec.ofNat 11 (exponent + 1023 + 52).toNat).toNat =
        (exponent + 1023 + 52).toNat := by
      rw [BitVec.toNat_ofNat]
      exact Nat.mod_eq_of_lt (by omega)
    change kindOf (unpack Format.binary64 (packComponents Format.binary64 sign
      (BitVec.ofNat 11 (exponent + 1023 + 52).toNat) (BitVec.ofNat 52 mantissa))) = _
    have notFull : BitVec.ofNat 11 (exponent + 1023 + 52).toNat ≠ -1#11 := by
      intro full
      rw [full] at field
      have largest : (-1#11 : BitVec 11).toNat = 2047 := rfl
      omega
    have notEmpty : BitVec.ofNat 11 (exponent + 1023 + 52).toNat ≠ 0#11 := by
      intro empty
      rw [empty, BitVec.toNat_zero] at field
      omega
    rw [unpack_packComponents, if_neg notFull, if_neg (fun both => notEmpty both.1)]

end Packing

section Rounding

theorem mantissa_shiftRight (extended : ExtendedMantissa) (amount : ℕ) :
    (extended >>> amount).mantissa = extended.mantissa / 2 ^ amount := by
  change (amount.repeat ExtendedMantissa.shiftRightOne extended).mantissa = _
  induction amount with
  | zero => rw [Nat.repeat, pow_zero, Nat.div_one]
  | succ amount ih =>
      rw [Nat.repeat, ExtendedMantissa.shiftRightOne, ih, Nat.div_div_eq_div_mul, pow_succ]

theorem mantissa_ofMantissaAndAccuracy (mantissa : ℕ) (accuracy : Accuracy) :
    (ExtendedMantissa.ofMantissaAndAccuracy mantissa accuracy).mantissa = mantissa := by
  cases accuracy with
  | exact => rfl
  | inexact relative => cases relative <;> rfl

theorem roundedMantissa_cases (extended : ExtendedMantissa) :
    extended.roundedMantissa = extended.mantissa ∨
      extended.roundedMantissa = extended.mantissa + 1 := by
  unfold ExtendedMantissa.roundedMantissa
  cases extended.accuracy with
  | exact => exact Or.inl rfl
  | inexact relative =>
      cases relative with
      | lt => exact Or.inl rfl
      | gt => exact Or.inr rfl
      | eq =>
          change extended.mantissa + extended.mantissa % 2 = _ ∨
            extended.mantissa + extended.mantissa % 2 = _
          omega

theorem targetExponent_eq (mantissa : ℕ) (exponent : ℤ) :
    Format.binary64.targetExponent (totalExponent mantissa exponent) =
      max (mantissa.log2 + exponent - 52) (-1074) := by
  unfold Format.targetExponent totalExponent
  have bits : (Format.binary64.mantissaBits : ℤ) = 53 := by decide
  have least : Format.binary64.minExponent = -1074 := by decide
  rw [bits, least]
  congr 1
  ring

theorem mantissa_div_bounds {mantissa : ℕ} (low : 2 ^ 52 ≤ mantissa) :
    2 ^ 52 ≤ mantissa / 2 ^ (mantissa.log2 - 52) ∧
      mantissa / 2 ^ (mantissa.log2 - 52) < 2 ^ 53 := by
  have nonzero : mantissa ≠ 0 := by omega
  have log : 52 ≤ mantissa.log2 := (Nat.le_log2 nonzero).mpr low
  constructor
  · rw [Nat.le_div_iff_mul_le (Nat.two_pow_pos _), ← pow_add, Nat.add_sub_cancel' log]
    exact Nat.log2_self_le nonzero
  · rw [Nat.div_lt_iff_lt_mul (Nat.two_pow_pos _), ← pow_add]
    have whole : 53 + (mantissa.log2 - 52) = mantissa.log2 + 1 := by omega
    rw [whole]
    exact Nat.lt_log2_self

theorem shiftToTargetExponent_of_large {mantissa : ℕ} {exponent : ℤ} (accuracy : Accuracy)
    (low : 2 ^ 52 ≤ mantissa) (least : -1074 ≤ exponent) :
    (shiftToTargetExponent Format.binary64 mantissa exponent accuracy).1.mantissa =
        mantissa / 2 ^ (mantissa.log2 - 52) ∧
      (shiftToTargetExponent Format.binary64 mantissa exponent accuracy).2 =
        exponent + (mantissa.log2 - 52 : ℕ) := by
  have log : 52 ≤ mantissa.log2 := (Nat.le_log2 (by omega)).mpr low
  have amount : (Format.binary64.targetExponent (totalExponent mantissa exponent) -
      exponent).toNat = mantissa.log2 - 52 := by
    rw [targetExponent_eq]
    omega
  unfold shiftToTargetExponent shiftToExponent
  simp only [amount, mantissa_shiftRight, mantissa_ofMantissaAndAccuracy, and_self]

/-- A mantissa of 53 bits or more rounds to a normal number. -/
theorem roundWithAccuracy_of_large (sign : Sign) {mantissa : ℕ} {exponent : ℤ}
    (accuracy : Accuracy) (low : 2 ^ 52 ≤ mantissa) (least : -1074 ≤ exponent) :
    ∃ rounded larger positive,
      roundWithAccuracy Format.binary64 sign mantissa exponent accuracy =
        .finite sign rounded larger positive ∧
      2 ^ 52 ≤ rounded ∧ rounded < 2 ^ 53 ∧ -1074 ≤ larger := by
  obtain ⟨leading, shifted⟩ := shiftToTargetExponent_of_large accuracy low least
  obtain ⟨lower, upper⟩ := mantissa_div_bounds low
  unfold roundWithAccuracy
  generalize shiftToTargetExponent Format.binary64 mantissa exponent accuracy = first at *
  have enough : 2 ^ 52 ≤ first.1.roundedMantissa := by
    rcases roundedMantissa_cases first.1 with same | next <;> omega
  have higher : -1074 ≤ first.2 := by omega
  -- the carry of a mantissa of 53 ones is shifted out again
  obtain ⟨final, finalExponent⟩ := shiftToTargetExponent_of_large .exact enough higher
  obtain ⟨finalLower, finalUpper⟩ := mantissa_div_bounds enough
  dsimp only
  generalize shiftToTargetExponent Format.binary64 first.1.roundedMantissa first.2 .exact =
    second at *
  have nonzero : second.1.mantissa ≠ 0 := by omega
  rw [dif_neg nonzero]
  exact ⟨_, _, _, rfl, by omega, by omega, by omega⟩

theorem divCore_of_ten_pow {units digits : ℕ} (positive : 0 < units) (few : digits ≤ 20) :
    2 ^ 52 ≤ (divCore Format.binary64 units 0 (10 ^ digits) 0).1 ∧
      -1074 ≤ (divCore Format.binary64 units 0 (10 ^ digits) 0).2.1 := by
  have log : (10 ^ digits).log2 ≤ 66 := by
    have bound : (10 : ℕ) ^ digits < 2 ^ 67 :=
      lt_of_le_of_lt (Nat.pow_le_pow_right (by decide) few) (by decide)
    have below := (Nat.log2_lt (by positivity)).mpr bound
    omega
  unfold divCore
  have bits : Format.binary64.targetExponent
      (totalExponent units 0 - totalExponent (10 ^ digits) 0) =
        max ((units.log2 : ℤ) - (10 ^ digits).log2 - 53) (-1074) := by
    unfold Format.targetExponent totalExponent
    have width : (Format.binary64.mantissaBits : ℤ) = 53 := by decide
    have least : Format.binary64.minExponent = -1074 := by decide
    rw [width, least]
    congr 1
    ring
  dsimp only
  rw [bits]
  generalize shift : ((0 : ℤ) - 0 -
    min (0 - 0) (max ((units.log2 : ℤ) - (10 ^ digits).log2 - 53) (-1074))).toNat = amount
  constructor
  · have enough : 53 + (10 ^ digits).log2 ≤ units.log2 + amount := by omega
    rw [Nat.shiftLeft_eq, Nat.le_div_iff_mul_le (by positivity)]
    calc 2 ^ 52 * 10 ^ digits
        ≤ 2 ^ 52 * 2 ^ ((10 ^ digits).log2 + 1) :=
          Nat.mul_le_mul_left _ Nat.lt_log2_self.le
      _ = 2 ^ (53 + (10 ^ digits).log2) := by rw [← pow_add]; congr 1; omega
      _ ≤ 2 ^ (units.log2 + amount) := Nat.pow_le_pow_right (by decide) enough
      _ = 2 ^ units.log2 * 2 ^ amount := pow_add _ _ _
      _ ≤ units * 2 ^ amount :=
          Nat.mul_le_mul_right _ (Nat.log2_self_le positive.ne')
  · omega

/-- Decimals are never so small that they are read as zero. -/
theorem ofScientific_normal {units digits : ℕ} (positive : 0 < units) (few : digits ≤ 20) :
    ∃ mantissa exponent present,
      ofScientific Format.binary64 units (-digits) = .finite .positive mantissa exponent present ∧
      2 ^ 52 ≤ mantissa ∧ mantissa < 2 ^ 53 ∧ -1074 ≤ exponent := by
  have notLarge : ¬ (-digits : ℤ) > 2 ^ Format.binary64.exponentBits := by
    have large : (0 : ℤ) < 2 ^ Format.binary64.exponentBits := by decide
    omega
  have notSmall : ¬ (-digits : ℤ) <
      -((2 ^ Format.binary64.exponentBits : ℤ) + units.log2) := by
    have large : (2 : ℤ) ^ Format.binary64.exponentBits = 2048 := by decide
    omega
  unfold ofScientific
  rw [dif_neg positive.ne', if_neg notLarge, if_neg notSmall]
  rcases Nat.eq_zero_or_pos digits with whole | some
  · rw [if_pos (by omega)]
    have low : 2 ^ 52 ≤ units <<< Format.binary64.mantissaBits * 10 ^ (-digits : ℤ).toNat := by
      rw [Nat.shiftLeft_eq, whole]
      change 2 ^ 52 ≤ units * 2 ^ 53 * 1
      omega
    exact roundWithAccuracy_of_large .positive .exact low (by decide)
  · rw [if_neg (by omega)]
    have power : (-(-digits : ℤ)).toNat = digits := by omega
    simp only [power]
    obtain ⟨low, least⟩ := divCore_of_ten_pow positive few
    exact roundWithAccuracy_of_large .positive _ low least

end Rounding

section Fixed

theorem signed_zero (sign : Sign) : signed sign (.zero .positive) = .zero sign := by
  cases sign <;> rfl

theorem signed_finite (sign : Sign) (mantissa : ℕ) (exponent : ℤ) (positive : 0 < mantissa) :
    signed sign (.finite .positive mantissa exponent positive) =
      .finite sign mantissa exponent positive := by
  cases sign <;> rfl

theorem units_eq_zero_iff (digits mantissa : ℕ) (exponent : ℤ) :
    units digits mantissa exponent = 0 ↔
      (mantissa : ℚ) * 2 ^ exponent * 10 ^ digits < 1 / 2 := by
  unfold units
  rw [Nat.floor_eq_zero]
  constructor <;> intro small <;> linarith

theorem kind_pack_zero (sign : Sign) (digits : ℤ) :
    kind (.pack (signed sign (ofScientific Format.binary64 0 digits))) = .zero (bit sign) := by
  have zero : ofScientific Format.binary64 0 digits = .zero .positive := dif_pos rfl
  rw [zero, signed_zero]
  exact kindOf_pack_special (.zero sign) (fun _ _ _ _ same => nomatch same)

theorem kind_pack_units (sign : Sign) {units digits : ℕ} (positive : 0 < units)
    (few : digits ≤ 20) :
    kind (.pack (signed sign (ofScientific Format.binary64 units (-digits)))) =
      .other (bit sign) := by
  obtain ⟨mantissa, exponent, present, read, low, high, least⟩ := ofScientific_normal positive few
  rw [read, signed_finite]
  exact kindOf_pack_normal sign present low high least

/-- A text keeps the sign, and it is one of zeros where the number is less than half a unit
of the last decimal. -/
theorem kind_fixed {digits : ℕ} (few : digits ≤ 20) (x : Float.Model) :
    kind (fixed digits x) =
      match value? x with
      | none => kind x
      | some value =>
          if |value| * 10 ^ digits < 1 / 2 then .zero (isNegative x) else kind x := by
  unfold fixed value? isNegative kind
  cases unpacked : x.unpack with
  | notANumber => exact congrArg kindOf unpacked
  | infinity sign => exact congrArg kindOf unpacked
  | zero sign =>
      simp only [unpacked, kindOf, abs_zero, zero_mul]
      rw [if_pos (by norm_num)]
      rfl
  | finite sign mantissa exponent positive =>
      have size : |(if bit sign = true then -((mantissa : ℚ) * 2 ^ exponent)
          else (mantissa : ℚ) * 2 ^ exponent)| = (mantissa : ℚ) * 2 ^ exponent := by
        have nonneg : (0 : ℚ) ≤ (mantissa : ℚ) * 2 ^ exponent :=
          mul_nonneg (Nat.cast_nonneg mantissa) (zpow_nonneg (by norm_num) exponent)
        split
        · rw [abs_neg, abs_of_nonneg nonneg]
        · exact abs_of_nonneg nonneg
      simp only [size, kindOf]
      by_cases large : (10 : ℚ) ^ 21 ≤ (mantissa : ℚ) * 2 ^ exponent
      · have scale : (1 : ℚ) ≤ 10 ^ digits := one_le_pow₀ (by norm_num)
        have visible : ¬ (mantissa : ℚ) * 2 ^ exponent * 10 ^ digits < 1 / 2 := by
          nlinarith
        rw [if_pos large, if_neg visible, unpacked]
      · rw [if_neg large]
        by_cases small : (mantissa : ℚ) * 2 ^ exponent * 10 ^ digits < 1 / 2
        · rw [if_pos small, (units_eq_zero_iff digits mantissa exponent).mpr small]
          exact kind_pack_zero sign _
        · have some : 0 < units digits mantissa exponent :=
            Nat.pos_of_ne_zero (fun none => small ((units_eq_zero_iff _ _ _).mp none))
          rw [if_neg small]
          exact kind_pack_units sign some few

end Fixed

theorem zero_le_iff (x : Float.Model) :
    Float.Model.ofInt 0 ≤ x ↔ kind x = .other false ∨ ∃ negative, kind x = .zero negative := by
  have unpacked : (Float.Model.ofInt 0).unpack = .zero .positive := by rfl
  change UnpackedFloat.le (Float.Model.ofInt 0).unpack x.unpack = true ↔ _
  rw [unpacked]
  unfold kind
  cases x.unpack with
  | notANumber => decide
  | infinity sign => cases sign <;> decide
  | zero sign => cases sign <;> decide
  | finite sign mantissa exponent positive =>
      cases sign <;> simp [UnpackedFloat.le, UnpackedFloat.compare, kindOf, bit]

/-- A number whose sign bit is not set. -/
def NotNegative (x : Float.Model) : Prop :=
  kind x ≠ .notANumber ∧ isNegative x = false

/-- A number below zero, and not so little that its text has zeros only. -/
def BelowZero (digits : ℕ) (x : Float.Model) : Prop :=
  isNegative x = true ∧ ∀ value, value? x = some value → value * 10 ^ digits ≤ -(1 / 2)

theorem NotNegative.not_belowZero {x : Float.Model} (notNegative : NotNegative x) {digits : ℕ} :
    ¬ BelowZero digits x := by
  intro below
  have sign := below.1
  rw [notNegative.2] at sign
  cases sign

theorem number_of_negative {x : Float.Model} (negative : isNegative x = true) :
    kind x ≠ .notANumber := by
  intro missing
  rw [isNegative, missing] at negative
  cases negative

theorem isNegative_fixed {digits : ℕ} (few : digits ≤ 20) (x : Float.Model) :
    isNegative (fixed digits x) = isNegative x := by
  rw [isNegative, kind_fixed few]
  cases value? x with
  | none => rfl
  | some value =>
      dsimp only
      split <;> rfl

theorem value?_eq_none {x : Float.Model} (infinite : value? x = none) :
    kind x = .notANumber ∨ kind x = .other (isNegative x) := by
  unfold value? at infinite
  unfold isNegative kind
  cases unpacked : x.unpack with
  | notANumber => exact Or.inl rfl
  | infinity sign => exact Or.inr rfl
  | zero sign => simp [unpacked] at infinite
  | finite sign mantissa exponent positive => simp [unpacked] at infinite

theorem value?_eq_some {x : Float.Model} {value : ℚ} (finite : value? x = some value) :
    (kind x = .zero (isNegative x) ∧ value = 0) ∨
      (kind x = .other (isNegative x) ∧
        |value| = if isNegative x then -value else value) := by
  unfold value? at finite
  unfold isNegative kind
  cases unpacked : x.unpack with
  | notANumber => simp [unpacked] at finite
  | infinity sign => simp [unpacked] at finite
  | zero sign =>
      rw [unpacked] at finite
      exact Or.inl ⟨rfl, (Option.some.inj finite).symm⟩
  | finite sign mantissa exponent positive =>
      rw [unpacked] at finite
      have nonneg : (0 : ℚ) ≤ (mantissa : ℚ) * 2 ^ exponent :=
        mul_nonneg (Nat.cast_nonneg mantissa) (zpow_nonneg (by norm_num) exponent)
      refine Or.inr ⟨rfl, ?_⟩
      rw [← Option.some.inj finite]
      change _ = if bit sign = true then _ else _
      split
      · rw [abs_neg, abs_of_nonneg nonneg, neg_neg]
      · exact abs_of_nonneg nonneg

/-- What is read is at least zero unless the number is below zero by half a unit. -/
theorem zero_le_fixed_iff {digits : ℕ} (few : digits ≤ 20) (x : Float.Model) :
    Float.Model.ofInt 0 ≤ fixed digits x ↔ kind x ≠ .notANumber ∧ ¬ BelowZero digits x := by
  rw [zero_le_iff, kind_fixed few]
  unfold BelowZero
  cases found : value? x with
  | none =>
      rcases value?_eq_none found with missing | infinite
      · simp [missing]
      · simp [infinite]
  | some value =>
      dsimp only
      rcases value?_eq_some found with ⟨zero, absent⟩ | ⟨other, size⟩
      · have small : |value| * 10 ^ digits < 1 / 2 := by
          rw [absent, abs_zero, zero_mul]
          norm_num
        rw [if_pos small]
        refine iff_of_true (Or.inr ⟨_, rfl⟩) ⟨by rw [zero]; exact nofun, ?_⟩
        rintro ⟨_, below⟩
        have half := below value rfl
        rw [absent, zero_mul] at half
        norm_num at half
      · have aNumber : kind x ≠ .notANumber := by
          rw [other]
          exact nofun
        cases sign : isNegative x with
        | false =>
            refine iff_of_true ?_ ⟨aNumber, fun below => nomatch below.1⟩
            split
            · exact Or.inr ⟨_, rfl⟩
            · rw [other, sign]
              exact Or.inl rfl
        | true =>
            rw [sign, if_pos rfl] at size
            by_cases small : |value| * 10 ^ digits < 1 / 2
            · rw [if_pos small]
              refine iff_of_true (Or.inr ⟨_, rfl⟩) ⟨aNumber, ?_⟩
              rintro ⟨_, below⟩
              have half := below value rfl
              rw [size] at small
              linarith
            · rw [if_neg small, other, sign]
              refine iff_of_false (by simp) (fun both => both.2 ⟨rfl, ?_⟩)
              intro same equal
              rw [← Option.some.inj equal]
              rw [size] at small
              linarith

end FiksOpp.Binary64
