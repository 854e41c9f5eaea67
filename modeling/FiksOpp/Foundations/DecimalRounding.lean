/-
Decimal grids over an ordered field with a floor.

Rounding is half away from zero and truncation is toward zero, the two
conversions a fixed-point printer and an integer cast perform.  The grid
predicate says when a value survives the conversion unchanged.
-/

import Mathlib.Algebra.Order.Round
import Mathlib.Algebra.Order.Floor.Ring
import Mathlib.Data.Rat.Floor
import Mathlib.Tactic.Linarith
import Mathlib.Tactic.FieldSimp
import Mathlib.Tactic.Ring
import Mathlib.Tactic.Positivity

namespace FiksOpp.DecimalRounding

variable {α : Type*} [Field α] [LinearOrder α] [IsStrictOrderedRing α] [FloorRing α]

/-- Toward zero, as an integer cast drops the fraction. -/
def truncate (x : α) : ℤ :=
  if 0 ≤ x then ⌊x⌋ else ⌈x⌉

/-- To the nearest integer, ties away from zero. -/
def roundAway (x : α) : ℤ :=
  if 0 ≤ x then ⌊x + 1 / 2⌋ else ⌈x - 1 / 2⌉

def toDecimals (digits : ℕ) (x : α) : α :=
  (roundAway (x * 10 ^ digits) : α) / 10 ^ digits

/-- The value is a whole number of units of the last decimal. -/
def OnGrid (digits : ℕ) (x : α) : Prop :=
  ∃ units : ℤ, x * 10 ^ digits = units

theorem truncate_intCast (n : ℤ) : truncate (n : α) = n := by
  simp [truncate]

theorem truncate_eq_self_iff (x : α) :
    (truncate x : α) = x ↔ ∃ n : ℤ, x = n := by
  constructor
  · intro same
    exact ⟨truncate x, same.symm⟩
  · rintro ⟨n, rfl⟩
    rw [truncate_intCast]

omit [IsStrictOrderedRing α] in
theorem truncate_le_of_nonneg {x : α} (nonneg : 0 ≤ x) : (truncate x : α) ≤ x := by
  rw [truncate, if_pos nonneg]
  exact Int.floor_le x

theorem lt_truncate_add_one (x : α) : x < truncate x + 1 := by
  unfold truncate
  split
  · exact Int.lt_floor_add_one x
  · have ceiling := Int.le_ceil x
    linarith

theorem truncate_mono {x y : α} (le : x ≤ y) : truncate x ≤ truncate y := by
  unfold truncate
  split
  · have larger : 0 ≤ y := by linarith
    rw [if_pos larger]
    exact Int.floor_le_floor le
  · split
    · have low : ⌈x⌉ ≤ 0 := Int.ceil_le.mpr (by push_cast; linarith)
      have high : 0 ≤ ⌊y⌋ := Int.floor_nonneg.mpr (by assumption)
      exact le_trans low high
    · exact Int.ceil_le_ceil le

theorem roundAway_intCast (n : ℤ) : roundAway (n : α) = n := by
  unfold roundAway
  split
  · rw [Int.floor_eq_iff]
    constructor <;> linarith
  · rw [Int.ceil_eq_iff]
    constructor <;> linarith

omit [FloorRing α] in
private theorem ten_pow_ne_zero (digits : ℕ) : (10 : α) ^ digits ≠ 0 := by
  positivity

theorem toDecimals_onGrid (digits : ℕ) (x : α) : OnGrid digits (toDecimals digits x) := by
  refine ⟨roundAway (x * 10 ^ digits), ?_⟩
  exact div_mul_cancel₀ _ (ten_pow_ne_zero digits)

theorem toDecimals_of_onGrid {digits : ℕ} {x : α} (grid : OnGrid digits x) :
    toDecimals digits x = x := by
  obtain ⟨units, scaled⟩ := grid
  rw [toDecimals, scaled, roundAway_intCast, ← scaled]
  exact mul_div_cancel_right₀ x (ten_pow_ne_zero digits)

theorem toDecimals_eq_self_iff (digits : ℕ) (x : α) :
    toDecimals digits x = x ↔ OnGrid digits x := by
  constructor
  · intro same
    rw [← same]
    exact toDecimals_onGrid digits x
  · exact toDecimals_of_onGrid

instance (digits : ℕ) (x : α) : Decidable (OnGrid digits x) :=
  decidable_of_iff _ (toDecimals_eq_self_iff digits x)

@[simp] theorem toDecimals_toDecimals (digits : ℕ) (x : α) :
    toDecimals digits (toDecimals digits x) = toDecimals digits x :=
  toDecimals_of_onGrid (toDecimals_onGrid digits x)

@[simp] theorem toDecimals_zero (digits : ℕ) : toDecimals digits (0 : α) = 0 :=
  toDecimals_of_onGrid ⟨0, by simp⟩

omit [LinearOrder α] [IsStrictOrderedRing α] [FloorRing α] in
theorem onGrid_add {digits : ℕ} {x y : α} (left : OnGrid digits x) (right : OnGrid digits y) :
    OnGrid digits (x + y) := by
  obtain ⟨leftUnits, leftScaled⟩ := left
  obtain ⟨rightUnits, rightScaled⟩ := right
  refine ⟨leftUnits + rightUnits, ?_⟩
  rw [add_mul, leftScaled, rightScaled, Int.cast_add]

omit [LinearOrder α] [IsStrictOrderedRing α] [FloorRing α] in
theorem onGrid_sum {digits : ℕ} {values : List α} (grid : ∀ value ∈ values, OnGrid digits value) :
    OnGrid digits values.sum := by
  induction values with
  | nil => exact ⟨0, by rw [List.sum_nil, zero_mul, Int.cast_zero]⟩
  | cons value rest ih =>
      rw [List.sum_cons]
      have first := grid value List.mem_cons_self
      exact onGrid_add first (ih fun other member => grid other (List.mem_cons_of_mem value member))

theorem roundAway_mono {x y : α} (le : x ≤ y) : roundAway x ≤ roundAway y := by
  unfold roundAway
  by_cases nonneg : 0 ≤ x
  · rw [if_pos nonneg, if_pos (le_trans nonneg le)]
    exact Int.floor_mono (by linarith)
  · rw [if_neg nonneg]
    by_cases upper : 0 ≤ y
    · rw [if_pos upper]
      have below : ⌈x - 1 / 2⌉ ≤ 0 := Int.ceil_le.mpr (by push_cast; linarith)
      have above : 0 ≤ ⌊y + 1 / 2⌋ := Int.floor_nonneg.mpr (by linarith)
      omega
    · rw [if_neg upper]
      exact Int.ceil_mono (by linarith)

theorem toDecimals_mono (digits : ℕ) {x y : α} (le : x ≤ y) :
    toDecimals digits x ≤ toDecimals digits y := by
  have power : (0 : α) ≤ 10 ^ digits := by positivity
  have scaled : x * 10 ^ digits ≤ y * 10 ^ digits := mul_le_mul_of_nonneg_right le power
  have rounded : (roundAway (x * 10 ^ digits) : α) ≤ roundAway (y * 10 ^ digits) :=
    Int.cast_le.mpr (roundAway_mono scaled)
  exact div_le_div_of_nonneg_right rounded power

/-- A positive value read with another scale than it was truncated at is never
the same value, and at the same scale only on the grid. -/
theorem truncate_scaled_eq_iff {x : α} (positive : 0 < x) (digits scale : ℕ) :
    (truncate (x * 10 ^ digits) : α) = x * 10 ^ scale ↔ scale = digits ∧ OnGrid digits x := by
  have lower : (truncate (x * 10 ^ digits) : α) ≤ x * 10 ^ digits :=
    truncate_le_of_nonneg (by positivity)
  have upper : x * 10 ^ digits < truncate (x * 10 ^ digits) + 1 := lt_truncate_add_one _
  constructor
  · intro same
    rcases lt_trichotomy scale digits with below | equal | above
    · -- ten times the truncated value still lies below its successor
      have unit : (1 : α) ≤ truncate (x * 10 ^ digits) := by
        have scaledPositive : (0 : α) < truncate (x * 10 ^ digits) := by
          rw [same]
          positivity
        have unitInt : (1 : ℤ) ≤ truncate (x * 10 ^ digits) := by
          have positiveInt : 0 < truncate (x * 10 ^ digits) := Int.cast_pos.mp scaledPositive
          omega
        exact_mod_cast Int.cast_le.mpr unitInt
      have tenfold : 10 * (x * 10 ^ scale) ≤ x * 10 ^ digits := by
        have power : (10 : α) ^ (scale + 1) ≤ 10 ^ digits :=
          pow_le_pow_right₀ (by norm_num) below
        calc 10 * (x * 10 ^ scale) = x * 10 ^ (scale + 1) := by ring
          _ ≤ x * 10 ^ digits := mul_le_mul_of_nonneg_left power positive.le
      rw [← same] at tenfold
      linarith
    · subst equal
      exact ⟨rfl, truncate (x * 10 ^ scale), same.symm⟩
    · have power : (10 : α) ^ digits < 10 ^ scale :=
        pow_lt_pow_right₀ (by norm_num) above
      have larger : x * 10 ^ digits < x * 10 ^ scale := mul_lt_mul_of_pos_left power positive
      linarith
  · rintro ⟨rfl, units, scaled⟩
    rw [scaled, truncate_intCast]

/-! ### Error and sign -/

omit [IsStrictOrderedRing α] in
theorem roundAway_of_nonneg {x : α} (nonneg : 0 ≤ x) : roundAway x = ⌊x + 1 / 2⌋ :=
  if_pos nonneg

omit [IsStrictOrderedRing α] in
theorem roundAway_of_neg {x : α} (negative : x < 0) : roundAway x = ⌈x - 1 / 2⌉ :=
  if_neg (not_le.mpr negative)

@[simp] theorem roundAway_zero : roundAway (0 : α) = 0 := by
  have whole := @roundAway_intCast α _ _ _ _ 0
  rwa [Int.cast_zero] at whole

@[simp] theorem roundAway_neg (x : α) : roundAway (-x) = -roundAway x := by
  rcases lt_trichotomy x 0 with negative | zero | positive
  · rw [roundAway_of_neg negative, roundAway_of_nonneg (by linarith), ← Int.floor_neg]
    congr 1
    ring
  · rw [zero, neg_zero, roundAway_zero, neg_zero]
  · rw [roundAway_of_nonneg positive.le, roundAway_of_neg (by linarith), ← Int.ceil_neg]
    congr 1
    ring

theorem abs_roundAway_sub_le (x : α) : |(roundAway x : α) - x| ≤ 1 / 2 := by
  rw [abs_le]
  by_cases nonneg : 0 ≤ x
  · rw [roundAway_of_nonneg nonneg]
    have below := Int.floor_le (x + 1 / 2)
    have above := Int.lt_floor_add_one (x + 1 / 2)
    constructor <;> linarith
  · rw [roundAway_of_neg (not_le.mp nonneg)]
    have below := Int.le_ceil (x - 1 / 2)
    have above := Int.ceil_lt_add_one (x - 1 / 2)
    constructor <;> linarith

theorem roundAway_eq_iff_of_nonneg {x : α} (nonneg : 0 ≤ x) (n : ℤ) :
    roundAway x = n ↔ (n : α) - 1 / 2 ≤ x ∧ x < n + 1 / 2 := by
  rw [roundAway_of_nonneg nonneg, Int.floor_eq_iff]
  constructor
  · rintro ⟨below, above⟩
    constructor <;> linarith
  · rintro ⟨below, above⟩
    constructor <;> linarith

theorem roundAway_nonneg {x : α} (nonneg : 0 ≤ x) : 0 ≤ roundAway x := by
  have grows := roundAway_mono nonneg
  rwa [roundAway_zero] at grows

theorem roundAway_lt_zero_iff (x : α) : roundAway x < 0 ↔ x ≤ -(1 / 2) := by
  by_cases nonneg : 0 ≤ x
  · have above := roundAway_nonneg nonneg
    refine iff_of_false (not_lt.mpr above) ?_
    intro below
    linarith
  · rw [roundAway_of_neg (not_le.mp nonneg), Int.ceil_lt_iff, Int.cast_zero]
    constructor <;> intro _ <;> linarith

private theorem roundAway_succ_share_le {n : ℤ} (whole : 0 ≤ n) {share : α} (nonneg : 0 ≤ share)
    (atMost : share ≤ 1) :
    roundAway ((n + 1 : ℤ) * share) ≤ roundAway (n * share) + 1 := by
  have product : 0 ≤ (n : α) * share := mul_nonneg (Int.cast_nonneg whole) nonneg
  have successor : (n + 1 : ℤ) * share ≤ (n : α) * share + 1 := by
    push_cast
    linarith
  have shifted : roundAway ((n : α) * share + 1) = roundAway ((n : α) * share) + 1 := by
    rw [roundAway_of_nonneg product, roundAway_of_nonneg (by linarith), ← Int.floor_add_one]
    congr 1
    ring
  have grows := roundAway_mono successor
  rwa [shifted] at grows

theorem roundAway_share_sub_le {n m : ℤ} (le : n ≤ m) {share : α} (nonneg : 0 ≤ share)
    (atMost : share ≤ 1) :
    roundAway (m * share) - roundAway (n * share) ≤ m - n := by
  induction m, le using Int.leInduction with
  | base => rw [sub_self, sub_self]
  | succ m le ih =>
      have step : roundAway ((m + 1 : ℤ) * share) ≤ roundAway (m * share) + 1 := by
        by_cases whole : 0 ≤ m
        · exact roundAway_succ_share_le whole nonneg atMost
        · -- below zero the same step is read backwards
          have mirrored := @roundAway_succ_share_le α _ _ _ _ (-(m + 1)) (by omega) share
            nonneg atMost
          have left : ((-(m + 1) + 1 : ℤ) : α) * share = -((m : ℤ) * share) := by
            push_cast
            ring
          have right : ((-(m + 1) : ℤ) : α) * share = -((m + 1 : ℤ) * share) := by
            push_cast
            ring
          rw [left, right, roundAway_neg, roundAway_neg] at mirrored
          omega
      omega

/-- Two shares of a whole number round to at most one more than it, and to one more
exactly when they make it up and both lie halfway between two whole numbers. -/
theorem roundAway_add_le {n : ℤ} {x y : α} (le : x + y ≤ n) :
    roundAway x + roundAway y ≤ n + 1 := by
  have left := (abs_le.mp (abs_roundAway_sub_le x)).2
  have right := (abs_le.mp (abs_roundAway_sub_le y)).2
  have sum : ((roundAway x + roundAway y : ℤ) : α) ≤ (n + 1 : ℤ) := by
    push_cast
    linarith
  exact Int.cast_le.mp sum

theorem roundAway_of_half {k : ℤ} (nonneg : 0 ≤ k) : roundAway ((k : α) + 1 / 2) = k + 1 := by
  have castNonneg : (0 : α) ≤ k := Int.cast_nonneg nonneg
  rw [roundAway_eq_iff_of_nonneg (by linarith)]
  push_cast
  constructor <;> linarith

theorem roundAway_add_eq_succ_iff {n : ℤ} {x y : α} (left : 0 ≤ x) (right : 0 ≤ y)
    (le : x + y ≤ n) :
    roundAway x + roundAway y = n + 1 ↔ x + y = n ∧ ∃ k : ℤ, x = k + 1 / 2 := by
  constructor
  · intro exceeds
    have leftError := (abs_le.mp (abs_roundAway_sub_le x)).2
    have rightError := (abs_le.mp (abs_roundAway_sub_le y)).2
    have sum : (roundAway x : α) + roundAway y = n + 1 := by exact_mod_cast exceeds
    refine ⟨by linarith, roundAway x - 1, ?_⟩
    push_cast
    linarith
  · rintro ⟨whole, k, half⟩
    have lower : (-1 : α) < k := by linarith
    have nonneg : 0 ≤ k := by
      have cast : ((-1 : ℤ) : α) < k := by
        push_cast
        exact lower
      have above := Int.cast_lt.mp cast
      omega
    have other : y = ((n - k - 1 : ℤ) : α) + 1 / 2 := by
      push_cast
      linarith
    have otherNonneg : 0 ≤ n - k - 1 := by
      have cast : ((-1 : ℤ) : α) < (n - k - 1 : ℤ) := by
        push_cast at other ⊢
        linarith
      have above := Int.cast_lt.mp cast
      omega
    rw [half, other, roundAway_of_half nonneg, roundAway_of_half otherNonneg]
    omega

theorem sub_roundAway_add_le_iff {n : ℤ} {x y added : α} (left : 0 ≤ x) (right : 0 ≤ y)
    (le : x + y ≤ n) (nonneg : 0 ≤ added) :
    (n : α) - roundAway x - roundAway y + added ≤ -(1 / 2) ↔
      x + y = n ∧ (∃ k : ℤ, x = k + 1 / 2) ∧ added ≤ 1 / 2 := by
  rw [← and_assoc, ← roundAway_add_eq_succ_iff left right le]
  constructor
  · intro below
    have exceeds : roundAway x + roundAway y = n + 1 := by
      apply le_antisymm (roundAway_add_le le)
      have cast : (n : α) < (roundAway x + roundAway y : ℤ) := by
        push_cast
        linarith
      exact Int.cast_lt.mp cast
    have cast : (roundAway x : α) + roundAway y = n + 1 := by exact_mod_cast exceeds
    exact ⟨exceeds, by linarith⟩
  · rintro ⟨exceeds, small⟩
    have cast : (roundAway x : α) + roundAway y = n + 1 := by exact_mod_cast exceeds
    linarith

theorem toDecimals_nonneg {x : α} (digits : ℕ) (nonneg : 0 ≤ x) : 0 ≤ toDecimals digits x := by
  have grows := toDecimals_mono digits nonneg
  rwa [toDecimals_zero] at grows

theorem toDecimals_mul_pow (digits : ℕ) (x : α) :
    toDecimals digits x * 10 ^ digits = roundAway (x * 10 ^ digits) :=
  div_mul_cancel₀ _ (ten_pow_ne_zero digits)

theorem abs_toDecimals_sub_le (digits : ℕ) (x : α) :
    |toDecimals digits x - x| ≤ 1 / 2 / 10 ^ digits := by
  have power : (0 : α) < 10 ^ digits := by positivity
  rw [le_div_iff₀ power]
  calc |toDecimals digits x - x| * 10 ^ digits
      = |(toDecimals digits x - x) * 10 ^ digits| := by rw [abs_mul, abs_of_pos power]
    _ = |(roundAway (x * 10 ^ digits) : α) - x * 10 ^ digits| := by
        rw [sub_mul, toDecimals_mul_pow]
    _ ≤ 1 / 2 := abs_roundAway_sub_le _

theorem toDecimals_lt_zero_iff (digits : ℕ) (x : α) :
    toDecimals digits x < 0 ↔ x * 10 ^ digits ≤ -(1 / 2) := by
  have power : (0 : α) < 10 ^ digits := by positivity
  rw [← roundAway_lt_zero_iff, toDecimals, div_lt_iff₀ power, zero_mul, Int.cast_lt_zero]

theorem sub_toDecimals_share_mono {digits : ℕ} {x y : α} (left : OnGrid digits x)
    (right : OnGrid digits y) (le : x ≤ y) {share : α} (nonneg : 0 ≤ share)
    (atMost : share ≤ 1) :
    x - toDecimals digits (x * share) ≤ y - toDecimals digits (y * share) := by
  obtain ⟨units, scaled⟩ := left
  obtain ⟨units', scaled'⟩ := right
  have power : (0 : α) < 10 ^ digits := by positivity
  have ordered : units ≤ units' := by
    have cast : (units : α) ≤ units' := by
      rw [← scaled, ← scaled']
      exact mul_le_mul_of_nonneg_right le power.le
    exact Int.cast_le.mp cast
  have shares := roundAway_share_sub_le ordered nonneg atMost
  have cast : (roundAway (units' * share) : α) - roundAway (units * share) ≤ units' - units := by
    exact_mod_cast shares
  have leftShare : x * share * 10 ^ digits = units * share := by
    rw [← scaled]
    ring
  have rightShare : y * share * 10 ^ digits = units' * share := by
    rw [← scaled']
    ring
  rw [← mul_le_mul_iff_left₀ power, sub_mul, sub_mul, toDecimals_mul_pow, toDecimals_mul_pow,
    leftShare, rightShare, scaled, scaled']
  linarith

theorem toDecimals_share_le {digits : ℕ} {x : α} (grid : OnGrid digits x) (nonneg : 0 ≤ x)
    {share : α} (shareNonneg : 0 ≤ share) (atMost : share ≤ 1) :
    toDecimals digits (x * share) ≤ x := by
  have grows := sub_toDecimals_share_mono ⟨0, by simp⟩ grid nonneg shareNonneg atMost
  rw [zero_mul, toDecimals_zero, sub_zero] at grows
  linarith

/-- A number halfway between two whole numbers separates the two: it parts the first,
which rounds down on it, from the second, which rounds up on it. -/
def HalfBetween (x y : α) : Prop :=
  ∃ m : ℤ, x ≤ m + 1 / 2 ∧ (m : α) + 1 / 2 ≤ y ∨ y < m + 1 / 2 ∧ (m : α) + 1 / 2 < x

theorem roundAway_eq_sub_iff (n : ℤ) {y z : α} (whole : 0 ≤ y) (part : 0 ≤ z) :
    roundAway y = n - roundAway z ↔ ¬ HalfBetween ((n : α) - z) y := by
  have bounds := (roundAway_eq_iff_of_nonneg whole (roundAway y)).mp rfl
  have flipped : roundAway y = n - roundAway z ↔ roundAway z = n - roundAway y := by
    constructor <;> intro same <;> omega
  rw [flipped, roundAway_eq_iff_of_nonneg part]
  push_cast
  constructor
  · rintro ⟨lower, upper⟩ ⟨m, ⟨first, second⟩ | ⟨first, second⟩⟩
    · have above : ((roundAway y - 1 : ℤ) : α) < m := by
        push_cast
        linarith
      have below : (m : α) < roundAway y := by linarith
      have aboveInt := Int.cast_lt.mp above
      have belowInt := Int.cast_lt.mp below
      omega
    · have above : ((roundAway y - 1 : ℤ) : α) < m := by
        push_cast
        linarith
      have below : (m : α) < roundAway y := by linarith
      have aboveInt := Int.cast_lt.mp above
      have belowInt := Int.cast_lt.mp below
      omega
  · intro together
    constructor
    · by_contra exceeds
      apply together
      refine ⟨roundAway y, Or.inr ⟨bounds.2, ?_⟩⟩
      linarith
    · by_contra falls
      apply together
      refine ⟨roundAway y - 1, Or.inl ⟨?_, ?_⟩⟩
      · push_cast
        linarith
      · push_cast
        linarith

theorem toDecimals_eq_sub_iff {digits : ℕ} {price y z : α} (grid : OnGrid digits price)
    (whole : 0 ≤ y) (part : 0 ≤ z) :
    toDecimals digits y = price - toDecimals digits z ↔
      ¬ HalfBetween ((price - z) * 10 ^ digits) (y * 10 ^ digits) := by
  obtain ⟨units, scaled⟩ := grid
  have power : (0 : α) < 10 ^ digits := by positivity
  rw [sub_mul, scaled, ← roundAway_eq_sub_iff units (mul_nonneg whole power.le)
    (mul_nonneg part power.le), ← mul_left_inj' power.ne', sub_mul, toDecimals_mul_pow,
    toDecimals_mul_pow, scaled, ← Int.cast_sub, Int.cast_inj]

omit [IsStrictOrderedRing α] [FloorRing α] in
theorem halfBetween_self_iff (x : α) : HalfBetween x x ↔ ∃ m : ℤ, x = m + 1 / 2 := by
  constructor
  · rintro ⟨m, ⟨first, second⟩ | ⟨first, second⟩⟩
    · exact ⟨m, le_antisymm first second⟩
    · exact absurd (lt_trans first second) (lt_irrefl x)
  · rintro ⟨m, same⟩
    exact ⟨m, Or.inl ⟨same.le, same.ge⟩⟩

theorem toDecimals_neg (digits : ℕ) (x : α) : toDecimals digits (-x) = -toDecimals digits x := by
  rw [toDecimals, neg_mul, roundAway_neg, Int.cast_neg, neg_div, toDecimals]

example : toDecimals 2 (1005 / 1000 : ℚ) = 101 / 100 := by decide +kernel

end FiksOpp.DecimalRounding
