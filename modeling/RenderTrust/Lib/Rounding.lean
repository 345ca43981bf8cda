import Mathlib.Algebra.Order.Floor.Ring
import Mathlib.Algebra.Order.Field.Basic
import Mathlib.Data.Int.Log
import Mathlib.Tactic.FieldSimp
import Mathlib.Tactic.Linarith
import Mathlib.Tactic.Positivity
import Mathlib.Tactic.Ring

/-!
# Rounding to decimals

Rounding to an integer half to even and half away from zero, and what is built on
them: a value with a fixed number of significant digits, and a fixed-point value
of bounded precision and scale. Numbers that need no rounding are kept.
-/
namespace Lib.Rounding

section Multiple
variable {K : Type*} [Field K]

def Multiple (scale : ℕ) (x : K) : Prop := ∃ k : ℤ, x = k / 10 ^ scale

theorem Multiple.zero (scale : ℕ) : Multiple scale (0 : K) := ⟨0, by rw [Int.cast_zero, zero_div]⟩

theorem Multiple.add {scale : ℕ} {x y : K} (hx : Multiple scale x) (hy : Multiple scale y) :
    Multiple scale (x + y) := by
  obtain ⟨k, rfl⟩ := hx
  obtain ⟨l, rfl⟩ := hy
  exact ⟨k + l, by rw [Int.cast_add, add_div]⟩

theorem Multiple.mono {scale finer : ℕ} {x : K} [CharZero K] (h : Multiple scale x)
    (le : scale ≤ finer) : Multiple finer x := by
  obtain ⟨k, rfl⟩ := h
  have unit : (10 : K) ≠ 0 := by norm_num
  refine ⟨k * 10 ^ (finer - scale), ?_⟩
  rw [div_eq_div_iff (pow_ne_zero _ unit) (pow_ne_zero _ unit)]
  push_cast
  rw [mul_assoc, ← pow_add, Nat.sub_add_cancel le]

theorem Multiple.sub {scale : ℕ} {x y : K} (hx : Multiple scale x) (hy : Multiple scale y) :
    Multiple scale (x - y) := by
  obtain ⟨k, rfl⟩ := hx
  obtain ⟨l, rfl⟩ := hy
  exact ⟨k - l, by rw [Int.cast_sub, sub_div]⟩

end Multiple

variable {K : Type*} [Field K] [LinearOrder K] [IsStrictOrderedRing K]

theorem scaled_intCast (scale : ℕ) (k : ℤ) : (k : K) / 10 ^ scale * 10 ^ scale = k :=
  div_mul_cancel₀ _ (by positivity)

theorem abs_scaled_intCast (scale : ℕ) (k : ℤ) :
    |(k : K) / 10 ^ scale| * 10 ^ scale = ((|k| : ℤ) : K) := by
  rw [abs_div, abs_of_pos (show (0 : K) < 10 ^ scale by positivity),
    div_mul_cancel₀ _ (by positivity), Int.cast_abs]

variable [FloorRing K]

theorem multiple_iff_floor {scale : ℕ} {x : K} :
    Multiple scale x ↔ (⌊x * 10 ^ scale⌋ : K) = x * 10 ^ scale := by
  constructor
  · rintro ⟨k, rfl⟩
    rw [scaled_intCast, Int.floor_intCast]
  · intro whole
    exact ⟨⌊x * 10 ^ scale⌋, by rw [whole, mul_div_cancel_right₀ _ (by positivity)]⟩

instance (scale : ℕ) (x : K) : Decidable (Multiple scale x) :=
  decidable_of_iff _ multiple_iff_floor.symm

def roundHalfEven (x : K) : ℤ :=
  if x - ⌊x⌋ < 1 / 2 then ⌊x⌋
  else if 1 / 2 < x - ⌊x⌋ then ⌊x⌋ + 1
  else if ⌊x⌋ % 2 = 0 then ⌊x⌋ else ⌊x⌋ + 1

def roundHalfAway (x : K) : ℤ := if 0 ≤ x then ⌊x + 1 / 2⌋ else ⌈x - 1 / 2⌉

@[simp] theorem roundHalfEven_intCast (k : ℤ) : roundHalfEven (k : K) = k := by
  simp only [roundHalfEven, Int.floor_intCast, sub_self, one_div, inv_pos, Nat.ofNat_pos, if_true]

@[simp] theorem roundHalfAway_intCast (k : ℤ) : roundHalfAway (k : K) = k := by
  unfold roundHalfAway
  split
  · rw [Int.floor_intCast_add, Int.floor_eq_zero_iff.mpr ⟨by positivity, by linarith⟩, add_zero]
  · rw [Int.ceil_eq_iff]
    constructor <;> linarith

/-- The unit in the last place of `x` written with `digits` significant digits. -/
def ulp (digits : ℕ) (x : K) : K := 10 ^ (Int.log 10 |x| + 1 - digits)

def significant (digits : ℕ) (x : K) : K :=
  if x = 0 then 0 else roundHalfEven (x / ulp digits x) * ulp digits x

/-- Fixed point with `precision` digits in all, `scale` of them after the point;
`none` on overflow. -/
def fixed (precision scale : ℕ) (x : K) : Option K :=
  if |roundHalfAway (x * 10 ^ scale)| < 10 ^ precision then
    some (roundHalfAway (x * 10 ^ scale) / 10 ^ scale)
  else none

theorem ulp_pos (digits : ℕ) (x : K) : 0 < ulp digits x := zpow_pos (by norm_num) _

theorem abs_roundHalfEven_sub_le (x : K) : |(roundHalfEven x : K) - x| ≤ 1 / 2 := by
  have below := Int.floor_le x
  have above := Int.lt_floor_add_one x
  rw [abs_le]
  unfold roundHalfEven
  split
  · constructor <;> linarith
  · split
    · push_cast
      constructor <;> linarith
    · split
      · constructor <;> linarith
      · push_cast
        constructor <;> linarith

omit [IsStrictOrderedRing K] in
theorem roundHalfEven_nonneg {x : K} (h : 0 ≤ x) : 0 ≤ roundHalfEven x := by
  have floor : 0 ≤ ⌊x⌋ := Int.floor_nonneg.mpr h
  unfold roundHalfEven
  split
  · exact floor
  · split
    · omega
    · split <;> omega

theorem roundHalfEven_le {x : K} {k : ℤ} (le : x ≤ k) : roundHalfEven x ≤ k := by
  rcases le.lt_or_eq with lt | rfl
  · have floor : ⌊x⌋ < k := Int.floor_lt.mpr lt
    unfold roundHalfEven
    split
    · omega
    · split
      · omega
      · split <;> omega
  · rw [roundHalfEven_intCast]

theorem significant_nonneg {x : K} (digits : ℕ) (h : 0 ≤ x) : 0 ≤ significant digits x := by
  unfold significant
  split
  · exact le_rfl
  · have whole := roundHalfEven_nonneg (div_nonneg h (ulp_pos digits x).le)
    exact mul_nonneg (by exact_mod_cast whole) (ulp_pos digits x).le

theorem roundHalfAway_nonneg {x : K} (h : 0 ≤ x) : 0 ≤ roundHalfAway x := by
  rw [roundHalfAway, if_pos h]
  exact Int.floor_nonneg.mpr (by linarith)

theorem fixed_nonneg {precision scale : ℕ} {x y : K} (fits : fixed precision scale x = some y)
    (h : 0 ≤ x) : 0 ≤ y := by
  unfold fixed at fits
  split at fits
  · obtain rfl := Option.some.inj fits
    have whole := roundHalfAway_nonneg (show 0 ≤ x * 10 ^ scale by positivity)
    exact div_nonneg (by exact_mod_cast whole) (by positivity)
  · cases fits

/-- A value that is shorter than its digits by a scale has a unit that divides that of the scale. -/
theorem exists_ulp {digits scale : ℕ} {x : K} (wide : x = 0 → scale < digits)
    (small : |x| * 10 ^ scale < 10 ^ digits) :
    ∃ m : ℕ, ulp digits x = (10 ^ scale * 10 ^ m)⁻¹ := by
  have exponent : Int.log 10 |x| + 1 - digits ≤ -(scale : ℤ) := by
    by_cases zero : x = 0
    · have room := wide zero
      rw [zero, abs_zero, Int.log_zero_right]
      omega
    · have below : |x| < (10 : K) ^ ((digits : ℤ) - scale) := by
        rw [zpow_sub₀ (by norm_num), lt_div_iff₀ (zpow_pos (by norm_num) _)]
        exact_mod_cast small
      have low : Int.log 10 |x| < (digits : ℤ) - scale :=
        (Int.lt_zpow_iff_log_lt (by norm_num) (abs_pos.mpr zero)).mp (by exact_mod_cast below)
      omega
  obtain ⟨m, hm⟩ :=
    Int.eq_ofNat_of_zero_le (a := -(scale : ℤ) - (Int.log 10 |x| + 1 - digits)) (by omega)
  refine ⟨m, ?_⟩
  rw [ulp, ← zpow_natCast, ← zpow_natCast, ← zpow_add₀ (by norm_num), ← zpow_neg]
  congr 1
  omega

theorem significant_multiple {digits scale : ℕ} {x : K} (hx : Multiple scale x)
    (small : |x| * 10 ^ scale < 10 ^ digits) : significant digits x = x := by
  by_cases zero : x = 0
  · rw [significant, if_pos zero, zero]
  · obtain ⟨k, hk⟩ := hx
    obtain ⟨m, unit⟩ := exists_ulp (fun none => absurd none zero) small
    have whole : x / ulp digits x = ((k * 10 ^ m : ℤ) : K) := by
      rw [unit, hk]
      push_cast
      field_simp
    rw [significant, if_neg zero, whole, roundHalfEven_intCast, ← whole]
    exact div_mul_cancel₀ x (ulp_pos digits x).ne'

/-- Rounding does not pass a value that needs none. -/
theorem significant_le {digits scale : ℕ} {x bound : K} (fits : Multiple scale bound)
    (small : bound * 10 ^ scale < 10 ^ digits) (nonneg : 0 ≤ x) (le : x ≤ bound) :
    significant digits x ≤ bound := by
  by_cases zero : x = 0
  · rw [significant, if_pos zero]
    exact nonneg.trans le
  · obtain ⟨k, rfl⟩ := fits
    have unit : (0 : K) < 10 ^ scale := by positivity
    have size : |x| * 10 ^ scale < 10 ^ digits := by
      rw [abs_of_nonneg nonneg]
      exact (mul_le_mul_of_nonneg_right le unit.le).trans_lt small
    obtain ⟨m, last⟩ := exists_ulp (fun none => absurd none zero) size
    have positive := ulp_pos digits x
    have whole : (k : K) / 10 ^ scale = ((k * 10 ^ m : ℤ) : K) * ulp digits x := by
      rw [last]
      push_cast
      field_simp
    rw [significant, if_neg zero, whole, mul_le_mul_iff_left₀ positive, Int.cast_le]
    apply roundHalfEven_le
    rw [div_le_iff₀ positive, ← whole]
    exact le

theorem fixed_multiple {precision scale : ℕ} {x : K} (hx : Multiple scale x)
    (small : |x| * 10 ^ scale < 10 ^ precision) : fixed precision scale x = some x := by
  obtain ⟨k, rfl⟩ := hx
  rw [abs_scaled_intCast] at small
  have bound : |k| < 10 ^ precision := by exact_mod_cast small
  rw [fixed, scaled_intCast, roundHalfAway_intCast, if_pos bound]

theorem Multiple.of_fixed {precision scale : ℕ} {x y : K} (h : fixed precision scale x = some y) :
    Multiple scale y ∧ |y| * 10 ^ scale < 10 ^ precision := by
  unfold fixed at h
  split at h
  · rename_i small
    rw [Option.some.injEq] at h
    subst h
    refine ⟨⟨_, rfl⟩, ?_⟩
    rw [abs_scaled_intCast]
    exact_mod_cast small
  · cases h

theorem fixed_eq_self {precision scale : ℕ} {x y : K} (hx : Multiple scale x)
    (h : fixed precision scale x = some y) : y = x := by
  obtain ⟨k, rfl⟩ := hx
  unfold fixed at h
  rw [scaled_intCast, roundHalfAway_intCast] at h
  split at h
  · exact (Option.some.inj h).symm
  · cases h

/-- What is no larger than a value that fits does not overflow. -/
theorem fixed_of_le {precision scale : ℕ} {x bound : K} (fits : Multiple scale bound)
    (small : bound * 10 ^ scale < 10 ^ precision) (nonneg : 0 ≤ x) (le : x ≤ bound) :
    ∃ y, fixed precision scale x = some y := by
  obtain ⟨k, rfl⟩ := fits
  rw [scaled_intCast] at small
  have unit : (0 : K) < 10 ^ scale := by positivity
  have scaled : x * 10 ^ scale ≤ k := (le_div_iff₀ unit).mp le
  have lower : 0 ≤ roundHalfAway (x * 10 ^ scale) :=
    roundHalfAway_nonneg (mul_nonneg nonneg unit.le)
  have upper : roundHalfAway (x * 10 ^ scale) < k + 1 := by
    rw [roundHalfAway, if_pos (mul_nonneg nonneg unit.le), Int.floor_lt]
    push_cast
    linarith
  have limit : k < 10 ^ precision := by exact_mod_cast small
  unfold fixed
  rw [if_pos (by rw [abs_of_nonneg lower]; omega)]
  exact ⟨_, rfl⟩

theorem fixed_units {precision scale : ℕ} {x y : K} (nonneg : 0 ≤ x)
    (fits : fixed precision scale x = some y) : y * 10 ^ scale = ⌊x * 10 ^ scale + 1 / 2⌋ := by
  have unit : (0 : K) < 10 ^ scale := by positivity
  unfold fixed at fits
  split at fits
  · obtain rfl := Option.some.inj fits
    rw [div_mul_cancel₀ _ unit.ne', roundHalfAway, if_pos (mul_nonneg nonneg unit.le)]
  · cases fits

/-! ## Rounding twice

A value with a fixed number of significant digits that is rounded again to a fixed scale: the
first rounding moves the half-way points down by half a unit in the last place. -/

theorem le_roundHalfEven_iff {k : ℤ} (even : k % 2 = 0) {x : K} :
    k ≤ roundHalfEven x ↔ (k : K) - 1 / 2 ≤ x := by
  have below := Int.floor_le x
  have above := Int.lt_floor_add_one x
  unfold roundHalfEven
  split
  · rename_i down
    constructor
    · intro le
      have le' : (k : K) ≤ ⌊x⌋ := Int.cast_le.mpr le
      linarith
    · intro le
      have lt : (k : K) < ((⌊x⌋ + 1 : ℤ) : K) := by
        push_cast
        linarith
      exact Int.lt_add_one_iff.mp (Int.cast_lt.mp lt)
  · split
    · rename_i up
      constructor
      · intro le
        have le' : (k : K) ≤ ((⌊x⌋ + 1 : ℤ) : K) := Int.cast_le.mpr le
        push_cast at le'
        linarith
      · intro le
        have lt : (k : K) < ((⌊x⌋ + 1 + 1 : ℤ) : K) := by
          push_cast
          linarith
        exact Int.lt_add_one_iff.mp (Int.cast_lt.mp lt)
    · rename_i notDown notUp
      have tie : x = ⌊x⌋ + 1 / 2 := by linarith
      have reach : (k : K) - 1 / 2 ≤ x ↔ k ≤ ⌊x⌋ + 1 := by
        rw [← Int.cast_le (R := K)]
        push_cast
        constructor <;> intro le <;> linarith
      rw [reach]
      split <;> omega

theorem significant_eq (digits : ℕ) (x : K) :
    significant digits x = roundHalfEven (x / ulp digits x) * ulp digits x := by
  unfold significant
  split
  · rename_i zero
    rw [zero, zero_div, ← Int.cast_zero (R := K), roundHalfEven_intCast, Int.cast_zero, zero_mul]
  · rfl

/-- A value that is an even number of units in the last place is not passed by rounding, unless
by half a unit. -/
theorem le_significant_iff {digits : ℕ} {x : K} {k : ℤ} (even : k % 2 = 0) :
    (k : K) * ulp digits x ≤ significant digits x ↔
      (k : K) * ulp digits x - ulp digits x / 2 ≤ x := by
  have unit := ulp_pos digits x
  rw [significant_eq, mul_le_mul_iff_left₀ unit, Int.cast_le, le_roundHalfEven_iff even,
    le_div_iff₀ unit, sub_mul]
  ring_nf

theorem ulp_le {digits : ℕ} {x : K} (some : 0 < digits) (nonzero : x ≠ 0) : ulp digits x ≤ |x| :=
  calc
    ulp digits x ≤ 10 ^ Int.log 10 |x| := zpow_le_zpow_right₀ (by norm_num) (by omega)
    _ ≤ |x| := Int.zpow_log_le_self (by norm_num) (abs_pos.mpr nonzero)

/-- Rounding to at least one digit moves a value by at most a half of itself. -/
theorem abs_significant_le {digits : ℕ} (some : 0 < digits) (x : K) :
    |significant digits x| ≤ 2 * |x| := by
  by_cases zero : x = 0
  · rw [significant, if_pos zero, zero, abs_zero, mul_zero]
  · have unit := ulp_pos digits x
    have near := mul_le_mul_of_nonneg_right (abs_roundHalfEven_sub_le (x / ulp digits x)) unit.le
    rw [← abs_of_pos unit, ← abs_mul, abs_of_pos unit, sub_mul, div_mul_cancel₀ _ unit.ne',
      ← significant_eq] at near
    have last := ulp_le some zero
    have split := abs_sub_abs_le_abs_sub (significant digits x) x
    linarith [abs_nonneg x]

/-- A half-way point of the scale is an even number of units in the last place. -/
theorem halfway_even {digits scale : ℕ} {x : K} (wide : scale + 2 < digits)
    (small : |x| * 10 ^ (scale + 2) < 10 ^ digits) (n : ℤ) :
    ∃ k : ℤ, k % 2 = 0 ∧ ((n : K) - 1 / 2) / 10 ^ scale = k * ulp digits x := by
  obtain ⟨m, unit⟩ := exists_ulp (fun _ => wide) small
  refine ⟨2 * ((2 * n - 1) * (25 * 10 ^ m)), Int.mul_emod_right 2 _, ?_⟩
  rw [unit]
  push_cast
  field_simp
  ring

theorem ulp_small {digits scale : ℕ} {x : K} (wide : scale + 2 < digits)
    (small : |x| * 10 ^ (scale + 2) < 10 ^ digits) : ulp digits x * 10 ^ scale ≤ 1 / 100 := by
  obtain ⟨m, unit⟩ := exists_ulp (fun _ => wide) small
  have value : ulp digits x * 10 ^ scale = 1 / 100 / 10 ^ m := by
    rw [unit, pow_add]
    field_simp
    norm_num
  rw [value]
  exact div_le_self (by norm_num) (one_le_pow₀ (by norm_num))

theorem fixed_significant {digits precision scale : ℕ} {x y : K} (wide : scale + 2 < digits)
    (small : |x| * 10 ^ (scale + 2) < 10 ^ digits) (nonneg : 0 ≤ significant digits x)
    (fits : fixed precision scale (significant digits x) = some y) :
    y * 10 ^ scale = ⌊(x + ulp digits x / 2) * 10 ^ scale + 1 / 2⌋ := by
  have unit : (0 : K) < 10 ^ scale := by positivity
  have same : ∀ n : ℤ, n ≤ ⌊significant digits x * 10 ^ scale + 1 / 2⌋ ↔
      n ≤ ⌊(x + ulp digits x / 2) * 10 ^ scale + 1 / 2⌋ := by
    intro n
    obtain ⟨k, even, point⟩ := halfway_even wide small n
    have reached : (k : K) * ulp digits x ≤ significant digits x ↔ _ := le_significant_iff even
    rw [← point] at reached
    have passed : ((n : K) - 1 / 2) / 10 ^ scale - ulp digits x / 2 ≤ x ↔
        (n : K) ≤ (x + ulp digits x / 2) * 10 ^ scale + 1 / 2 := by
      rw [sub_le_iff_le_add, div_le_iff₀ unit, sub_le_iff_le_add]
    rw [Int.le_floor, Int.le_floor, ← passed, ← reached, div_le_iff₀ unit, sub_le_iff_le_add]
  rw [fixed_units nonneg fits]
  exact congrArg _ (le_antisymm ((same _).mp le_rfl) ((same _).mpr le_rfl))

/-! ## Rounding the parts of a whole

A whole number in two parts, each rounded half away from zero: the parts still make up the
whole, unless they are half-way. Half-way parts of one sign are both moved away from zero. -/

def Tie (x : K) : Prop := x - ⌊x⌋ = 1 / 2

theorem tie_iff {x : K} : Tie x ↔ ∃ n : ℤ, x = n + 1 / 2 := by
  constructor
  · intro tie
    exact ⟨⌊x⌋, eq_add_of_sub_eq' tie⟩
  · rintro ⟨n, rfl⟩
    have floor : ⌊(n : K) + 1 / 2⌋ = n := by
      rw [Int.floor_eq_iff]
      constructor <;> linarith
    rw [Tie, floor, add_sub_cancel_left]

@[simp] theorem roundHalfAway_neg (x : K) : roundHalfAway (-x) = -roundHalfAway x := by
  rcases lt_trichotomy x 0 with negative | rfl | positive
  · rw [roundHalfAway, if_pos (by linarith), roundHalfAway, if_neg (by linarith), ← Int.floor_neg]
    congr 1
    ring
  · have zero : roundHalfAway ((0 : ℤ) : K) = 0 := roundHalfAway_intCast 0
    rw [Int.cast_zero] at zero
    rw [neg_zero, zero, neg_zero]
  · rw [roundHalfAway, if_neg (by linarith), roundHalfAway, if_pos positive.le, ← Int.ceil_neg]
    congr 1
    ring

theorem abs_roundHalfAway_le {x : K} {k : ℤ} (bound : |x| ≤ k) : |roundHalfAway x| ≤ k := by
  obtain ⟨low, high⟩ := abs_le.mp bound
  unfold roundHalfAway
  split
  · have lower : 0 ≤ ⌊x + 1 / 2⌋ := Int.floor_nonneg.mpr (by linarith)
    have upper : ⌊x + 1 / 2⌋ < k + 1 := Int.floor_lt.mpr (by push_cast; linarith)
    rw [abs_of_nonneg lower]
    omega
  · have lower : -k - 1 < ⌈x - 1 / 2⌉ := Int.lt_ceil.mpr (by push_cast; linarith)
    have upper : ⌈x - 1 / 2⌉ ≤ 0 := Int.ceil_le.mpr (by push_cast; linarith)
    rw [abs_of_nonpos upper]
    omega

theorem Tie.neg {x : K} (tie : Tie x) : Tie (-x) := by
  have halves : x = ⌊x⌋ + 1 / 2 := eq_add_of_sub_eq' tie
  have floor : ⌊-x⌋ = -⌊x⌋ - 1 := by
    rw [Int.floor_eq_iff]
    push_cast
    constructor <;> linarith
  rw [Tie, floor]
  push_cast
  linarith

theorem floor_lt_of_not_tie {x : K} (untied : ¬ Tie x) : (⌊x + 1 / 2⌋ : K) < x + 1 / 2 := by
  have below := Int.floor_le (x + 1 / 2)
  refine lt_of_le_of_ne below fun whole => untied ?_
  have floor : ⌊x⌋ = ⌊x + 1 / 2⌋ - 1 := by
    rw [Int.floor_eq_iff]
    push_cast
    constructor <;> linarith
  rw [Tie, floor]
  push_cast
  linarith

theorem roundHalfAway_of_not_tie {x : K} (untied : ¬ Tie x) : roundHalfAway x = ⌊x + 1 / 2⌋ := by
  unfold roundHalfAway
  split
  · rfl
  · have below := floor_lt_of_not_tie untied
    have above := Int.lt_floor_add_one (x + 1 / 2)
    rw [Int.ceil_eq_iff]
    constructor <;> linarith

theorem not_tie_intCast_sub {x : K} (k : ℤ) (untied : ¬ Tie x) : ¬ Tie ((k : K) - x) := by
  intro tie
  have shifted : Tie (x - k) := by
    rw [← neg_sub]
    exact tie.neg
  rw [Tie, Int.floor_sub_intCast] at shifted
  push_cast at shifted
  exact untied (by rw [Tie]; linarith)

theorem roundHalfAway_parts {k : ℤ} {x : K} (untied : ¬ Tie x) :
    roundHalfAway ((k : K) - x) + roundHalfAway x = k := by
  rw [roundHalfAway_of_not_tie untied, roundHalfAway_of_not_tie (not_tie_intCast_sub k untied)]
  have below := floor_lt_of_not_tie untied
  have above := Int.lt_floor_add_one (x + 1 / 2)
  have rest : ⌊(k : K) - x + 1 / 2⌋ = k - ⌊x + 1 / 2⌋ := by
    rw [Int.floor_eq_iff]
    push_cast
    constructor <;> linarith
  omega

/-- Two half-way parts of one sign gain a unit. -/
theorem roundHalfAway_tied {k : ℤ} {x : K} (tie : Tie x) (part : 0 ≤ x) (rest : 0 ≤ (k : K) - x) :
    roundHalfAway ((k : K) - x) + roundHalfAway x = k + 1 := by
  have halves : x = ⌊x⌋ + 1 / 2 := eq_add_of_sub_eq' tie
  have first : ⌊x + 1 / 2⌋ = ⌊x⌋ + 1 := by
    rw [Int.floor_eq_iff]
    push_cast
    constructor <;> linarith
  have second : ⌊(k : K) - x + 1 / 2⌋ = k - ⌊x⌋ := by
    rw [Int.floor_eq_iff]
    push_cast
    constructor <;> linarith
  rw [roundHalfAway, roundHalfAway, if_pos part, if_pos rest, first, second]
  omega

end Lib.Rounding
