import Mathlib.Data.Rat.Floor
import RenderTrust.Lib.Rounding
import RenderTrust.Lib.Unicode

/-!
# The type `Decimal` of Python

What the constructor reads from a text, and the rounding of the default context, which has
limits for exponents. A number that is finite has a sign, a coefficient and an exponent of ten.
-/
namespace Lib.Decimal
open Lib.Unicode Lib.Rounding

inductive Numeral where
  | finite (negative : Bool) (coefficient : ℕ) (exponent : ℤ)
  | infinity (negative : Bool)
  | nan (negative signaling : Bool)
  deriving DecidableEq, Repr

/-! ## The constructor -/

/-- The text without the white space around it and without underscores, in the digits of
ASCII. -/
def plain (text : String) : List Char := ((strip text.toList).filter (· ≠ '_')).map asciiDigit

def signed : List Char → Bool × List Char
  | '+' :: rest => (false, rest)
  | '-' :: rest => (true, rest)
  | chars => (false, chars)

/-- What is between the digits before and after the point, and what follows them. -/
def fraction : List Char → List Char × List Char
  | '.' :: rest => (rest.takeWhile Char.isDigit, rest.dropWhile Char.isDigit)
  | chars => ([], chars)

def exponent : List Char → Option ℤ
  | [] => some 0
  | indicator :: rest =>
      let (negative, digits) := signed rest
      if indicator.toLower = 'e' ∧ digits ≠ [] ∧ digits.all Char.isDigit then
        some (if negative then -Nat.ofDigitChars 10 digits 0 else Nat.ofDigitChars 10 digits 0)
      else none

def number (negative : Bool) (chars : List Char) : Option Numeral :=
  let whole := chars.takeWhile Char.isDigit
  let (decimals, tail) := fraction (chars.dropWhile Char.isDigit)
  if whole ++ decimals = [] then none
  else (exponent tail).map fun e =>
    .finite negative (Nat.ofDigitChars 10 (whole ++ decimals) 0) (e - decimals.length)

/-- The name in letters of either case, and after it nothing but digits. -/
def named (name : String) (chars : List Char) : Bool :=
  name.toList.isPrefixOf (chars.map Char.toLower) &&
    (chars.drop name.toList.length).all Char.isDigit

def special (negative : Bool) (chars : List Char) : Option Numeral :=
  if chars.map Char.toLower = "inf".toList ∨ chars.map Char.toLower = "infinity".toList then
    some (.infinity negative)
  else if named "nan" chars then some (.nan negative false)
  else if named "snan" chars then some (.nan negative true)
  else none

def MAX_EMAX : ℤ := 999999999999999999
def MIN_ETINY : ℤ := -1999999999999999997

/-- The constructor is exact: what the implementation has no room for is refused. -/
def Numeral.fits : Numeral → Bool
  | .finite _ coefficient e => MIN_ETINY ≤ e ∧ e + Nat.log 10 coefficient ≤ MAX_EMAX
  | _ => true

/-- `Decimal(text)`; `none` is an `InvalidOperation`. -/
def ofText (text : String) : Option Numeral :=
  let (negative, chars) := signed (plain text)
  ((special negative chars).or (number negative chars)).filter Numeral.fits

example : ofText " +1_2.50e-1" = some (.finite false 1250 (-3)) ∧ ofText "sNaN12" =
    some (.nan false true) ∧ ofText "1e" = none := by decide +kernel

/-- A character that no text of a finite number has. -/
def foreign (c : Char) : Bool :=
  !isSpace c && c ≠ '_' && asciiDigit c = c && !c.isDigit && !(['+', '-', '.'].contains c) &&
    c.toLower ≠ 'e'

section Foreign
variable {c : Char} {chars : List Char}

theorem foreign_iff : foreign c ↔ isSpace c = false ∧ c ≠ '_' ∧ asciiDigit c = c ∧
    c.isDigit = false ∧ c ∉ ['+', '-', '.'] ∧ c.toLower ≠ 'e' := by
  simp [foreign, and_assoc]

theorem mem_plain {text : String} (alien : foreign c) (member : c ∈ text.toList) :
    c ∈ plain text := by
  obtain ⟨black, bar, same, -⟩ := foreign_iff.mp alien
  exact List.mem_map.mpr ⟨c, List.mem_filter.mpr ⟨mem_strip member black, decide_eq_true bar⟩, same⟩

theorem mem_signed (alien : foreign c) (member : c ∈ chars) : c ∈ (signed chars).2 := by
  obtain ⟨-, -, -, -, signs, -⟩ := foreign_iff.mp alien
  simp only [List.mem_cons, List.not_mem_nil, or_false, not_or] at signs
  unfold signed
  split
  · exact (List.mem_cons.mp member).resolve_left signs.1
  · exact (List.mem_cons.mp member).resolve_left signs.2.1
  · exact member

theorem mem_fraction (alien : foreign c) (member : c ∈ chars) : c ∈ (fraction chars).2 := by
  obtain ⟨-, -, -, digit, signs, -⟩ := foreign_iff.mp alien
  simp only [List.mem_cons, List.not_mem_nil, or_false, not_or] at signs
  unfold fraction
  split
  · exact mem_dropWhile ((List.mem_cons.mp member).resolve_left signs.2.2) digit
  · exact member

theorem exponent_foreign (alien : foreign c) (member : c ∈ chars) : exponent chars = none := by
  obtain ⟨-, -, -, digit, -, letter⟩ := foreign_iff.mp alien
  cases chars with
  | nil => exact absurd member List.not_mem_nil
  | cons indicator rest =>
      refine if_neg ?_
      rintro ⟨e, -, digits⟩
      rcases List.mem_cons.mp member with rfl | later
      · exact letter e
      · have all := List.all_eq_true.mp digits c (mem_signed alien later)
        rw [digit] at all
        cases all

theorem number_foreign (alien : foreign c) (member : c ∈ chars) (negative : Bool) :
    number negative chars = none := by
  have digit := (foreign_iff.mp alien).2.2.2.1
  have tail := exponent_foreign alien (mem_fraction alien (mem_dropWhile member digit))
  unfold number
  simp only [tail, Option.map_none]
  exact ite_self _

theorem special_ne_finite {negative sign : Bool} {coefficient : ℕ} {e : ℤ} :
    special negative chars ≠ some (.finite sign coefficient e) := by
  unfold special
  split
  · nofun
  · split
    · nofun
    · split <;> nofun

/-- Nothing foreign is in the text of a finite number. -/
theorem not_mem_of_finite {text : String} {negative : Bool} {coefficient : ℕ} {e : ℤ}
    (read : ofText text = some (.finite negative coefficient e)) (alien : foreign c) :
    c ∉ text.toList := by
  intro member
  have inside := mem_signed alien (mem_plain alien member)
  obtain ⟨either, -⟩ := Option.filter_eq_some_iff.mp read
  rcases Option.or_eq_some_iff.mp either with named | ⟨-, numeric⟩
  · exact special_ne_finite named
  · have none := number_foreign alien inside (signed (plain text)).1
    exact absurd (none.symm.trans numeric) nofun

end Foreign

def value (negative : Bool) (coefficient : ℕ) (e : ℤ) : ℚ :=
  (if negative then -(coefficient : ℚ) else coefficient) * 10 ^ e

theorem value_multiple {scale : ℕ} {e : ℤ} (few : -(scale : ℤ) ≤ e) (negative : Bool)
    (coefficient : ℕ) : Multiple scale (value negative coefficient e) := by
  obtain ⟨n, shift⟩ := Int.eq_ofNat_of_zero_le (a := e + scale) (by omega)
  have power : (10 : ℚ) ^ e = 10 ^ n / 10 ^ scale := by
    rw [eq_div_iff (by positivity), ← zpow_natCast, ← zpow_natCast, ← zpow_add₀ (by norm_num),
      shift]
  refine ⟨(if negative then -(coefficient : ℤ) else coefficient) * 10 ^ n, ?_⟩
  rw [value, power]
  push_cast
  ring

/-! ## Arithmetic in a context -/

structure Context where
  prec : ℕ
  emin : ℤ
  emax : ℤ

def defaultContext : Context := ⟨28, -999999, 999999⟩

namespace Context
variable (c : Context)

def etiny : ℤ := c.emin - c.prec + 1

/-- A result is rounded half to even, to the last place that numbers near zero have if it is one
of them. `none` is an `Overflow`. -/
def rounded (x : ℚ) : Option ℚ :=
  if |x| < 10 ^ c.emin then some (roundHalfEven (x / 10 ^ c.etiny) * 10 ^ c.etiny)
  else if |significant c.prec x| < 10 ^ (c.emax + 1) then some (significant c.prec x)
  else none

variable {c} {x y : ℚ}

theorem roundHalfEven_neg_iff {z : ℚ} : roundHalfEven z < 0 ↔ z < -(1 / 2) := by
  have least : ((0 : ℤ) : ℤ) ≤ roundHalfEven z ↔ ((0 : ℤ) : ℚ) - 1 / 2 ≤ z :=
    le_roundHalfEven_iff (by decide)
  rw [← not_le, least, not_le, Int.cast_zero, zero_sub]

theorem scaled_neg_iff {unit : ℚ} (positive : 0 < unit) :
    (roundHalfEven (x / unit) : ℚ) * unit < 0 ↔ x < -(unit / 2) := by
  rw [← not_le, mul_nonneg_iff_of_pos_right positive, not_le, Int.cast_lt_zero,
    roundHalfEven_neg_iff, div_lt_iff₀ positive]
  ring_nf

theorem significant_neg_iff {digits : ℕ} :
    significant digits x < 0 ↔ x < -(ulp digits x / 2) := by
  rw [significant_eq]
  exact scaled_neg_iff (ulp_pos digits x)

/-- A result is below zero unless it is rounded to zero. -/
theorem rounded_neg_iff (digits : 0 < c.prec) (result : c.rounded x = some y) :
    y < 0 ↔ x < -(10 ^ c.etiny / 2) := by
  have least : (0 : ℚ) < 10 ^ c.etiny := zpow_pos (by norm_num) _
  unfold rounded at result
  split at result
  · rw [← Option.some.inj result]
    exact scaled_neg_iff least
  · rename_i normal
    obtain ⟨-, same⟩ := Option.ite_none_right_eq_some.mp result
    obtain rfl := Option.some.inj same
    rw [not_lt] at normal
    have order : (10 : ℚ) ^ c.etiny ≤ 10 ^ c.emin :=
      zpow_le_zpow_right₀ (by norm_num) (by unfold etiny; omega)
    rw [significant_neg_iff]
    have unit := ulp_pos c.prec x
    constructor
    · intro below
      rw [abs_of_neg (by linarith)] at normal
      linarith
    · intro below
      have last : ulp c.prec x ≤ |x| := ulp_le digits (by linarith)
      rw [abs_of_neg (by linarith)] at last
      linarith

theorem rounded_isSome_iff (digits : 0 < c.prec) (range : c.emin ≤ c.emax) :
    (c.rounded x).isSome ↔ |significant c.prec x| < 10 ^ (c.emax + 1) := by
  unfold rounded
  split
  · rename_i small
    refine iff_of_true rfl ?_
    calc
      |significant c.prec x| ≤ 2 * |x| := abs_significant_le digits x
      _ < 10 * 10 ^ c.emin := by linarith [abs_nonneg x]
      _ = 10 ^ (c.emin + 1) := by rw [zpow_add_one₀ (by norm_num), mul_comm]
      _ ≤ 10 ^ (c.emax + 1) := zpow_le_zpow_right₀ (by norm_num) (by omega)
  · split
    · rename_i fits
      exact iff_of_true rfl fits
    · rename_i exceeds
      exact iff_of_false Bool.false_ne_true exceeds

/-- Nothing is lost near zero on a value of few decimals. -/
theorem rounded_of_multiple {scale : ℕ} (few : Multiple scale x) (normal : (scale : ℤ) ≤ -c.emin) :
    c.rounded x = if |significant c.prec x| < 10 ^ (c.emax + 1) then some (significant c.prec x)
      else none := by
  unfold rounded
  split
  · rename_i small
    have zero : x = 0 := by
      obtain ⟨k, rfl⟩ := few
      have unit : (0 : ℚ) < 10 ^ scale := by positivity
      have bound : |(k : ℚ) / 10 ^ scale| * 10 ^ scale < 1 := by
        have scaled := mul_lt_mul_of_pos_right small unit
        have power : (10 : ℚ) ^ c.emin * 10 ^ scale ≤ 1 := by
          rw [← zpow_natCast, ← zpow_add₀ (by norm_num)]
          exact zpow_le_one_of_nonpos₀ (by norm_num) (by omega)
        linarith
      rw [abs_scaled_intCast] at bound
      have none : k = 0 := Int.abs_lt_one_iff.mp (by exact_mod_cast bound)
      rw [none, Int.cast_zero, zero_div]
    have kept : significant c.prec x = 0 := by rw [significant, if_pos zero]
    rw [kept, abs_zero, if_pos (zpow_pos (by norm_num) _), zero, zero_div,
      ← Int.cast_zero (R := ℚ), roundHalfEven_intCast, Int.cast_zero, zero_mul]
  · rfl

theorem rounded_neg_iff_of_multiple {scale : ℕ} (digits : 0 < c.prec) (few : Multiple scale x)
    (normal : (scale : ℤ) ≤ -c.emin) (result : c.rounded x = some y) : y < 0 ↔ x < 0 := by
  rw [rounded_neg_iff digits result]
  have least : (0 : ℚ) < 10 ^ c.etiny := zpow_pos (by norm_num) _
  constructor
  · intro below
    linarith
  · intro below
    obtain ⟨k, rfl⟩ := few
    have unit : (0 : ℚ) < 10 ^ scale := by positivity
    have negative : (k : ℚ) < 0 := by
      by_contra whole
      exact absurd below (not_lt.mpr (div_nonneg (not_lt.mp whole) unit.le))
    have step : (k : ℚ) ≤ -1 := by
      have strict : k < 0 := Int.cast_lt_zero.mp negative
      exact_mod_cast Int.le_sub_one_of_lt strict
    have order : (10 : ℚ) ^ c.etiny ≤ 1 / 10 ^ scale := by
      rw [one_div, ← zpow_natCast, ← zpow_neg]
      exact zpow_le_zpow_right₀ (by norm_num) (by unfold etiny; omega)
    have far : (k : ℚ) / 10 ^ scale ≤ -(1 / 10 ^ scale) := by
      rw [← neg_div]
      exact div_le_div_of_nonneg_right step unit.le
    linarith

end Context

end Lib.Decimal
