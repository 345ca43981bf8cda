import Mathlib.Data.Int.Log
import Mathlib.Data.Rat.Floor
import RenderTrust.Lib.Rounding

/-!
# The arithmetic of doubles

A finite double is the rational number that it stands for. What is computed is rounded to the
nearest double, of two to the even one.
-/
namespace Lib.Doubles
open Rounding

/-- The exponent of the last place: 53 digits, and none beyond the smallest subnormal number. -/
def lastPlace (x : ℚ) : ℤ := max (Int.log 2 x - 52) (-1074)

/-- The nearest multiple of the last place, of two the even one. -/
def nearest (x : ℚ) : ℚ := roundHalfEven (x / 2 ^ lastPlace x) * 2 ^ lastPlace x

/-- What a result that may be negative is rounded to. -/
def rounded (x : ℚ) : ℚ := if x < 0 then -nearest (-x) else nearest x

/-- `sum(xs)` up to Python 3.11, which rounds each addition. -/
def sum (xs : List ℚ) : ℚ := xs.foldl (fun total x => rounded (total + x)) 0

/-- `round(x, digits)`. -/
def round (x : ℚ) (digits : ℕ) : ℚ := rounded (roundHalfEven (x * 10 ^ digits) / 10 ^ digits)

example : sum (List.replicate 3 (nearest (4 / 5))) ≠ 3 * nearest (4 / 5) := by decide +kernel

end Lib.Doubles
