import Mathlib.Algebra.Order.Floor.Ring
import Mathlib.Data.Rat.Floor

/-!
# The text of a decimal

The to-scientific-string of decimal arithmetic: the digits of the coefficient with a
point among them, or one digit before the point and an exponent after it.
-/
namespace Lib.DecimalText

def coefficient (exponent : ℤ) (x : ℚ) : ℕ := ⌊|x| / 10 ^ exponent⌋.toNat

/-- The digits with `place` of them before the point. -/
def pointed (digits : List Char) (place : ℤ) : List Char :=
  if place ≤ 0 then '0' :: '.' :: (List.replicate (-place).toNat '0' ++ digits)
  else if digits.length ≤ place then
    digits ++ List.replicate (place - digits.length).toNat '0'
  else digits.take place.toNat ++ '.' :: digits.drop place.toNat

/-- What follows the digits when the point is `n` places from where it should be. -/
def shifted (n : ℤ) : List Char :=
  if n = 0 then [] else 'E' :: (if n < 0 then '-' else '+') :: Nat.toDigits 10 n.natAbs

/-- The text of `x`, whose coefficient counts units of `10 ^ exponent`. -/
def str (exponent : ℤ) (x : ℚ) : String :=
  let digits := Nat.toDigits 10 (coefficient exponent x)
  let left := exponent + digits.length
  let place := if exponent ≤ 0 ∧ -6 < left then left else 1
  String.ofList ((if x < 0 then ['-'] else []) ++ pointed digits place ++ shifted (left - place))

theorem mem_pointed {digits : List Char} {place : ℤ} {c : Char} (h : c ∈ pointed digits place) :
    c ∈ digits ∨ c = '0' ∨ c = '.' := by
  unfold pointed at h
  split at h
  · simp only [List.mem_cons, List.mem_append] at h
    rcases h with zero | point | zero | digit
    · exact .inr (.inl zero)
    · exact .inr (.inr point)
    · exact .inr (.inl (List.eq_of_mem_replicate zero))
    · exact .inl digit
  · split at h
    · rcases List.mem_append.mp h with digit | zero
      · exact .inl digit
      · exact .inr (.inl (List.eq_of_mem_replicate zero))
    · simp only [List.mem_cons, List.mem_append] at h
      rcases h with digit | point | digit
      · exact .inl (List.mem_of_mem_take digit)
      · exact .inr (.inr point)
      · exact .inl (List.mem_of_mem_drop digit)

theorem isDigit_toDigits {n : ℕ} {c : Char} (h : c ∈ Nat.toDigits 10 n) : c.isDigit :=
  Nat.isDigit_of_mem_toDigits (by decide) (by decide) h

theorem mem_shifted {n : ℤ} {c : Char} (h : c ∈ shifted n) :
    c.isDigit ∨ c ∈ ['-', '+', 'E'] := by
  unfold shifted at h
  split at h
  · exact absurd h List.not_mem_nil
  · simp only [List.mem_cons] at h
    rcases h with rfl | sign | digit
    · decide
    · split at sign
      · rw [sign]
        decide
      · rw [sign]
        decide
    · exact .inl (isDigit_toDigits digit)

theorem mem_str {exponent : ℤ} {x : ℚ} {c : Char} (h : c ∈ (str exponent x).toList) :
    c.isDigit ∨ c ∈ ['-', '+', '.', 'E'] := by
  simp only [str, String.toList_ofList, List.mem_append] at h
  rcases h with (minus | body) | tail
  · split at minus
    · rw [List.mem_singleton.mp minus]
      decide
    · exact absurd minus List.not_mem_nil
  · rcases mem_pointed body with digit | rfl | rfl
    · exact .inl (isDigit_toDigits digit)
    · decide
    · decide
  · rcases mem_shifted tail with digit | other
    · exact .inl digit
    · refine .inr ?_
      simp only [List.mem_cons] at other ⊢
      tauto

example : str (-1) 10 = "10.0" ∧ str 2 12300 = "1.23E+4" := by decide +kernel

end Lib.DecimalText
