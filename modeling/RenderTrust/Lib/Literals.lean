import RenderTrust.Lib.Decimal
import RenderTrust.Lib.Doubles

/-!
# Numbers that Python reads from a text

What `int` and `float` take from a text without white space around it. An underscore is between
two digits, and a float is the double nearest to what the text says.
-/
namespace Lib.Literals
open Lib.Unicode Lib.Decimal Lib.Doubles

/-! ## Integers -/

/-- The text without its underscores; `previous` is the character before it. -/
def joined (previous : Char) : List Char → Option (List Char)
  | [] => if previous = '_' then none else some []
  | c :: rest =>
      if c = '_' then if previous.isDigit then joined c rest else none
      else if previous = '_' ∧ ¬c.isDigit then none
      else (joined c rest).map (c :: ·)

/-- The limit of `sys.set_int_max_str_digits`. -/
def MAX_STR_DIGITS : ℕ := 4300

/-- `int(text)`; `none` is a `ValueError`. -/
def int (text : List Char) : Option ℤ := do
  let (negative, digits) := signed (← joined ' ' (text.map asciiDigit))
  if digits ≠ [] ∧ digits.all Char.isDigit ∧ digits.length ≤ MAX_STR_DIGITS then
    some (if negative then -Nat.ofDigitChars 10 digits 0 else Nat.ofDigitChars 10 digits 0)
  else none

example : int "-1_024".toList = some (-1024) ∧ int "1__0".toList = none ∧ int "6.0".toList = none ∧
    int "6\n2".toList = none := by decide +kernel

/-! ## Floats -/

/-- A number of binary64; a zero has a sign too. -/
inductive Double where
  | finite (negative : Bool) (magnitude : ℚ)
  | infinity (negative : Bool)
  | nan
  deriving DecidableEq

def Double.round (negative : Bool) (x : ℚ) : Double :=
  if 2 ^ 1024 ≤ nearest x then .infinity negative else .finite negative (nearest x)

/-- The quotient by a double that is positive. -/
def Double.div (x : Double) (divisor : ℚ) : Double :=
  match x with
  | .finite negative magnitude => .round negative (magnitude / divisor)
  | .infinity negative => .infinity negative
  | .nan => .nan

def Double.ofNumeral : Numeral → Double
  | .finite negative coefficient e => .round negative (coefficient * 10 ^ e)
  | .infinity negative => .infinity negative
  | .nan _ _ => .nan

/-- The names that are no number; a double has no digits after `nan`. -/
def nonFinite (negative : Bool) (chars : List Char) : Option Numeral :=
  let name := chars.map Char.toLower
  if name = "inf".toList ∨ name = "infinity".toList then some (.infinity negative)
  else if name = "nan".toList then some (.nan negative false)
  else none

/-- `float(text)`; `none` is a `ValueError`. -/
def float (text : List Char) : Option Double := do
  let (negative, chars) := signed (← joined ' ' (text.map asciiDigit))
  ((nonFinite negative chars).or (number negative chars)).map Double.ofNumeral

example : (float "75".toList).map (·.div 100) = some (.finite false (3 / 4)) ∧
    float "0.1".toList = some (.finite false (3602879701896397 / 2 ^ 55)) ∧
    float "[N/A]".toList = none := by decide +kernel

/-! ## The characters of an integer -/

section Characters
variable {c previous : Char} {text chars : List Char}

/-- A character that a text of an integer may have. -/
def numeric (c : Char) : Bool :=
  (asciiDigit c).isDigit || ['_', '+', '-'].contains (asciiDigit c)

theorem mem_joined (result : joined previous text = some chars) (member : c ∈ text)
    (bar : c ≠ '_') : c ∈ chars := by
  induction text generalizing previous chars with
  | nil => exact absurd member List.not_mem_nil
  | cons first rest ih =>
      rw [joined] at result
      split at result
      · rename_i underscore
        have later : c ∈ rest := (List.mem_cons.mp member).resolve_left (by rwa [underscore])
        split at result
        · exact ih result later
        · cases result
      · split at result
        · cases result
        · obtain ⟨others, tail, rfl⟩ := Option.map_eq_some_iff.mp result
          rcases List.mem_cons.mp member with rfl | later
          · exact List.mem_cons_self
          · exact List.mem_cons_of_mem _ (ih tail later)

theorem mem_signed (member : c ∈ chars) : c ∈ (signed chars).2 ∨ c = '+' ∨ c = '-' := by
  unfold signed
  split
  · rcases List.mem_cons.mp member with rfl | later
    · exact .inr (.inl rfl)
    · exact .inl later
  · rcases List.mem_cons.mp member with rfl | later
    · exact .inr (.inr rfl)
    · exact .inl later
  · exact .inl member

theorem numeric_of_int {n : ℤ} (result : int text = some n) (member : c ∈ text) : numeric c := by
  obtain ⟨chars, joint, rest⟩ := Option.bind_eq_some_iff.mp result
  have digit : asciiDigit c = '_' ∨ asciiDigit c ∈ chars := by
    rcases eq_or_ne (asciiDigit c) '_' with bar | bar
    · exact .inl bar
    · exact .inr (mem_joined joint (List.mem_map_of_mem member) bar)
  rw [numeric, Bool.or_eq_true]
  rcases digit with bar | kept
  · exact .inr (by rw [bar]; decide)
  · rcases mem_signed kept with body | plus | minus
    · obtain ⟨⟨-, digits, -⟩, -⟩ := Option.ite_none_right_eq_some.mp rest
      exact .inl (List.all_eq_true.mp digits _ body)
    · exact .inr (by rw [plus]; decide)
    · exact .inr (by rw [minus]; decide)

theorem int_eq_none (foreign : numeric c = false) (member : c ∈ text) : int text = none := by
  cases result : int text with
  | none => rfl
  | some n =>
      have digit := numeric_of_int result member
      rw [foreign] at digit
      cases digit

theorem int_nil : int [] = none := rfl

end Characters

end Lib.Literals
