import Mathlib.Tactic.Ring

/-!
# Byte strings

As big-endian numbers and as hexadecimal text.
-/
namespace Lib.ByteString

abbrev Bytes := List UInt8

def bigEndian (bytes : Bytes) : ℕ := bytes.foldl (fun n byte => n * 256 + byte.toNat) 0

def toBigEndian : ℕ → ℕ → Bytes
  | 0, _ => []
  | length + 1, n => UInt8.ofNat (n >>> (8 * length)) :: toBigEndian length n

theorem length_toBigEndian (length n : ℕ) : (toBigEndian length n).length = length := by
  induction length with
  | zero => rfl
  | succ length ih => rw [toBigEndian, List.length_cons, ih]

/-- The reading of a string after one that reads `n`. -/
theorem foldl_bigEndian (bytes : Bytes) (n : ℕ) :
    bytes.foldl (fun n byte => n * 256 + byte.toNat) n =
      n * 256 ^ bytes.length + bigEndian bytes := by
  induction bytes generalizing n with
  | nil => simp only [bigEndian, List.foldl_nil, List.length_nil, Nat.pow_zero, Nat.mul_one,
      Nat.add_zero]
  | cons byte bytes ih =>
      rw [bigEndian, List.foldl_cons, List.foldl_cons, ih, ih, List.length_cons, Nat.pow_succ]
      ring

theorem bigEndian_cons (byte : UInt8) (bytes : Bytes) :
    bigEndian (byte :: bytes) = byte.toNat * 256 ^ bytes.length + bigEndian bytes := by
  rw [bigEndian, List.foldl_cons, foldl_bigEndian, Nat.zero_mul, Nat.zero_add]

theorem bigEndian_lt (bytes : Bytes) : bigEndian bytes < 256 ^ bytes.length := by
  induction bytes with
  | nil => decide
  | cons byte bytes ih =>
      have digit := byte.toNat_lt
      have scaled := Nat.mul_le_mul_right (256 ^ bytes.length) (Nat.le_of_lt_succ digit)
      rw [bigEndian_cons, List.length_cons, Nat.pow_succ]
      omega

theorem bigEndian_inj {a b : Bytes} (length : a.length = b.length)
    (same : bigEndian a = bigEndian b) : a = b := by
  induction a generalizing b with
  | nil => exact (List.length_eq_zero_iff.mp length.symm).symm
  | cons x a ih =>
      cases b with
      | nil => cases length
      | cons y b =>
          have rest : a.length = b.length := Nat.succ.inj length
          have below := bigEndian_lt a
          have below' := bigEndian_lt b
          rw [bigEndian_cons, bigEndian_cons, ← rest] at same
          rw [← rest] at below'
          have weight : 0 < 256 ^ a.length := Nat.pow_pos (by decide)
          have head : x.toNat = y.toNat := by
            have quotient := congrArg (· / 256 ^ a.length) same
            rw [Nat.mul_comm, Nat.mul_comm y.toNat] at quotient
            simp only [Nat.mul_add_div weight, Nat.div_eq_of_lt below, Nat.div_eq_of_lt below',
              Nat.add_zero] at quotient
            exact quotient
          rw [UInt8.toNat_inj.mp head] at same ⊢
          rw [ih rest (Nat.add_left_cancel same)]

theorem bigEndian_toBigEndian (length n : ℕ) :
    bigEndian (toBigEndian length n) = n % 256 ^ length := by
  induction length with
  | zero => rw [Nat.pow_zero, Nat.mod_one, toBigEndian, bigEndian, List.foldl_nil]
  | succ length ih =>
      have byte : (UInt8.ofNat (n >>> (8 * length))).toNat = n / 256 ^ length % 256 := by
        rw [UInt8.toNat_ofNat', Nat.shiftRight_eq_div_pow, Nat.pow_mul]
      rw [toBigEndian, bigEndian_cons, ih, length_toBigEndian, byte, Nat.mod_pow_succ]
      ring

/-! ## Hexadecimal -/

def hexPair (byte : UInt8) : List Char :=
  [Nat.digitChar (byte.toNat / 16), Nat.digitChar (byte.toNat % 16)]

def hex (bytes : Bytes) : String := String.ofList (bytes.flatMap hexPair)

def hexValue (c : Char) : Option ℕ :=
  if '0' ≤ c ∧ c ≤ '9' then some (c.toNat - '0'.toNat)
  else if 'a' ≤ c ∧ c ≤ 'f' then some (c.toNat - 'a'.toNat + 10)
  else if 'A' ≤ c ∧ c ≤ 'F' then some (c.toNat - 'A'.toNat + 10)
  else none

def unhexPairs : List Char → Option Bytes
  | [] => some []
  | high :: low :: rest =>
      match hexValue high, hexValue low, unhexPairs rest with
      | some h, some l, some bytes => some (UInt8.ofNat (h * 16 + l) :: bytes)
      | _, _, _ => none
  | [_] => none

theorem hexValue_digitChar {n : ℕ} (h : n < 16) : hexValue (Nat.digitChar n) = some n := by
  have all : ∀ n : Fin 16, hexValue (Nat.digitChar n) = some n.val := by decide
  exact all ⟨n, h⟩

theorem unhexPairs_hexPair (bytes : Bytes) : unhexPairs (bytes.flatMap hexPair) = some bytes := by
  induction bytes with
  | nil => rfl
  | cons byte bytes ih =>
      have size := byte.toNat_lt
      have high := hexValue_digitChar (show byte.toNat / 16 < 16 by omega)
      have low := hexValue_digitChar (show byte.toNat % 16 < 16 by omega)
      have whole : byte.toNat / 16 * 16 + byte.toNat % 16 = byte.toNat := by omega
      rw [List.flatMap_cons, hexPair, List.cons_append, List.cons_append, List.nil_append,
        unhexPairs, high, low, ih]
      simp only [whole, UInt8.ofNat_toNat]

theorem digitChar_ne {n : ℕ} (h : n < 16) : Nat.digitChar n ≠ 'x' ∧ Nat.digitChar n ≠ 'X' := by
  have all : ∀ n : Fin 16, Nat.digitChar n ≠ 'x' ∧ Nat.digitChar n ≠ 'X' := by decide
  exact all ⟨n, h⟩

theorem length_flatMap_hexPair (bytes : Bytes) :
    (bytes.flatMap hexPair).length = 2 * bytes.length := by
  induction bytes with
  | nil => rfl
  | cons byte bytes ih =>
      rw [List.flatMap_cons, List.length_append, ih, List.length_cons]
      simp only [hexPair, List.length_cons, List.length_nil]
      omega

theorem even_length_hexPair (bytes : Bytes) : (bytes.flatMap hexPair).length % 2 = 0 := by
  rw [length_flatMap_hexPair, Nat.mul_mod_right]

theorem length_hex (bytes : Bytes) : (hex bytes).length = 2 * bytes.length := by
  rw [hex, String.length_ofList, length_flatMap_hexPair]

theorem hex_inj {a b : Bytes} (h : hex a = hex b) : a = b := by
  have chars : a.flatMap hexPair = b.flatMap hexPair := String.ofList_inj.mp h
  have read := unhexPairs_hexPair a
  rw [chars, unhexPairs_hexPair] at read
  exact (Option.some.inj read).symm

/-! ## UTF-8 -/

theorem fromUTF8?_toUTF8 (text : String) : String.fromUTF8? text.toUTF8 = some text :=
  dif_pos text.isValidUTF8

end Lib.ByteString
