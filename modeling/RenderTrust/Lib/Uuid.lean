import RenderTrust.Lib.ByteString

/-!
# UUIDs

A 128-bit number, and its text in the canonical form 8-4-4-4-12.
-/
namespace Lib
open Lib.ByteString

abbrev Uuid := Fin (2 ^ 128)

namespace Uuid

-- Named once: a numeral or a membership test at this type carries no proof of its own.
instance : NeZero (2 ^ 128 : ℕ) := ⟨by decide⟩

instance : LawfulBEq Uuid := inferInstance

def digits (u : Uuid) : List Char := (toBigEndian 16 u.val).flatMap hexPair

def dashed (digits : List Char) : List Char :=
  digits.take 8 ++ '-' :: ((digits.drop 8).take 4 ++ '-' :: ((digits.drop 12).take 4 ++
    '-' :: ((digits.drop 16).take 4 ++ '-' :: digits.drop 20)))

def str (u : Uuid) : String := String.ofList (dashed (digits u))

theorem mem_hexPair {bytes : Bytes} {c : Char} (h : c ∈ bytes.flatMap hexPair) :
    ∃ n : Fin 16, c = Nat.digitChar n := by
  obtain ⟨byte, _, member⟩ := List.mem_flatMap.mp h
  have size := byte.toNat_lt
  simp only [hexPair, List.mem_cons, List.not_mem_nil, or_false] at member
  rcases member with rfl | rfl
  · exact ⟨⟨byte.toNat / 16, by omega⟩, rfl⟩
  · exact ⟨⟨byte.toNat % 16, by omega⟩, rfl⟩

theorem not_dash_hexPair {bytes : Bytes} {c : Char} (h : c ∈ bytes.flatMap hexPair) : c ≠ '-' := by
  obtain ⟨n, rfl⟩ := mem_hexPair h
  clear h
  revert n
  decide

/-- The digits are what is left when the dashes are taken out. -/
theorem filter_dashed {digits : List Char} (plain : ∀ c ∈ digits, c ≠ '-') :
    (dashed digits).filter (· ≠ '-') = digits := by
  have keep : ∀ part : List Char, part ⊆ digits → part.filter (· ≠ '-') = part := by
    intro part inside
    exact List.filter_eq_self.mpr fun c hc => decide_eq_true (plain c (inside hc))
  have inner : ∀ m n, (digits.drop m).take n ⊆ digits := fun m n =>
    List.Subset.trans (List.take_subset n _) (List.drop_subset m _)
  have join : ∀ m n, (digits.drop m).take n ++ digits.drop (m + n) = digits.drop m := by
    intro m n
    rw [← List.drop_drop]
    exact List.take_append_drop n _
  simp only [dashed, List.filter_append, List.filter_cons, ne_eq, not_true_eq_false, decide_false,
    Bool.false_eq_true, if_false]
  rw [keep _ (List.take_subset 8 _), keep _ (inner 8 4), keep _ (inner 12 4), keep _ (inner 16 4),
    keep _ (List.drop_subset 20 _), join 16 4, join 12 4, join 8 4]
  exact List.take_append_drop 8 digits

theorem length_digits (u : Uuid) : (digits u).length = 32 := by
  have pairs : ∀ bytes : Bytes, (bytes.flatMap hexPair).length = 2 * bytes.length := by
    intro bytes
    induction bytes with
    | nil => rfl
    | cons byte bytes ih =>
        rw [List.flatMap_cons, List.length_append, ih, List.length_cons]
        simp only [hexPair, List.length_cons, List.length_nil]
        omega
  rw [digits, pairs, length_toBigEndian]

theorem length_str (u : Uuid) : (str u).length = 36 := by
  rw [str, String.length_ofList]
  simp only [dashed, List.length_append, List.length_cons, List.length_take, List.length_drop,
    length_digits]
  omega

/-! ## Reading -/

/-- `chars` without the occurrences of `text`, from left to right; `skip` counts the rest of
one that has begun. -/
def without (text : List Char) : ℕ → List Char → List Char
  | _, [] => []
  | skip + 1, _ :: chars => without text skip chars
  | 0, c :: chars =>
      if text.isPrefixOf (c :: chars) then without text (text.length - 1) chars
      else c :: without text 0 chars

def isBrace (c : Char) : Bool := c = '\x7b' ∨ c = '\x7d'

def bare (chars : List Char) : List Char :=
  ((((without "uuid:".toList 0 (without "urn:".toList 0 chars)).dropWhile isBrace).reverse.dropWhile
    isBrace).reverse).filter (· ≠ '-')

/-- 32 hexadecimal digits; braces, hyphens and a URN prefix are optional. Python's `UUID` reads the
32 characters with `int`, which takes a sign, `0x`, underscores, white space at the ends and digits
of other scripts for some of them; such texts are `none` here. -/
def parse (text : String) : Option Uuid :=
  match unhexPairs (bare text.toList) with
  | none => none
  | some bytes =>
      if h : bytes.length = 16 then
        some ⟨bigEndian bytes, (bigEndian_lt bytes).trans_eq (by rw [h]; norm_num)⟩
      else none

theorem without_of_absent {first : Char} {text chars : List Char} (absent : first ∉ chars) :
    without (first :: text) 0 chars = chars := by
  induction chars with
  | nil => rfl
  | cons c chars ih =>
      rw [List.mem_cons, not_or] at absent
      obtain ⟨other, rest⟩ := absent
      have mismatch : (first :: text).isPrefixOf (c :: chars) = false := by
        simp only [List.isPrefixOf, beq_eq_false_iff_ne.mpr other, Bool.false_and]
      rw [without, mismatch]
      exact congrArg (c :: ·) (ih rest)

theorem dropWhile_of_absent {p : Char → Bool} {chars : List Char} (absent : ∀ c ∈ chars, ¬ p c) :
    chars.dropWhile p = chars := by
  cases chars with
  | nil => rfl
  | cons c chars => exact List.dropWhile_cons_of_neg (absent c List.mem_cons_self)

theorem mem_str {u : Uuid} {c : Char} (h : c ∈ (str u).toList) :
    c = '-' ∨ ∃ n : Fin 16, c = Nat.digitChar n := by
  have digit : c ∈ digits u → c = '-' ∨ ∃ n : Fin 16, c = Nat.digitChar n :=
    fun member => .inr (mem_hexPair member)
  simp only [str, dashed, String.toList_ofList, List.mem_append, List.mem_cons] at h
  rcases h with h | dash | h | dash | h | dash | h | dash | h
  · exact digit (List.mem_of_mem_take h)
  · exact .inl dash
  · exact digit (List.mem_of_mem_drop (List.mem_of_mem_take h))
  · exact .inl dash
  · exact digit (List.mem_of_mem_drop (List.mem_of_mem_take h))
  · exact .inl dash
  · exact digit (List.mem_of_mem_drop (List.mem_of_mem_take h))
  · exact .inl dash
  · exact digit (List.mem_of_mem_drop h)

theorem ne_of_mem_str {u : Uuid} {c other : Char} (h : c ∈ (str u).toList) (dash : '-' ≠ other)
    (digit : ∀ n : Fin 16, Nat.digitChar n ≠ other) : c ≠ other := by
  rcases mem_str h with rfl | ⟨n, rfl⟩
  · exact dash
  · exact digit n

theorem plain_str {u : Uuid} {c : Char} (h : c ∈ (str u).toList) : c ≠ Char.ofNat 0 :=
  ne_of_mem_str h (by decide) (by decide)

theorem bare_str (u : Uuid) : bare (str u).toList = digits u := by
  have absent : 'u' ∉ (str u).toList := fun member =>
    ne_of_mem_str member (by decide) (by decide) rfl
  have braceless : ∀ c ∈ (str u).toList, ¬ isBrace c := by
    intro c member brace
    rcases of_decide_eq_true brace with same | same
    · exact ne_of_mem_str member (by decide) (by decide) same
    · exact ne_of_mem_str member (by decide) (by decide) same
  have braceless' : ∀ c ∈ (str u).toList.reverse, ¬ isBrace c := fun c member =>
    braceless c (List.mem_reverse.mp member)
  have urn : without "urn:".toList 0 (str u).toList = (str u).toList := without_of_absent absent
  have uuid : without "uuid:".toList 0 (str u).toList = (str u).toList := without_of_absent absent
  rw [bare, urn, uuid, dropWhile_of_absent braceless, dropWhile_of_absent braceless',
    List.reverse_reverse, str, String.toList_ofList]
  exact filter_dashed fun _ => not_dash_hexPair

theorem parse_str (u : Uuid) : parse (str u) = some u := by
  have value : bigEndian (toBigEndian 16 u.val) = u.val := by
    rw [bigEndian_toBigEndian]
    exact Nat.mod_eq_of_lt (lt_of_lt_of_eq u.isLt (by norm_num))
  unfold parse
  rw [bare_str, digits, unhexPairs_hexPair]
  simp only [length_toBigEndian, dif_pos]
  exact congrArg some (Fin.ext value)

theorem str_inj {u v : Uuid} (h : str u = str v) : u = v :=
  Option.some.inj ((parse_str u).symm.trans ((congrArg parse h).trans (parse_str v)))

end Uuid
end Lib
