import Mathlib.Data.List.DropRight
import Mathlib.Data.List.ReduceOption
import RenderTrust.Lib.HashTree.Binding
import RenderTrust.Lib.ByteString

/-!
# Keys derived by hashing

HMAC over a hash function, and HKDF over HMAC. Beside a value stand the strings that are hashed for
it, in their order, so that equal values can be followed back to where their computations part.
-/
namespace Lib.Hkdf
open ByteString

structure Hash where
  digest : Bytes → Bytes
  block : ℕ
  size : ℕ
  length_digest : ∀ message, (digest message).length = size
  size_pos : 0 < size
  size_le_block : size ≤ block

/-! ## Filling with zeros -/

def fill (size : ℕ) (bytes : Bytes) : Bytes := bytes ++ List.replicate (size - bytes.length) 0

/-- Without the zeros at the end. -/
def strip (bytes : Bytes) : Bytes := bytes.rdropWhile fun byte => byte = 0

section Fill
variable {size n : ℕ} {a b : Bytes}

theorem length_fill (le : a.length ≤ size) : (fill size a).length = size := by
  rw [fill, List.length_append, List.length_replicate]
  omega

theorem strip_append_zeros (bytes : Bytes) (n : ℕ) :
    strip (bytes ++ List.replicate n 0) = strip bytes := by
  induction n with
  | zero => rw [List.replicate_zero, List.append_nil]
  | succ n ih =>
      rw [List.replicate_succ', ← List.append_assoc, strip, List.rdropWhile_concat_pos]
      · exact ih
      · simp only [decide_true]

/-- What is stripped are zeros. -/
theorem strip_append (bytes : Bytes) :
    strip bytes ++ List.replicate (bytes.length - (strip bytes).length) 0 = bytes := by
  have whole : strip bytes ++ bytes.rtakeWhile (fun byte => byte = 0) = bytes :=
    List.rdropWhile_append_rtakeWhile
  have zeros : bytes.rtakeWhile (fun byte => byte = 0) =
      List.replicate (bytes.length - (strip bytes).length) 0 := by
    rw [List.eq_replicate_iff]
    constructor
    · have lengths := congrArg List.length whole
      rw [List.length_append] at lengths
      omega
    · intro byte member
      simpa using List.mem_rtakeWhile_imp member
  rw [← zeros, whole]

theorem fill_eq_iff (first : a.length ≤ size) (second : b.length ≤ size) :
    fill size a = fill size b ↔ strip a = strip b := by
  constructor
  · intro same
    rw [← strip_append_zeros a (size - a.length), ← strip_append_zeros b (size - b.length)]
    exact congrArg strip same
  · intro same
    have short : ∀ {c : Bytes}, c.length ≤ size →
        fill size c = strip c ++ List.replicate (size - (strip c).length) 0 := by
      intro c le
      have prefixed : (strip c).length ≤ c.length := (List.rdropWhile_prefix _ _).length_le
      nth_rewrite 1 [fill, ← strip_append c]
      rw [List.append_assoc, ← List.replicate_add]
      congr 2
      omega
    rw [short first, short second, same]

end Fill

/-! ## HMAC -/

def mask (byte : UInt8) (bytes : Bytes) : Bytes := bytes.map fun other => other ^^^ byte

namespace Hash
variable (H : Hash)

/-- A key longer than a block is hashed. -/
def material (key : Bytes) : Bytes := if H.block < key.length then H.digest key else key

def blockKey (key : Bytes) : Bytes := fill H.block (H.material key)

def innerInput (key message : Bytes) : Bytes := mask 0x36 (H.blockKey key) ++ message

def outerInput (key message : Bytes) : Bytes :=
  mask 0x5c (H.blockKey key) ++ H.digest (H.innerInput key message)

def hmac (key message : Bytes) : Bytes := H.digest (H.outerInput key message)

/-- The steps of `hmac`; the first is taken by a long key only. -/
def hmacInputs (key message : Bytes) : List (Option Bytes) :=
  [if H.block < key.length then some key else none,
    some (H.innerInput key message), some (H.outerInput key message)]

end Hash

/-- In one step of two computations different strings are hashed to one digest. -/
def Collision (digest : Bytes → Bytes) (first second : List (Option Bytes)) : Prop :=
  ∃ a b, (some a, some b) ∈ first.zip second ∧ a ≠ b ∧ digest a = digest b

section Collision
variable {digest : Bytes → Bytes} {first second rest rest' : List (Option Bytes)}

theorem Collision.collides (collision : Collision digest first second) :
    HashTree.Collides digest (first.reduceOption ++ second.reduceOption) := by
  obtain ⟨a, b, paired, differ, same⟩ := collision
  obtain ⟨left, right⟩ := List.of_mem_zip paired
  refine ⟨a, List.mem_append_left _ ?_, b, List.mem_append_right _ ?_, differ, same⟩
  · exact List.reduceOption_mem_iff.mpr left
  · exact List.reduceOption_mem_iff.mpr right

theorem Collision.append_right (collision : Collision digest first second)
    (lengths : first.length = second.length) :
    Collision digest (first ++ rest) (second ++ rest') := by
  obtain ⟨a, b, paired, differ, same⟩ := collision
  refine ⟨a, b, ?_, differ, same⟩
  rw [List.zip_append lengths]
  exact List.mem_append_left _ paired

theorem Collision.append_left (collision : Collision digest rest rest')
    (lengths : first.length = second.length) :
    Collision digest (first ++ rest) (second ++ rest') := by
  obtain ⟨a, b, paired, differ, same⟩ := collision
  refine ⟨a, b, ?_, differ, same⟩
  rw [List.zip_append lengths]
  exact List.mem_append_right _ paired

theorem eq_of_mem_zip_self {α : Type*} {a b : α} {l : List α} (member : (a, b) ∈ l.zip l) :
    a = b := by
  induction l with
  | nil => cases member
  | cons head l ih =>
      rw [List.zip_cons_cons, List.mem_cons] at member
      obtain same | later := member
      · obtain ⟨left, right⟩ := Prod.mk.inj same
        exact left.trans right.symm
      · exact ih later

/-- Two computations that agree after their first step collide there or nowhere. -/
theorem Collision.head {step step' : Option Bytes}
    (collision : Collision digest (step :: rest) (step' :: rest)) :
    step.isSome ∧ step'.isSome := by
  obtain ⟨a, b, paired, differ, -⟩ := collision
  rw [List.zip_cons_cons, List.mem_cons] at paired
  obtain same | later := paired
  · obtain ⟨rfl, rfl⟩ := Prod.mk.inj same
    exact ⟨rfl, rfl⟩
  · exact absurd (Option.some.inj (eq_of_mem_zip_self later)) differ

end Collision

section Hmac
variable {H : Hash} {key key' message message' : Bytes}

theorem mask_injective (byte : UInt8) : Function.Injective (mask byte) := by
  refine List.map_injective_iff.mpr fun a b same => ?_
  have twice := congrArg (· ^^^ byte) same
  simpa only [UInt8.xor_assoc, UInt8.xor_self, UInt8.xor_zero] using twice

theorem length_mask (byte : UInt8) (bytes : Bytes) : (mask byte bytes).length = bytes.length :=
  List.length_map _

theorem length_material (key : Bytes) : (H.material key).length ≤ H.block := by
  unfold Hash.material
  split
  · rw [H.length_digest]
    exact H.size_le_block
  · omega

theorem length_blockKey (key : Bytes) : (H.blockKey key).length = H.block :=
  length_fill (length_material key)

theorem blockKey_eq_iff :
    H.blockKey key = H.blockKey key' ↔ strip (H.material key) = strip (H.material key') :=
  fill_eq_iff (length_material key) (length_material key')

/-- Two long keys that act as one have the same digest. -/
theorem digest_eq_of_blockKey_eq (long : H.block < key.length) (long' : H.block < key'.length)
    (same : H.blockKey key = H.blockKey key') : H.digest key = H.digest key' := by
  have digests : fill H.block (H.digest key) = fill H.block (H.digest key') := by
    simpa only [Hash.blockKey, Hash.material, long, long', if_true] using same
  exact (List.append_inj digests (by rw [H.length_digest, H.length_digest])).1

/-- The strings that begin with masked keys. -/
theorem masked_inj {byte : UInt8}
    (same : mask byte (H.blockKey key) ++ message = mask byte (H.blockKey key') ++ message') :
    H.blockKey key = H.blockKey key' ∧ message = message' := by
  have lengths : (mask byte (H.blockKey key)).length = (mask byte (H.blockKey key')).length := by
    simp only [length_mask, length_blockKey]
  obtain ⟨keys, messages⟩ := List.append_inj same lengths
  exact ⟨mask_injective byte keys, messages⟩

theorem hmac_congr (same : H.blockKey key = H.blockKey key') (message : Bytes) :
    H.innerInput key message = H.innerInput key' message ∧
      H.outerInput key message = H.outerInput key' message := by
  simp only [Hash.outerInput, Hash.innerInput, same, and_self]

theorem hmac_same (same : H.hmac key message = H.hmac key' message') :
    (H.blockKey key = H.blockKey key' ∧ message = message') ∨
      Collision H.digest (H.hmacInputs key message) (H.hmacInputs key' message') := by
  by_cases outer : H.outerInput key message = H.outerInput key' message'
  · have inner := (masked_inj outer).2
    by_cases agree : H.innerInput key message = H.innerInput key' message'
    · exact .inl (masked_inj agree)
    · refine .inr ⟨_, _, ?_, agree, inner⟩
      simp only [Hash.hmacInputs, List.zip_cons_cons, List.mem_cons, true_or, or_true]
  · refine .inr ⟨_, _, ?_, outer, same⟩
    simp only [Hash.hmacInputs, List.zip_cons_cons, List.mem_cons, true_or, or_true]

end Hmac

/-! ## HKDF -/

/-- What is hashed for block `i + 1`, behind the block before it. -/
def blockMessage (previous info : Bytes) (i : ℕ) : Bytes :=
  previous ++ info ++ [UInt8.ofNat (i + 1)]

namespace Hash
variable (H : Hash)

def extract (salt input : Bytes) : Bytes := H.hmac salt input

def expandBlock (prk info : Bytes) : ℕ → Bytes
  | 0 => []
  | i + 1 => H.hmac prk (blockMessage (expandBlock prk info i) info i)

def blocks (length : ℕ) : ℕ := (length + H.size - 1) / H.size

def expand (prk info : Bytes) (length : ℕ) : Bytes :=
  ((List.range (H.blocks length)).flatMap fun i => H.expandBlock prk info (i + 1)).take length

def derive (salt info input : Bytes) (length : ℕ) : Bytes :=
  H.expand (H.extract salt input) info length

def expandInputs (prk info : Bytes) (length : ℕ) : List (Option Bytes) :=
  (List.range (H.blocks length)).flatMap fun i =>
    H.hmacInputs prk (blockMessage (H.expandBlock prk info i) info i)

def deriveInputs (salt info input : Bytes) (length : ℕ) : List (Option Bytes) :=
  H.hmacInputs salt input ++ H.expandInputs (H.extract salt input) info length

/-- Salts that HMAC keeps apart: it fills a short one with zeros and hashes a long one. -/
def Separated (salt salt' : Bytes) : Prop :=
  (H.block < salt.length ∧ H.block < salt'.length) ∨
    strip (H.material salt) ≠ strip (H.material salt')

instance (salt salt' : Bytes) : Decidable (H.Separated salt salt') :=
  inferInstanceAs (Decidable (_ ∨ _))

end Hash

section Hkdf
variable {H : Hash} {salt salt' prk prk' info input : Bytes} {length : ℕ}

/-- A pseudorandom key is a digest, and no digest is hashed again. -/
theorem extract_inj
    (same : H.blockKey (H.extract salt input) = H.blockKey (H.extract salt' input)) :
    H.extract salt input = H.extract salt' input := by
  have short : ∀ salt, H.material (H.extract salt input) = H.extract salt input := by
    intro salt
    have size : (H.extract salt input).length = H.size := H.length_digest _
    exact if_neg (by rw [size]; exact not_lt.mpr H.size_le_block)
  unfold Hash.blockKey at same
  rw [short, short] at same
  refine (List.append_inj same ?_).1
  exact (H.length_digest _).trans (H.length_digest _).symm

theorem blocks_eq_succ (long : H.size ≤ length) : ∃ n, H.blocks length = n + 1 := by
  have positive : 0 < H.blocks length := by
    have pos := H.size_pos
    exact Nat.div_pos (by omega) pos
  exact ⟨H.blocks length - 1, by omega⟩

theorem take_expand (long : H.size ≤ length) :
    (H.expand prk info length).take H.size = H.hmac prk (blockMessage [] info 0) := by
  obtain ⟨n, blocks⟩ := blocks_eq_succ long
  rw [Hash.expand, blocks, List.range_succ_eq_map, List.flatMap_cons, List.take_take,
    Nat.min_eq_left long]
  exact List.take_left' (H.length_digest _)

theorem expandInputs_eq (prk info : Bytes) (long : H.size ≤ length) :
    ∃ rest, H.expandInputs prk info length =
      H.hmacInputs prk (blockMessage [] info 0) ++ rest := by
  obtain ⟨n, blocks⟩ := blocks_eq_succ long
  rw [Hash.expandInputs, blocks, List.range_succ_eq_map, List.flatMap_cons]
  exact ⟨_, rfl⟩

theorem expand_same (long : H.size ≤ length)
    (same : H.expand prk info length = H.expand prk' info length) :
    H.blockKey prk = H.blockKey prk' ∨
      Collision H.digest (H.expandInputs prk info length) (H.expandInputs prk' info length) := by
  have first := congrArg (List.take H.size) same
  rw [take_expand long, take_expand long] at first
  obtain ⟨keys, -⟩ | collision := hmac_same first
  · exact .inl keys
  · obtain ⟨rest, made⟩ := expandInputs_eq prk info long
    obtain ⟨rest', made'⟩ := expandInputs_eq prk' info long
    rw [made, made']
    exact .inr (collision.append_right rfl)

/-- Keys that are equal come from salts that act as one, or their computations collide. -/
theorem derive_same (long : H.size ≤ length)
    (same : H.derive salt info input length = H.derive salt' info input length) :
    H.blockKey salt = H.blockKey salt' ∨
      Collision H.digest (H.deriveInputs salt info input length)
        (H.deriveInputs salt' info input length) := by
  obtain keys | collision := expand_same long same
  · obtain ⟨salts, -⟩ | collision := hmac_same (extract_inj keys)
    · exact .inl salts
    · exact .inr (collision.append_right rfl)
  · exact .inr (collision.append_left rfl)

theorem derive_congr (same : H.blockKey salt = H.blockKey salt') :
    H.derive salt info input length = H.derive salt' info input length := by
  have outer := (hmac_congr same input).2
  simp only [Hash.derive, Hash.extract, Hash.hmac, outer]

/-- Salts that act as one share every step but the first. -/
theorem deriveInputs_congr (same : H.blockKey salt = H.blockKey salt') :
    ∃ rest, H.deriveInputs salt info input length =
        (if H.block < salt.length then some salt else none) :: rest ∧
      H.deriveInputs salt' info input length =
        (if H.block < salt'.length then some salt' else none) :: rest := by
  obtain ⟨inner, outer⟩ := hmac_congr same input
  have extracted : H.extract salt input = H.extract salt' input := congrArg H.digest outer
  refine ⟨some (H.innerInput salt' input) :: some (H.outerInput salt' input) ::
    H.expandInputs (H.extract salt' input) info length, ?_, rfl⟩
  rw [← inner, ← outer, ← extracted]
  rfl

/-- Of salts that act as one, only the hashing of the salts themselves can collide. -/
theorem long_of_collision (same : H.blockKey salt = H.blockKey salt')
    (collision : Collision H.digest (H.deriveInputs salt info input length)
      (H.deriveInputs salt' info input length)) :
    H.block < salt.length ∧ H.block < salt'.length := by
  obtain ⟨rest, made, made'⟩ := deriveInputs_congr same
  rw [made, made'] at collision
  obtain ⟨left, right⟩ := collision.head
  constructor
  · by_contra short
    rw [if_neg short] at left
    cases left
  · by_contra short
    rw [if_neg short] at right
    cases right

/-- Different salts give different keys, up to collisions, exactly where HMAC keeps them apart. -/
theorem separated_iff (long : H.size ≤ length) (differ : salt ≠ salt') :
    (H.derive salt info input length = H.derive salt' info input length →
      Collision H.digest (H.deriveInputs salt info input length)
        (H.deriveInputs salt' info input length)) ↔ H.Separated salt salt' := by
  constructor
  · intro collides
    by_contra joined
    obtain ⟨short, stripped⟩ := not_or.mp joined
    have same : H.blockKey salt = H.blockKey salt' := blockKey_eq_iff.mpr (not_not.mp stripped)
    exact short (long_of_collision same (collides (derive_congr same)))
  · intro separated same
    obtain keys | collision := derive_same long same
    · obtain ⟨longer, longer'⟩ | stripped := separated
      · refine ⟨salt, salt', ?_, differ, digest_eq_of_blockKey_eq longer longer' keys⟩
        simp only [Hash.deriveInputs, Hash.hmacInputs, if_pos longer, if_pos longer',
          List.cons_append, List.zip_cons_cons, List.mem_cons, true_or]
      · exact absurd (blockKey_eq_iff.mp keys) stripped
    · exact collision

end Hkdf

end Lib.Hkdf
