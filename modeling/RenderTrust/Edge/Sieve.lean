import Mathlib.Data.Nat.Prime.Basic
import Mathlib.Data.Nat.Sqrt
import Mathlib.Order.Interval.Finset.Nat

/-!
# The sieve of `edgekit/workers/plugins/cpu.py`

A `bytearray` is a list of bytes. The invariant of the loop says of every position whether it was
cleared: a number is, if a prime that was passed divides it and is not the number itself.
-/
namespace RenderTrust.Edge

namespace CpuBenchmarkPlugin

/-- `bytes[start::step] = bytearray(len(bytes[start::step]))`. -/
def clear (start step : ℕ) (bytes : List UInt8) : List UInt8 :=
  bytes.mapIdx fun k byte => if start ≤ k ∧ (k - start) % step = 0 then 0 else byte

/-- The body of the loop. -/
def mark (isPrime : List UInt8) (i : ℕ) : List UInt8 :=
  if isPrime.getD i 0 ≠ 0 then clear (i * i) i isPrime else isPrime

/-- `bytearray(b"\x01") * (limit + 1)` without 0 and 1. -/
def unmarked (limit : ℕ) : List UInt8 := ((List.replicate (limit + 1) 1).set 0 0).set 1 0

/-- The array after the loop. -/
def marked (limit : ℕ) : List UInt8 :=
  (List.range' 2 (Nat.sqrt limit + 1 - 2)).foldl mark (unmarked limit)

/-- `_sieve_of_eratosthenes`. -/
def sieveOfEratosthenes (limit : ℤ) : ℕ :=
  if limit < 2 then 0 else ((marked limit.toNat).map UInt8.toNat).sum

/-- No prime below `i` divides the number, or the number itself is that prime. -/
def Unmarked (i k : ℕ) : Prop := 2 ≤ k ∧ ∀ p < i, p.Prime → p ∣ k → p = k

instance (i k : ℕ) : Decidable (Unmarked i k) :=
  inferInstanceAs (Decidable (2 ≤ k ∧ ∀ p < i, p.Prime → p ∣ k → p = k))

/-- What the array is before `i` is looked at. -/
def table (i limit : ℕ) : List UInt8 :=
  (List.range (limit + 1)).map fun k => if Unmarked i k then 1 else 0

section Positions
variable {i k limit : ℕ}

theorem unmarked_two : Unmarked 2 k ↔ 2 ≤ k := by
  refine and_iff_left fun p less prime => ?_
  exact absurd prime.two_le (not_le.mpr less)

/-- What is reached unmarked is prime. -/
theorem prime_iff_unmarked (two : 2 ≤ i) : i.Prime ↔ Unmarked i i := by
  constructor
  · intro prime
    refine ⟨two, fun p _ prime' divides => ?_⟩
    exact (Nat.prime_dvd_prime_iff_eq prime' prime).mp divides
  · rintro ⟨-, alone⟩
    by_contra composite
    have less : i.minFac < i := (Nat.not_prime_iff_minFac_lt two).mp composite
    have same := alone i.minFac less (Nat.minFac_prime (by omega)) i.minFac_dvd
    omega

/-- A multiple below the square has a smaller prime factor. -/
theorem Unmarked.square_le (unmarked : Unmarked i k) (divides : i ∣ k) (other : i ≠ k) :
    i * i ≤ k := by
  obtain ⟨m, rfl⟩ := divides
  obtain ⟨two, alone⟩ := unmarked
  have many : m ≠ 1 := by
    rintro rfl
    exact other (Nat.mul_one i).symm
  have positive : 0 < m := by
    obtain rfl | positive := Nat.eq_zero_or_pos m
    · omega
    · exact positive
  have least : i ≤ m.minFac := by
    by_contra less
    have same : m.minFac = i * m :=
      alone m.minFac (not_le.mp less) (Nat.minFac_prime many) (m.minFac_dvd.mul_left i)
    have factor : i * m ≤ m := same ▸ Nat.minFac_le positive
    have one : i ≤ 1 := Nat.le_of_mul_le_mul_right (by simpa using factor) positive
    have two' : 2 ≤ m.minFac := (Nat.minFac_prime many).two_le
    have below : i * m ≤ 1 := by
      rw [← same]
      omega
    omega
  exact Nat.mul_le_mul_left i (least.trans (Nat.minFac_le positive))

theorem mod_eq_zero_iff (le : i * i ≤ k) : (k - i * i) % i = 0 ↔ i ∣ k := by
  rw [← Nat.dvd_iff_mod_eq_zero]
  exact Nat.dvd_sub_iff_left le (dvd_mul_right i i)

theorem unmarked_succ (prime : i.Prime) :
    Unmarked (i + 1) k ↔ Unmarked i k ∧ ¬ (i * i ≤ k ∧ (k - i * i) % i = 0) := by
  constructor
  · intro after
    refine ⟨⟨after.1, fun p less => after.2 p (less.trans (Nat.lt_succ_self i))⟩, ?_⟩
    rintro ⟨square, cleared⟩
    have same : i = k := after.2 i (Nat.lt_succ_self i) prime ((mod_eq_zero_iff square).mp cleared)
    have grows : i < i * i := (Nat.lt_mul_self_iff).mpr prime.one_lt
    omega
  · rintro ⟨before, kept⟩
    refine ⟨before.1, fun p less prime' divides => ?_⟩
    obtain less | rfl := Nat.lt_succ_iff_lt_or_eq.mp less
    · exact before.2 p less prime' divides
    · by_contra other
      have square := before.square_le divides other
      exact kept ⟨square, (mod_eq_zero_iff square).mpr divides⟩

theorem unmarked_succ_of_not_prime (composite : ¬ i.Prime) :
    Unmarked (i + 1) k ↔ Unmarked i k := by
  refine and_congr_right fun _ => ?_
  constructor
  · intro after p less
    exact after p (less.trans (Nat.lt_succ_self i))
  · intro before p less prime
    have other : p ≠ i := by
      rintro rfl
      exact composite prime
    exact before p (by omega) prime

/-- Past the square root the unmarked numbers are the primes. -/
theorem unmarked_iff_prime (square : k < i * i) : Unmarked i k ↔ k.Prime := by
  constructor
  · rintro ⟨two, alone⟩
    by_contra composite
    have factor : k.minFac ^ 2 ≤ k := Nat.minFac_sq_le_self (by omega) composite
    have less : k.minFac < i := by
      by_contra le
      have : i * i ≤ k.minFac ^ 2 := (sq k.minFac).symm ▸ Nat.mul_self_le_mul_self (not_lt.mp le)
      omega
    have same := alone k.minFac less (Nat.minFac_prime (by omega)) k.minFac_dvd
    exact composite (same ▸ Nat.minFac_prime (by omega))
  · intro prime
    refine ⟨prime.two_le, fun p _ prime' divides => ?_⟩
    exact (Nat.prime_dvd_prime_iff_eq prime' prime).mp divides

theorem getElem?_table : (table i limit)[k]? =
    if k ≤ limit then some (if Unmarked i k then 1 else 0) else none := by
  unfold table
  by_cases inside : k ≤ limit
  · simp [inside, Nat.lt_succ_iff.mpr inside]
  · have outside : ¬k < limit + 1 := fun bound => inside (Nat.lt_succ_iff.mp bound)
    rw [List.getElem?_map, List.getElem?_eq_none (by simpa using outside), if_neg inside]
    rfl

/-- The array at the start of the loop. -/
theorem unmarked_eq : unmarked limit = table 2 limit := by
  refine List.ext_getElem? fun k => ?_
  simp only [getElem?_table, unmarked_two]
  rw [unmarked, List.getElem?_set, List.getElem?_set]
  by_cases inside : k ≤ limit
  · have bound : k < limit + 1 := Nat.lt_succ_iff.mpr inside
    obtain rfl | rfl | two : k = 0 ∨ k = 1 ∨ 2 ≤ k := by omega
    · simp
    · simp [bound, inside]
    · have first : 1 ≠ k := by omega
      have zero : 0 ≠ k := by omega
      simp [inside, two, first, zero, bound]
  · have zero : 0 ≠ k := by omega
    have outside : ¬k < limit + 1 := fun bound => inside (Nat.lt_succ_iff.mp bound)
    have nothing : (List.replicate (limit + 1) (1 : UInt8))[k]? = none := by
      rw [List.getElem?_replicate, if_neg outside]
    by_cases first : 1 = k
    · rw [if_pos first, List.length_set, List.length_replicate, if_neg (first ▸ outside),
        if_neg inside]
    · rw [if_neg first, if_neg zero, nothing, if_neg inside]

theorem getElem?_clear (start step : ℕ) (bytes : List UInt8) :
    (clear start step bytes)[k]? =
      bytes[k]?.map fun byte => if start ≤ k ∧ (k - start) % step = 0 then 0 else byte := by
  simp only [clear, List.getElem?_mapIdx]

/-- One pass of the loop. -/
theorem mark_table (two : 2 ≤ i) (inside : i ≤ limit) :
    mark (table i limit) i = table (i + 1) limit := by
  have looked : (table i limit).getD i 0 = if Unmarked i i then 1 else 0 := by
    simp [List.getD_eq_getElem?_getD, getElem?_table, inside]
  unfold mark
  rw [looked]
  by_cases prime : i.Prime
  · rw [if_pos ((prime_iff_unmarked two).mp prime), if_pos (by decide)]
    refine List.ext_getElem? fun k => ?_
    rw [getElem?_clear, getElem?_table, getElem?_table]
    by_cases le : k ≤ limit
    · simp only [le, if_true, Option.map_some, unmarked_succ prime]
      by_cases cleared : i * i ≤ k ∧ (k - i * i) % i = 0
      · simp only [cleared, and_self, not_true, and_false, if_true, if_false]
      · simp only [cleared, not_false_eq_true, and_true, if_false]
    · simp only [le, if_false, Option.map_none]
  · rw [if_neg (mt (prime_iff_unmarked two).mpr prime), if_neg (by decide)]
    refine List.ext_getElem? fun k => ?_
    simp only [getElem?_table, unmarked_succ_of_not_prime prime]

/-- The passes up to `n` more. -/
theorem foldl_mark (limit n : ℕ) (inside : 2 + n ≤ limit + 1) :
    (List.range' 2 n).foldl mark (table 2 limit) = table (2 + n) limit := by
  induction n with
  | zero => rfl
  | succ n ih =>
    rw [List.range'_1_concat, List.foldl_append, ih (by omega)]
    exact mark_table (by omega) (by omega)

/-- The array the sum is taken of. -/
theorem getElem?_marked (two : 2 ≤ limit) :
    (marked limit)[k]? = if k ≤ limit then some (if k.Prime then 1 else 0) else none := by
  have root : limit.sqrt ≤ limit := Nat.sqrt_le_self limit
  have one : 1 ≤ limit.sqrt := Nat.le_sqrt.mpr (by omega)
  have last : 2 + (limit.sqrt + 1 - 2) = limit.sqrt + 1 := by omega
  rw [marked, unmarked_eq, foldl_mark limit _ (by omega), last, getElem?_table]
  by_cases inside : k ≤ limit
  · have square : k < (limit.sqrt + 1) * (limit.sqrt + 1) :=
      lt_of_le_of_lt inside (Nat.lt_succ_sqrt limit)
    simp only [inside, if_true, unmarked_iff_prime square]
  · simp only [inside, if_false]

end Positions

/-- The sum of a table of ones and zeros. -/
theorem sum_ones (p : ℕ → Prop) [DecidablePred p] (n : ℕ) :
    ((List.range n).map fun k => ((if p k then 1 else 0 : UInt8)).toNat).sum =
      ((Finset.range n).filter p).card := by
  induction n with
  | zero => rfl
  | succ n ih =>
    rw [List.range_succ, List.map_append, List.sum_append, ih, Finset.range_add_one,
      Finset.filter_insert]
    by_cases holds : p n
    · simp [holds]
    · simp [holds]

theorem marked_eq {limit : ℕ} (two : 2 ≤ limit) :
    marked limit = (List.range (limit + 1)).map fun k => if k.Prime then 1 else 0 := by
  refine List.ext_getElem? fun k => ?_
  rw [getElem?_marked two]
  by_cases inside : k ≤ limit
  · simp [inside, Nat.lt_succ_iff.mpr inside]
  · have outside : ¬k < limit + 1 := fun bound => inside (Nat.lt_succ_iff.mp bound)
    rw [List.getElem?_map, List.getElem?_eq_none (by simpa using outside), if_neg inside]
    rfl

/-- The primes of the range, with or without its first two numbers. -/
theorem primes_range (limit : ℕ) :
    (Finset.range (limit + 1)).filter Nat.Prime = (Finset.Icc 2 limit).filter Nat.Prime := by
  ext k
  simp only [Finset.mem_filter, Finset.mem_range, Finset.mem_Icc, Nat.lt_succ_iff]
  constructor
  · rintro ⟨le, prime⟩
    exact ⟨⟨prime.two_le, le⟩, prime⟩
  · rintro ⟨⟨-, le⟩, prime⟩
    exact ⟨le, prime⟩

/-- The sieve counts the primes up to its limit, and its loop clears the other positions and
no more. -/
theorem sieveOfEratosthenes_eq (limit : ℤ) :
    sieveOfEratosthenes limit = ((Finset.Icc 2 limit.toNat).filter Nat.Prime).card ∧
      (2 ≤ limit → ∀ k : ℕ,
        (marked limit.toNat)[k]? =
          if k ≤ limit then some (if k.Prime then 1 else 0) else none) := by
  by_cases small : limit < 2
  · refine ⟨?_, fun two => absurd small (not_lt.mpr two)⟩
    have empty : Finset.Icc 2 limit.toNat = ∅ := Finset.Icc_eq_empty (by omega)
    rw [sieveOfEratosthenes, if_pos small, empty, Finset.filter_empty, Finset.card_empty]
  · have two : 2 ≤ limit.toNat := by omega
    refine ⟨?_, fun _ k => ?_⟩
    · rw [sieveOfEratosthenes, if_neg small, marked_eq two, List.map_map, ← primes_range,
        ← sum_ones]
      rfl
    · rw [getElem?_marked two]
      exact if_congr (by omega) rfl rfl

example : sieveOfEratosthenes 30 = 10 := by decide +kernel

end CpuBenchmarkPlugin
end RenderTrust.Edge
