import Mathlib.Data.List.Basic
import Mathlib.Data.List.GetD
import Mathlib.Data.Nat.Notation
import Mathlib.Logic.Function.Basic

/-!
# Lists kept in a mapping

A list is numbered from one: slot `i + 1` holds its element at `i` and every other
slot the default. Appending writes the first free slot and no other.
-/
namespace Lib.Slots
variable {α : Type*} {d x : α} {xs ys : List α} {b : ℕ}

def slots (d : α) (xs : List α) : ℕ → α
  | 0 => d
  | i + 1 => xs.getD i d

theorem slots_nil (d : α) : slots d [] = fun _ => d := by
  funext b
  cases b with
  | zero => rfl
  | succ i => simp only [slots, List.getD_nil]

theorem slots_used (used : 0 < b ∧ b ≤ xs.length) : xs[b - 1]? = some (slots d xs b) := by
  cases b with
  | zero => omega
  | succ i =>
      have below : i < xs.length := by omega
      simp only [slots, Nat.add_sub_cancel, List.getD_eq_getElem _ _ below,
        List.getElem?_eq_getElem below]

theorem slots_free (free : ¬(0 < b ∧ b ≤ xs.length)) : slots d xs b = d := by
  cases b with
  | zero => rfl
  | succ i =>
      have beyond : xs.length ≤ i := by omega
      simp only [slots, List.getD_eq_default _ _ beyond]

theorem slots_concat : slots d (xs ++ [x]) = Function.update (slots d xs) (xs.length + 1) x := by
  funext b
  cases b with
  | zero => rfl
  | succ i =>
      by_cases last : i = xs.length
      · subst last
        simp [slots]
      · have other : i + 1 ≠ xs.length + 1 := by omega
        rw [Function.update_of_ne other]
        by_cases below : i < xs.length
        · exact List.getD_append _ _ _ _ below
        · rw [slots_free (by simp; omega), slots_free (by omega)]

/-- What is appended later does not move what is there. -/
theorem slots_append (used : b ≤ xs.length) : slots d (xs ++ ys) b = slots d xs b := by
  cases b with
  | zero => rfl
  | succ i => exact List.getD_append _ _ _ _ used

/-- The slots of a list in order are in order. -/
theorem slots_pairwise {r : α → α → Prop} (refl : ∀ x, r x x) (sorted : xs.Pairwise r)
    {a : ℕ} (positive : 0 < a) (le : a ≤ b) (used : b ≤ xs.length) :
    r (slots d xs a) (slots d xs b) := by
  obtain rfl | lt := Nat.eq_or_lt_of_le le
  · exact refl _
  have first : xs[a - 1]? = some (slots d xs a) := slots_used (by omega)
  have second : xs[b - 1]? = some (slots d xs b) := slots_used (by omega)
  obtain ⟨below, at_a⟩ := List.getElem?_eq_some_iff.mp first
  obtain ⟨below', at_b⟩ := List.getElem?_eq_some_iff.mp second
  rw [← at_a, ← at_b]
  exact List.pairwise_iff_getElem.mp sorted _ _ below below' (by omega)

end Lib.Slots
