import Mathlib.Data.List.Infix

/-!
# Lists with a separator

A list that is cut at the first place of a separator, or at the last, falls into the parts it was
put together of.
-/
namespace Lib.Separators

variable {α : Type*} {sep : α} {xs ys xs' ys' : List α}

theorem first_inj (front : sep ∉ xs) (front' : sep ∉ xs')
    (same : xs ++ sep :: ys = xs' ++ sep :: ys') : xs = xs' ∧ ys = ys' := by
  induction xs generalizing xs' with
  | nil =>
      cases xs' with
      | nil => exact ⟨rfl, (List.cons.inj same).2⟩
      | cons x xs' =>
          obtain ⟨rfl, -⟩ := List.cons.inj same
          exact absurd List.mem_cons_self front'
  | cons x xs ih =>
      cases xs' with
      | nil =>
          obtain ⟨rfl, -⟩ := List.cons.inj same
          exact absurd List.mem_cons_self front
      | cons x' xs' =>
          obtain ⟨rfl, rest⟩ := List.cons.inj same
          rw [List.mem_cons, not_or] at front front'
          obtain ⟨rfl, tails⟩ := ih front.2 front'.2 rest
          exact ⟨rfl, tails⟩

theorem last_inj (back : sep ∉ ys) (back' : sep ∉ ys')
    (same : xs ++ sep :: ys = xs' ++ sep :: ys') : xs = xs' ∧ ys = ys' := by
  have reversed : ys.reverse ++ sep :: xs.reverse = ys'.reverse ++ sep :: xs'.reverse := by
    simpa using congrArg List.reverse same
  rw [← List.mem_reverse] at back back'
  obtain ⟨ends, fronts⟩ := first_inj back back' reversed
  exact ⟨List.reverse_injective fronts, List.reverse_injective ends⟩

/-- What begins with a front and its separator has this front. -/
theorem first_of_prefix (front : sep ∉ xs) (front' : sep ∉ xs')
    (begins : xs ++ [sep] <+: xs' ++ sep :: ys') : xs = xs' := by
  obtain ⟨rest, same⟩ := begins
  rw [List.append_assoc, List.singleton_append] at same
  exact (first_inj front front' same).1

/-- A text without the separator does not lie across it. -/
theorem infix_iff {text : List α} (foreign : sep ∉ text) :
    text <:+: xs ++ sep :: ys ↔ text <:+: xs ∨ text <:+: ys := by
  have nothing : ∀ front, front <+: sep :: ys → sep ∉ front → front = [] := by
    intro front begins absent
    cases front with
    | nil => rfl
    | cons first front =>
        obtain ⟨rfl, -⟩ := List.cons_prefix_cons.mp begins
        exact absurd List.mem_cons_self absent
  constructor
  · intro inside
    rcases List.infix_append_iff.mp inside with left | right | ⟨front, back, rfl, ends, begins⟩
    · exact .inl left
    · rcases List.infix_cons_iff.mp right with begins | later
      · rw [nothing text begins foreign]
        exact .inl List.nil_infix
      · exact .inr later
    · rw [nothing back begins fun here => foreign (List.mem_append_right front here),
        List.append_nil]
      exact .inl ends.isInfix
  · rintro (left | right)
    · exact List.infix_append_of_infix_left left
    · exact List.infix_append_of_infix_right (List.infix_cons right)

end Lib.Separators
