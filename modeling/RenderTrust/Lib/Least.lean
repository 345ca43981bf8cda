import Mathlib.Order.Lattice
import RenderTrust.Lib.Keyed

/-!
# The first of the least rows

Among the rows that suit, the one with the least key that comes first in the table. Sorting
the table by the key and taking the first row that suits finds it.
-/
namespace Lib.Keyed

variable {α κ : Type*} [LinearOrder κ] {key : α → κ} {p q : α → Bool} {rows pre post : List α}
  {a b : α}

/-- `a` comes before the row that is best so far. -/
def better (key : α → κ) (p : α → Bool) (a : α) : Option α → Option α
  | none => if p a then some a else none
  | some b => if p a ∧ key a ≤ key b then some a else some b

def firstLeast (key : α → κ) (p : α → Bool) : List α → Option α
  | [] => none
  | a :: rows => better key p a (firstLeast key p rows)

theorem find?_orderedInsert (sorted : rows.Pairwise fun a b => key a ≤ key b) :
    (rows.orderedInsert (fun a b => key a ≤ key b) a).find? p = better key p a (rows.find? p) := by
  induction rows with
  | nil =>
      rw [List.orderedInsert_nil, List.find?_singleton, List.find?_nil, better]
  | cons b rows ih =>
      obtain ⟨least, sorted⟩ := List.pairwise_cons.mp sorted
      by_cases before : key a ≤ key b
      · rw [List.orderedInsert_cons, if_pos before, List.find?_cons]
        cases found : (b :: rows).find? p with
        | none => cases suits : p a <;> simp [better, suits]
        | some c =>
            have below : key a ≤ key c := by
              rcases List.mem_cons.mp (List.mem_of_find?_eq_some found) with rfl | later
              · exact before
              · exact before.trans (least c later)
            cases suits : p a <;> simp [better, suits, below]
      · rw [List.orderedInsert_cons, if_neg before, List.find?_cons, List.find?_cons, ih sorted]
        cases suits : p b with
        | true => simp [better, before]
        | false => rfl

/-- Sort, then scan. -/
theorem find?_orderBy (rows : List α) : (orderBy key rows).find? p = firstLeast key p rows := by
  induction rows with
  | nil => rfl
  | cons a rows ih =>
      have sorted : (orderBy key rows).Pairwise fun a b => key a ≤ key b := orderBy_pairwise rows
      rw [firstLeast, ← ih, ← find?_orderedInsert sorted]
      rfl

theorem firstLeast_filter (rows : List α) :
    firstLeast key p (rows.filter q) = firstLeast key (fun a => q a && p a) rows := by
  induction rows with
  | nil => rfl
  | cons a rows ih =>
      cases suits : q a with
      | true =>
          rw [List.filter_cons_of_pos suits, firstLeast, firstLeast, ih]
          cases firstLeast key (fun a => q a && p a) rows <;> simp [better, suits]
      | false =>
          rw [List.filter_cons_of_neg (by simp [suits]), firstLeast, ih]
          cases firstLeast key (fun a => q a && p a) rows <;> simp [better, suits]

theorem firstLeast_eq_none : firstLeast key p rows = none ↔ ∀ a ∈ rows, ¬ p a := by
  induction rows with
  | nil => simp [firstLeast]
  | cons a rows ih =>
      rw [List.forall_mem_cons, ← ih, firstLeast]
      cases firstLeast key p rows with
      | none => cases suits : p a <;> simp [better, suits]
      | some b =>
          simp only [better, reduceCtorEq, and_false, iff_false]
          split <;> simp

theorem least_of_split (worse : ∀ b ∈ pre, p b → key a < key b)
    (noBetter : ∀ b ∈ post, p b → key a ≤ key b) : ∀ b ∈ pre ++ a :: post, p b → key a ≤ key b := by
  intro b member suits
  rcases List.mem_append.mp member with earlier | later
  · exact (worse b earlier suits).le
  · rcases List.mem_cons.mp later with rfl | later
    · exact le_rfl
    · exact noBetter b later suits

/-- Before it only worse rows suit, after it none that is better. -/
theorem firstLeast_eq_some :
    firstLeast key p rows = some a ↔ ∃ pre post, rows = pre ++ a :: post ∧ p a ∧
      (∀ b ∈ pre, p b → key a < key b) ∧ ∀ b ∈ post, p b → key a ≤ key b := by
  induction rows generalizing a with
  | nil => simp [firstLeast]
  | cons c rows ih =>
      rw [firstLeast]
      constructor
      · intro chosen
        cases rest : firstLeast key p rows with
        | none =>
            rw [rest] at chosen
            obtain ⟨suits, same⟩ := Option.ite_none_right_eq_some.mp chosen
            obtain rfl := Option.some.inj same
            refine ⟨[], rows, rfl, suits, by simp, ?_⟩
            intro b member suits
            exact absurd suits (firstLeast_eq_none.mp rest b member)
        | some b =>
            rw [rest, better] at chosen
            obtain ⟨pre, post, rfl, suits, worse, noBetter⟩ := ih.mp rest
            split at chosen
            · rename_i first
              obtain rfl := Option.some.inj chosen
              refine ⟨[], _, rfl, first.1, by simp, ?_⟩
              intro x member there
              exact first.2.trans (least_of_split worse noBetter x member there)
            · rename_i notFirst
              obtain rfl := Option.some.inj chosen
              refine ⟨c :: pre, post, rfl, suits, ?_, noBetter⟩
              intro x member there
              rcases List.mem_cons.mp member with rfl | member
              · exact not_le.mp fun le => notFirst ⟨there, le⟩
              · exact worse x member there
      · rintro ⟨pre, post, split, suits, worse, noBetter⟩
        cases pre with
        | nil =>
            obtain ⟨rfl, rfl⟩ := List.cons.inj split
            cases rest : firstLeast key p rows with
            | none => exact if_pos suits
            | some b =>
                obtain ⟨pre, post, rfl, there, -⟩ := ih.mp rest
                exact if_pos ⟨suits, noBetter b (by simp) there⟩
        | cons d pre =>
            obtain ⟨rfl, rfl⟩ := List.cons.inj split
            have rest := ih.mpr ⟨pre, post, rfl, suits,
              fun b member => worse b (List.mem_cons_of_mem _ member), noBetter⟩
            rw [rest]
            apply if_neg
            intro first
            exact absurd first.2 (not_le.mpr (worse c List.mem_cons_self first.1))

theorem firstLeast_least (found : firstLeast key p rows = some a) :
    a ∈ rows ∧ p a ∧ ∀ b ∈ rows, p b → key a ≤ key b := by
  obtain ⟨pre, post, rfl, suits, worse, noBetter⟩ := firstLeast_eq_some.mp found
  exact ⟨by simp, suits, least_of_split worse noBetter⟩

end Lib.Keyed
