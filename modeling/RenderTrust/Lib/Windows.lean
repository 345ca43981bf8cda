import Mathlib.Algebra.Order.Group.Defs
import Mathlib.Algebra.Order.Monoid.Unbundled.Basic
import Mathlib.Data.List.NodupEquivFin
import Mathlib.Data.List.Pairwise

/-!
# Windows on a sequence of times

How many of the times of a sorted list a half-open window of a given width can hold, wherever it
starts: at most `m` when times that are `m` places apart are a width apart. A list that is cut into
groups, no two of them with a third between them within a width, is judged pair by pair.
-/
namespace Lib.Windows

variable {τ : Type*} [AddCommGroup τ] [LinearOrder τ] [IsOrderedAddMonoid τ]

def within (width start : τ) (times : List τ) : List τ :=
  times.filter fun t => start ≤ t ∧ t < start + width

/-- No window holds more than `m` of the times. -/
def Limited (width : τ) (m : ℕ) (times : List τ) : Prop :=
  ∀ start, (within width start times).length ≤ m

def Spread (width : τ) (m : ℕ) (times : List τ) : Prop :=
  ∀ k x y, times[k]? = some x → times[k + m]? = some y → x + width ≤ y

variable {width : τ} {m : ℕ} {times : List τ}

omit [IsOrderedAddMonoid τ] in
theorem within_append (start : τ) (xs ys : List τ) :
    within width start (xs ++ ys) = within width start xs ++ within width start ys :=
  List.filter_append ..

omit [IsOrderedAddMonoid τ] in
theorem mem_within {start t : τ} :
    t ∈ within width start times ↔ t ∈ times ∧ start ≤ t ∧ t < start + width := by
  simp [within]

omit [AddCommGroup τ] [IsOrderedAddMonoid τ] in
theorem sorted_getElem (sorted : times.Pairwise (· ≤ ·)) {i j : ℕ} (le : i ≤ j)
    (inside : j < times.length) : times[i] ≤ times[j] :=
  sorted.rel_get_of_le (a := ⟨i, by omega⟩) (b := ⟨j, inside⟩) le

/-- Of the times of a window the first and the one `m` places later are at least as far apart in
the whole list. -/
theorem Spread.limited (sorted : times.Pairwise (· ≤ ·)) (spread : Spread width m times) :
    Limited width m times := by
  intro start
  by_contra more
  have more' : m < (within width start times).length := not_le.mp more
  have inside : (within width start times).Sublist times := List.filter_sublist
  obtain ⟨place, at_place⟩ := List.sublist_iff_exists_orderEmbedding_getElem?_eq.mp inside
  have apart : place 0 + m ≤ place m := by
    have steps : ∀ n, place 0 + n ≤ place n := by
      intro n
      induction n with
      | zero => exact le_rfl
      | succ n ih =>
          have next : place n < place (n + 1) := place.lt_iff_lt.mpr (Nat.lt_succ_self n)
          omega
    exact steps m
  obtain ⟨x, first⟩ : ∃ x, (within width start times)[0]? = some x :=
    ⟨_, List.getElem?_eq_getElem (by omega)⟩
  obtain ⟨y, last⟩ : ∃ y, (within width start times)[m]? = some y :=
    ⟨_, List.getElem?_eq_getElem more'⟩
  have x_at : times[place 0]? = some x := (at_place 0).symm.trans first
  have y_at : times[place m]? = some y := (at_place m).symm.trans last
  have x_in := (mem_within.mp (List.mem_of_getElem? first)).2
  have y_in := (mem_within.mp (List.mem_of_getElem? last)).2
  obtain ⟨y_lt, y_eq⟩ := List.getElem?_eq_some_iff.mp y_at
  have z_at : times[place 0 + m]? = some times[place 0 + m] :=
    List.getElem?_eq_getElem (by omega)
  have far := spread _ _ _ x_at z_at
  have later : times[place 0 + m] ≤ y := by
    rw [← y_eq]
    exact sorted_getElem sorted apart y_lt
  have reached : start + width ≤ y :=
    le_trans (add_le_add_left x_in.1 width) (le_trans far later)
  exact absurd y_in.2 (not_lt.mpr reached)

theorem limited_iff_spread (sorted : times.Pairwise (· ≤ ·)) :
    Limited width m times ↔ Spread width m times := by
  refine ⟨?_, Spread.limited sorted⟩
  intro limited k x y first last
  by_contra near
  have near' : y < x + width := not_le.mp near
  obtain ⟨k_lt, rfl⟩ := List.getElem?_eq_some_iff.mp first
  obtain ⟨l_lt, rfl⟩ := List.getElem?_eq_some_iff.mp last
  have segment : within width times[k] ((times.drop k).take (m + 1)) =
      (times.drop k).take (m + 1) := by
    refine List.filter_eq_self.mpr fun t member => ?_
    obtain ⟨i, i_lt, rfl⟩ := List.mem_iff_getElem.mp member
    rw [List.length_take, List.length_drop] at i_lt
    rw [List.getElem_take, List.getElem_drop, decide_eq_true_eq]
    exact ⟨sorted_getElem sorted (by omega) (by omega),
      lt_of_le_of_lt (sorted_getElem sorted (by omega) l_lt) near'⟩
  have inside : (within width times[k] ((times.drop k).take (m + 1))).Sublist
      (within width times[k] times) :=
    ((List.take_sublist _ _).trans (List.drop_sublist _ _)).filter _
  have few := le_trans inside.length_le (limited times[k])
  rw [segment, List.length_take, List.length_drop] at few
  omega

omit [IsOrderedAddMonoid τ] in
theorem Limited.sublist {fewer : List τ} (limited : Limited width m times)
    (part : fewer.Sublist times) : Limited width m fewer :=
  fun start => le_trans (part.filter _).length_le (limited start)

omit [IsOrderedAddMonoid τ] in
theorem limited_of_length_le (short : times.length ≤ m) : Limited width m times :=
  fun _ => le_trans (List.length_filter_le _ _) short

/-! ## Groups -/

/-- Times with another group between them are a width apart. -/
def Far (width : τ) : List (List τ) → Prop
  | [] => True
  | group :: rest => (∀ x ∈ group, ∀ y ∈ rest.tail.flatten, x + width ≤ y) ∧ Far width rest

/-- The times that are `m` places apart when one group is written after the other are a width
apart. -/
def Follows (width : τ) (m : ℕ) (group next : List τ) : Prop :=
  ∀ pair ∈ group.zip (next.drop (m - group.length)), pair.1 + width ≤ pair.2

instance (group next : List τ) : Decidable (Follows width m group next) :=
  inferInstanceAs (Decidable (∀ _ ∈ _, _))

section Groups
variable {group next : List τ} {groups : List (List τ)}

omit [IsOrderedAddMonoid τ] in
theorem spread_append (short : group.length ≤ m) (short' : next.length ≤ m) :
    Spread width m (group ++ next) ↔ Follows width m group next := by
  constructor
  · intro spread pair member
    obtain ⟨k, at_k⟩ := List.mem_iff_getElem?.mp member
    obtain ⟨first, last⟩ := List.getElem?_zip_eq_some.mp at_k
    have inside := (List.getElem?_eq_some_iff.mp first).1
    refine spread k pair.1 pair.2 ?_ ?_
    · rw [List.getElem?_append_left inside]
      exact first
    · rw [List.getElem?_drop] at last
      rw [List.getElem?_append_right (by omega), ← last]
      congr 1
      omega
  · intro follows k x y first last
    have inside := (List.getElem?_eq_some_iff.mp last).1
    rw [List.length_append] at inside
    rw [List.getElem?_append_left (by omega)] at first
    rw [List.getElem?_append_right (by omega)] at last
    refine follows (x, y) (List.mem_iff_getElem?.mpr ⟨k, List.getElem?_zip_eq_some.mpr ⟨first, ?_⟩⟩)
    rw [List.getElem?_drop, ← last]
    congr 1
    omega

omit [AddCommGroup τ] [LinearOrder τ] [IsOrderedAddMonoid τ] in
theorem flatten_take_sublist : (groups.map (List.take m)).flatten.Sublist groups.flatten := by
  induction groups with
  | nil => exact List.Sublist.refl _
  | cons group groups ih =>
      rw [List.map_cons, List.flatten_cons, List.flatten_cons]
      exact (List.take_sublist m group).append ih

omit [IsOrderedAddMonoid τ] in
theorem Far.take (far : Far width groups) : Far width (groups.map (List.take m)) := by
  induction groups with
  | nil => trivial
  | cons group groups ih =>
      refine ⟨?_, ih far.2⟩
      intro x first y later
      rw [← List.map_tail] at later
      exact far.1 x (List.mem_of_mem_take first) y (flatten_take_sublist.subset later)

/-- A window that meets a group meets at most the next one besides. -/
theorem limited_flatten_iff (sorted : groups.flatten.Pairwise (· ≤ ·))
    (short : ∀ group ∈ groups, group.length ≤ m) (far : Far width groups) :
    Limited width m groups.flatten ↔ groups.IsChain (Follows width m) := by
  induction groups with
  | nil => exact iff_of_true (fun _ => Nat.zero_le m) .nil
  | cons group groups ih =>
      obtain ⟨apart, far'⟩ := far
      have short_group := short group List.mem_cons_self
      have short_rest : ∀ g ∈ groups, g.length ≤ m :=
        fun g member => short g (List.mem_cons_of_mem _ member)
      rw [List.flatten_cons] at sorted ⊢
      have step := ih (List.pairwise_append.mp sorted).2.1 short_rest far'
      cases groups with
      | nil =>
          rw [List.flatten_nil, List.append_nil]
          exact iff_of_true (limited_of_length_le short_group) (.singleton _)
      | cons next rest =>
          rw [List.flatten_cons] at sorted step ⊢
          have pair : (group ++ next).Sublist (group ++ (next ++ rest.flatten)) :=
            List.Sublist.append_left (List.sublist_append_left _ _) _
          have judged : Limited width m (group ++ next) ↔ Follows width m group next :=
            (limited_iff_spread (sorted.sublist pair)).trans
              (spread_append short_group (short_rest next List.mem_cons_self))
          rw [List.isChain_cons_cons, ← step, ← judged]
          constructor
          · intro limited
            exact ⟨limited.sublist pair, limited.sublist (List.sublist_append_right _ _)⟩
          · intro ⟨both, later⟩ start
            by_cases none : within width start group = []
            · rw [within_append, none, List.nil_append]
              exact later start
            · obtain ⟨x, x_in⟩ := List.exists_mem_of_ne_nil _ none
              obtain ⟨member, from_start, _⟩ := mem_within.mp x_in
              have beyond : within width start rest.flatten = [] := by
                refine List.filter_eq_nil_iff.mpr fun y y_in => ?_
                have far_y := apart x member y y_in
                have past : start + width ≤ y :=
                  le_trans (add_le_add_left from_start width) far_y
                simp [past]
              rw [within_append, within_append, beyond, List.append_nil, ← within_append]
              exact both start

end Groups

end Lib.Windows
