import Mathlib.Data.List.Basic
import Mathlib.Data.Nat.Log

/-!
# The levels of a binary tree over a list

Neighbours are paired level by level, the last node of an odd level with itself,
whatever joins a pair. A path lists the siblings from a position up to the root.
-/
namespace Lib.HashTree

variable {D E : Type*}

/-! ## Levels -/

def pairs : List D → List (D × D)
  | [] => []
  | [x] => [(x, x)]
  | x :: y :: rest => (x, y) :: pairs rest

theorem length_pairs (xs : List D) : (pairs xs).length = (xs.length + 1) / 2 := by
  induction xs using pairs.induct with
  | case1 => simp only [pairs, List.length_nil, Nat.reduceAdd, Nat.reduceDiv]
  | case2 x => simp only [pairs, List.length_singleton, Nat.reduceAdd, Nat.reduceDiv]
  | case3 x y rest ih =>
      simp only [pairs, List.length_cons, ih]
      omega

theorem pairs_map (φ : D → E) (xs : List D) : pairs (xs.map φ) = (pairs xs).map (Prod.map φ φ) := by
  induction xs using pairs.induct with
  | case1 => rfl
  | case2 x => rfl
  | case3 x y rest ih =>
      simp only [List.map_cons, pairs, ih]
      rfl

theorem mem_of_mem_pairs {xs : List D} {p : D × D} (h : p ∈ pairs xs) : p.1 ∈ xs ∧ p.2 ∈ xs := by
  induction xs using pairs.induct with
  | case1 => cases h
  | case2 x =>
      obtain rfl := List.mem_singleton.mp h
      exact ⟨List.mem_singleton_self x, List.mem_singleton_self x⟩
  | case3 x y rest ih =>
      rcases List.mem_cons.mp h with rfl | later
      · exact ⟨List.mem_cons_self, List.mem_cons_of_mem _ List.mem_cons_self⟩
      · obtain ⟨left, right⟩ := ih later
        exact ⟨List.mem_cons_of_mem _ (List.mem_cons_of_mem _ left),
          List.mem_cons_of_mem _ (List.mem_cons_of_mem _ right)⟩

/-- The children below position `i` of the level above. -/
def join (x : D) (step : Bool × D) : D × D := if step.1 then (x, step.2) else (step.2, x)

/-- The sibling of position `i`, and whether it is on the right. -/
def step (xs : List D) (i : ℕ) : Option (Bool × D) :=
  (pairs xs)[i / 2]?.map (fun p => if i % 2 = 0 then (true, p.2) else (false, p.1))

theorem join_step {xs : List D} {i : ℕ} {x : D} (h : xs[i]? = some x) :
    ∃ s, step xs i = some s ∧ (pairs xs)[i / 2]? = some (join x s) ∧ s.1 = decide (i % 2 = 0) := by
  induction xs using pairs.induct generalizing i with
  | case1 => cases h
  | case2 a =>
      obtain ⟨inside, rfl⟩ := List.getElem?_eq_some_iff.mp h
      obtain rfl : i = 0 := by
        simp only [List.length_singleton] at inside
        omega
      exact ⟨(true, a), rfl, rfl, rfl⟩
  | case3 a b rest ih =>
      match i, h with
      | 0, h =>
          obtain rfl := Option.some.inj h
          exact ⟨(true, b), rfl, rfl, rfl⟩
      | 1, h =>
          obtain rfl := Option.some.inj h
          exact ⟨(false, a), rfl, rfl, rfl⟩
      | i + 2, h =>
          obtain ⟨s, found, joined, side⟩ := ih h
          have half : (i + 2) / 2 = i / 2 + 1 := by omega
          refine ⟨s, ?_, ?_, ?_⟩
          · rw [← found]
            simp only [step, half, pairs, List.getElem?_cons_succ, Nat.add_mod_right]
          · rw [half, pairs, List.getElem?_cons_succ, joined]
          · rw [side, Nat.add_mod_right]

theorem step_mem {xs : List D} {i : ℕ} {s : Bool × D} (h : step xs i = some s) : s.2 ∈ xs := by
  obtain ⟨p, found, rfl⟩ := Option.map_eq_some_iff.mp h
  have members := mem_of_mem_pairs (List.mem_of_getElem? found)
  split
  · exact members.2
  · exact members.1

/-- The sibling by its index: the node itself where the level ends. -/
def sibling (xs : List D) (i : ℕ) : Option D :=
  if i % 2 = 0 then if i + 1 < xs.length then xs[i + 1]? else xs[i]? else xs[i - 1]?

theorem sibling_cons_cons (a b : D) (rest : List D) (i : ℕ) :
    sibling (a :: b :: rest) (i + 2) = sibling rest i := by
  unfold sibling
  by_cases even : i % 2 = 0
  · have bound : i + 2 + 1 < (a :: b :: rest).length ↔ i + 1 < rest.length := by
      simp only [List.length_cons]
      omega
    simp only [Nat.add_mod_right, if_pos even, bound]
    rfl
  · obtain ⟨k, rfl⟩ : ∃ k, i = k + 1 := ⟨i - 1, by omega⟩
    simp only [Nat.add_mod_right, if_neg even]
    rfl

theorem sibling_eq_step {xs : List D} {i : ℕ} (h : i < xs.length) :
    sibling xs i = (step xs i).map Prod.snd := by
  induction xs using pairs.induct generalizing i with
  | case1 => exact absurd h (Nat.not_lt_zero i)
  | case2 a =>
      obtain rfl : i = 0 := by
        simp only [List.length_singleton] at h
        omega
      rfl
  | case3 a b rest ih =>
      match i, h with
      | 0, h =>
          simp only [sibling, List.length_cons, Nat.zero_add, Nat.lt_add_left_iff_pos, Nat.succ_pos,
            if_true, Nat.zero_mod]
          rfl
      | 1, h => rfl
      | i + 2, h =>
          have inside : i < rest.length := by
            simp only [List.length_cons] at h
            omega
          have half : (i + 2) / 2 = i / 2 + 1 := by omega
          rw [sibling_cons_cons, ih inside]
          simp only [step, half, pairs, List.getElem?_cons_succ, Nat.add_mod_right]

section Levels
variable (node : D × D → D)

def parents (xs : List D) : List D := (pairs xs).map node

theorem length_parents (xs : List D) : (parents node xs).length = (xs.length + 1) / 2 := by
  rw [parents, List.length_map, length_pairs]

def levels (xs : List D) : List (List D) :=
  if 1 < xs.length then xs :: levels (parents node xs) else [xs]
termination_by xs.length
decreasing_by
  rw [length_parents]
  omega

def path (xs : List D) (i : ℕ) : List (Bool × D) :=
  if 1 < xs.length then
    match step xs i with
    | some s => s :: path (parents node xs) (i / 2)
    | none => []
  else []
termination_by xs.length
decreasing_by
  rw [length_parents]
  omega

def climb (x : D) : List (Bool × D) → D
  | [] => x
  | s :: rest => climb (node (join x s)) rest

/-- The pairs joined on the way up. -/
def climbed (x : D) : List (Bool × D) → List (D × D)
  | [] => []
  | s :: rest => join x s :: climbed (node (join x s)) rest

/-- The pairs joined when the levels are built. -/
def joined (xs : List D) : List (D × D) := (levels node xs).dropLast.flatMap pairs

def root (xs : List D) : Option D := (levels node xs).getLast?.bind List.head?

variable {node}

theorem levels_ne_nil (xs : List D) : levels node xs ≠ [] := by
  unfold levels
  split <;> exact List.cons_ne_nil _ _

theorem levels_cons {xs : List D} (h : 1 < xs.length) :
    levels node xs = xs :: levels node (parents node xs) := by
  rw [levels, if_pos h]

theorem levels_short {xs : List D} (h : ¬ 1 < xs.length) : levels node xs = [xs] := by
  rw [levels, if_neg h]

theorem root_short {xs : List D} (h : ¬ 1 < xs.length) : root node xs = xs.head? := by
  rw [root, levels_short h]
  rfl

theorem joined_short {xs : List D} (h : ¬ 1 < xs.length) : joined node xs = [] := by
  rw [joined, levels_short h]
  rfl

theorem path_short {xs : List D} (h : ¬ 1 < xs.length) (i : ℕ) : path node xs i = [] := by
  rw [path, if_neg h]

theorem root_cons {xs : List D} (h : 1 < xs.length) :
    root node xs = root node (parents node xs) := by
  rw [root, root, levels_cons h, List.getLast?_cons_of_ne_nil (levels_ne_nil _)]

theorem joined_cons {xs : List D} (h : 1 < xs.length) :
    joined node xs = pairs xs ++ joined node (parents node xs) := by
  rw [joined, joined, levels_cons h, List.dropLast_cons_of_ne_nil (levels_ne_nil _),
    List.flatMap_cons]

theorem parents_getElem? {xs : List D} {i : ℕ} {x : D} {s : Bool × D}
    (h : (pairs xs)[i / 2]? = some (join x s)) :
    (parents node xs)[i / 2]? = some (node (join x s)) := by
  rw [parents, List.getElem?_map, h, Option.map_some]

theorem parents_ne_nil {xs : List D} (h : xs ≠ []) : parents node xs ≠ [] := by
  rw [← List.length_pos_iff, length_parents]
  have size := List.length_pos_iff.mpr h
  omega

theorem path_cons {xs : List D} {i : ℕ} {s : Bool × D} (h : 1 < xs.length)
    (found : step xs i = some s) : path node xs i = s :: path node (parents node xs) (i / 2) := by
  rw [path, if_pos h, found]

theorem singleton_of_getElem? {xs : List D} {i : ℕ} {x : D} (h : ¬ 1 < xs.length)
    (hx : xs[i]? = some x) : xs = [x] := by
  obtain ⟨inside, rfl⟩ := List.getElem?_eq_some_iff.mp hx
  obtain ⟨y, rfl⟩ : ∃ y, xs = [y] := List.length_eq_one_iff.mp (by omega)
  simp only [List.getElem_singleton]

/-- Every path of a list leads to its root. -/
theorem climb_path {xs : List D} {i : ℕ} {x : D} (h : xs[i]? = some x) :
    root node xs = some (climb node x (path node xs i)) := by
  induction xs using levels.induct node generalizing i x with
  | case1 xs more ih =>
      obtain ⟨s, found, joined, _⟩ := join_step h
      rw [root_cons more, path_cons more found, climb]
      exact ih (parents_getElem? joined)
  | case2 xs few =>
      obtain rfl := singleton_of_getElem? few h
      rw [root_short few, path_short few, climb, List.head?_cons]

/-- Which siblings are on the right depends on the length and the position only. -/
theorem path_sides {node' : E × E → E} {xs : List D} {ys : List E} {i : ℕ}
    (length : xs.length = ys.length) (h : i < xs.length) :
    (path node xs i).map Prod.fst = (path node' ys i).map Prod.fst := by
  induction xs using levels.induct node generalizing i ys with
  | case1 xs more ih =>
      obtain ⟨s, found, _, side⟩ := join_step (List.getElem?_eq_getElem h)
      obtain ⟨t, found', _, side'⟩ := join_step (List.getElem?_eq_getElem (length ▸ h))
      rw [path_cons more found, path_cons (length ▸ more) found', List.map_cons, List.map_cons,
        side, side', ih]
      · rw [length_parents, length_parents, length]
      · rw [length_parents]
        omega
  | case2 xs few =>
      rw [path_short few, path_short (length ▸ few), List.map_nil, List.map_nil]

theorem length_path {xs : List D} {i : ℕ} (h : i < xs.length) :
    (path node xs i).length = (levels node xs).length - 1 := by
  induction xs using levels.induct node generalizing i with
  | case1 xs more ih =>
      obtain ⟨s, found, _, _⟩ := join_step (List.getElem?_eq_getElem h)
      have above : 0 < (levels node (parents node xs)).length :=
        List.length_pos_iff.mpr (levels_ne_nil _)
      rw [path_cons more found, levels_cons more, List.length_cons, List.length_cons, ih]
      · omega
      · rw [length_parents]
        omega
  | case2 xs few =>
      rw [path_short few, levels_short few, List.length_nil, List.length_singleton]

theorem length_levels {xs : List D} (h : xs ≠ []) :
    (levels node xs).length = Nat.clog 2 xs.length + 1 := by
  induction xs using levels.induct node with
  | case1 xs more ih =>
      rw [levels_cons more, List.length_cons, ih (parents_ne_nil h), length_parents,
        Nat.clog_of_one_lt (by omega) more]
      simp only [Nat.reduceSubDiff]
  | case2 xs few =>
      rw [levels_short few, List.length_singleton, Nat.clog_of_right_le_one (by omega)]

/-- The pairs joined along a path are pairs of the levels. -/
theorem climbed_subset {xs : List D} {i : ℕ} {x : D} (h : xs[i]? = some x) :
    climbed node x (path node xs i) ⊆ joined node xs := by
  induction xs using levels.induct node generalizing i x with
  | case1 xs more ih =>
      obtain ⟨s, found, joined, _⟩ := join_step h
      rw [path_cons more found, climbed, joined_cons more]
      intro p hp
      rcases List.mem_cons.mp hp with rfl | above
      · exact List.mem_append_left _ (List.mem_of_getElem? joined)
      · exact List.mem_append_right _ (ih (parents_getElem? joined) above)
  | case2 xs few =>
      rw [path_short few, climbed]
      exact List.nil_subset _

theorem parents_map {node' : E × E → E} {φ : D → E}
    (hom : ∀ p, φ (node p) = node' (Prod.map φ φ p)) (xs : List D) :
    parents node' (xs.map φ) = (parents node xs).map φ := by
  rw [parents, parents, pairs_map, List.map_map, List.map_map]
  apply List.map_congr_left
  intro p _
  exact (hom p).symm

theorem root_map {node' : E × E → E} {φ : D → E}
    (hom : ∀ p, φ (node p) = node' (Prod.map φ φ p)) (xs : List D) :
    root node' (xs.map φ) = (root node xs).map φ := by
  induction xs using levels.induct node with
  | case1 xs more ih =>
      rw [root_cons more, root_cons (by rwa [List.length_map]), parents_map hom, ih]
  | case2 xs few =>
      rw [root_short few, root_short (by rwa [List.length_map]), List.head?_map]

theorem joined_map {node' : E × E → E} {φ : D → E}
    (hom : ∀ p, φ (node p) = node' (Prod.map φ φ p)) (xs : List D) :
    joined node' (xs.map φ) = (joined node xs).map (Prod.map φ φ) := by
  induction xs using levels.induct node with
  | case1 xs more ih =>
      rw [joined_cons more, joined_cons (by rwa [List.length_map]), parents_map hom, ih, pairs_map,
        List.map_append]
  | case2 xs few =>
      rw [joined_short few, joined_short (by rwa [List.length_map]), List.map_nil]

/-- What holds of the nodes at the bottom and passes to every pair joined holds of the
root. -/
theorem root_induction {P : D → Prop} {xs : List D} {r : D} (h : root node xs = some r)
    (bottom : ∀ x ∈ xs, P x) (up : ∀ p ∈ joined node xs, P p.1 → P p.2 → P (node p)) : P r := by
  induction xs using levels.induct node with
  | case1 xs more ih =>
      rw [root_cons more] at h
      rw [joined_cons more] at up
      refine ih h ?_ (fun p hp => up p (List.mem_append_right _ hp))
      intro y hy
      obtain ⟨p, hp, rfl⟩ := List.mem_map.mp hy
      have members := mem_of_mem_pairs hp
      exact up p (List.mem_append_left _ hp) (bottom p.1 members.1) (bottom p.2 members.2)
  | case2 xs few =>
      rw [root_short few] at h
      exact bottom r (List.mem_of_head? h)

/-- The root of two nodes or more is a joined pair. -/
theorem root_mem_joined {xs : List D} (h : 1 < xs.length) :
    ∃ p ∈ joined node xs, root node xs = some (node p) := by
  induction xs using levels.induct node with
  | case2 xs few => exact absurd h few
  | case1 xs more ih =>
      rw [root_cons more, joined_cons more]
      by_cases again : 1 < (parents node xs).length
      · obtain ⟨p, member, top⟩ := ih again
        exact ⟨p, List.mem_append_right _ member, top⟩
      · have one : (pairs xs).length = 1 := by
          rw [length_parents] at again
          rw [length_pairs]
          omega
        obtain ⟨p, single⟩ := List.length_eq_one_iff.mp one
        rw [root_short again, parents, single]
        exact ⟨p, List.mem_append_left _ List.mem_cons_self, rfl⟩

end Levels

end Lib.HashTree
