import Mathlib.Data.List.Induction
import RenderTrust.Lib.HashTree.Binding

/-!
# Trees

The root of a list of leaves as a tree, and what a climb that ends at its digest
can have been.
-/
namespace Lib.HashTree

inductive Tree (B : Type*) where
  | leaf (text : B)
  | node (left right : Tree B)

namespace Tree
variable {B D : Type*}

def join (p : Tree B × Tree B) : Tree B := .node p.1 p.2

def texts : Tree B → List B
  | .leaf text => [text]
  | .node left right => left.texts ++ right.texts

/-- Every leaf is `height` below. -/
def Level : ℕ → Tree B → Prop
  | 0, .leaf _ => True
  | height + 1, .node left right => left.Level height ∧ right.Level height
  | _, _ => False

variable (S : Scheme B D)

def digest : Tree B → D
  | .leaf text => S.hash text
  | .node left right => S.node (left.digest, right.digest)

def strings : Tree B → List B
  | .leaf text => [text]
  | .node left right => S.pair (left.digest S, right.digest S) :: left.strings ++ right.strings

/-- Where a climb from `x` by the reversed steps arrives. -/
def reached (x : D) : List (Bool × D) → D
  | [] => x
  | s :: below => S.node (HashTree.join (reached x below) s)

def reachedPairs (x : D) : List (Bool × D) → List (D × D)
  | [] => []
  | s :: below => HashTree.join (reached S x below) s :: reachedPairs x below

/-- From the root down, the steps are steps of the tree as far as it goes. The last of
them may cut the string of a pair anywhere, and a step from a leaf cuts its text. -/
def Opens (x : D) : Tree B → List (Bool × D) → Prop
  | t, [] => x = t.digest S
  | .leaf text, s :: below => S.pair (HashTree.join (reached S x below) s) = text
  | .node left right, [s] => S.pair (HashTree.join x s) = S.pair (left.digest S, right.digest S)
  | .node left right, (true, sibling) :: below => sibling = right.digest S ∧ left.Opens x below
  | .node left right, (false, sibling) :: below => sibling = left.digest S ∧ right.Opens x below

variable {S}

theorem reached_of_opens {x : D} {t : Tree B} {steps : List (Bool × D)} (h : t.Opens S x steps) :
    reached S x steps = t.digest S := by
  induction t generalizing steps with
  | leaf text =>
      cases steps with
      | nil => exact h
      | cons s below => exact congrArg S.hash h
  | node left right ihl ihr =>
      match steps, h with
      | [], h => exact h
      | [s], h => exact congrArg S.hash h
      | (true, sibling) :: s :: below, ⟨same, opens⟩ =>
          subst same
          rw [reached, ihl opens]
          rfl
      | (false, sibling) :: s :: below, ⟨same, opens⟩ =>
          subst same
          rw [reached, ihr opens]
          rfl

variable {Digest : D → Prop}

theorem digest_tree (F : Framed S Digest) (t : Tree B) : Digest (t.digest S) := by
  cases t with
  | leaf text => exact F.digest text
  | node left right => exact F.digest _

theorem opens_nil {x : D} {t : Tree B} : t.Opens S x [] ↔ x = t.digest S := by
  cases t <;> rfl

theorem collides_below {xs ys : List B} {p : D × D} {ps : List (D × D)} (sub : xs ⊆ ys)
    (h : Collides S.hash (xs ++ ps.map S.pair)) :
    Collides S.hash (ys ++ (p :: ps).map S.pair) := by
  refine h.mono ?_
  intro b hb
  rcases List.mem_append.mp hb with first | second
  · exact List.mem_append_left _ (sub first)
  · exact List.mem_append_right _ (List.mem_cons_of_mem _ second)

/-- A climb that ends at the digest of a tree is one along the tree. -/
theorem opens_of_reached (F : Framed S Digest) {x : D} {t : Tree B} {steps : List (Bool × D)}
    (h : reached S x steps = t.digest S) :
    t.Opens S x steps ∨
      Collides S.hash (t.strings S ++ (reachedPairs S x steps).map S.pair) := by
  induction t generalizing steps with
  | leaf text =>
      cases steps with
      | nil => exact .inl h
      | cons s below =>
          apply eq_or_collides
          · exact List.mem_append_right _ (List.mem_map_of_mem List.mem_cons_self)
          · exact List.mem_append_left _ (List.mem_singleton_self text)
          · exact h
  | node left right ihl ihr =>
      cases steps with
      | nil => exact .inl h
      | cons top below =>
          have head : S.pair (HashTree.join (reached S x below) top) =
              S.pair (left.digest S, right.digest S) ∨ Collides S.hash
                ((node left right).strings S ++ (reachedPairs S x (top :: below)).map S.pair) := by
            apply eq_or_collides
            · exact List.mem_append_right _ (List.mem_map_of_mem List.mem_cons_self)
            · exact List.mem_append_left _ List.mem_cons_self
            · exact h
          rcases head with cut | collision
          · match below, top, cut with
            | [], top, cut => exact .inl cut
            | s :: below, (true, sibling), cut =>
                obtain ⟨above, rfl⟩ := F.left (F.digest _) (digest_tree F left) cut
                have arrives : reached S x (s :: below) = left.digest S := above
                rcases ihl arrives with opens | collision
                · exact .inl ⟨rfl, opens⟩
                · exact .inr (collides_below (List.subset_cons_of_subset _
                    (List.subset_append_left _ _)) collision)
            | s :: below, (false, sibling), cut =>
                obtain ⟨rfl, above⟩ := F.right (F.digest _) (digest_tree F right) cut
                have arrives : reached S x (s :: below) = right.digest S := above
                rcases ihr arrives with opens | collision
                · exact .inl ⟨rfl, opens⟩
                · exact .inr (collides_below (List.subset_cons_of_subset _
                    (List.subset_append_right _ _)) collision)
          · exact .inr collision

/-- A path as long as the tree is high, from a digest, starts at a leaf. -/
theorem leaf_of_opens (F : Framed S Digest) {x : D} {t : Tree B} {steps : List (Bool × D)}
    (level : t.Level steps.length) (hx : Digest x) (h : t.Opens S x steps) :
    ∃ text ∈ t.texts, x = S.hash text := by
  induction t generalizing steps with
  | leaf text =>
      cases steps with
      | nil => exact ⟨text, List.mem_singleton_self text, h⟩
      | cons s below => exact level.elim
  | node left right ihl ihr =>
      match steps, level, h with
      | [(true, sibling)], level, h =>
          obtain ⟨above, _⟩ := F.left hx (digest_tree F left) h
          obtain ⟨text, member, same⟩ := ihl (level.1 : left.Level [].length) (opens_nil.mpr above)
          exact ⟨text, List.mem_append_left _ member, same⟩
      | [(false, sibling)], level, h =>
          obtain ⟨_, above⟩ := F.right hx (digest_tree F right) h
          obtain ⟨text, member, same⟩ := ihr (level.2 : right.Level [].length) (opens_nil.mpr above)
          exact ⟨text, List.mem_append_right _ member, same⟩
      | (true, sibling) :: s :: below, level, ⟨_, opens⟩ =>
          obtain ⟨text, member, same⟩ := ihl level.1 opens
          exact ⟨text, List.mem_append_left _ member, same⟩
      | (false, sibling) :: s :: below, level, ⟨_, opens⟩ =>
          obtain ⟨text, member, same⟩ := ihr level.2 opens
          exact ⟨text, List.mem_append_right _ member, same⟩

/-! The climb of a path is the climb by its reversed steps. -/

theorem climb_concat {node : D × D → D} (x : D) (p : List (Bool × D)) (s : Bool × D) :
    climb node x (p ++ [s]) = node (HashTree.join (climb node x p) s) := by
  induction p generalizing x with
  | nil => rfl
  | cons t p ih => exact ih (node (HashTree.join x t))

theorem climbed_concat {node : D × D → D} (x : D) (p : List (Bool × D)) (s : Bool × D) :
    climbed node x (p ++ [s]) = climbed node x p ++ [HashTree.join (climb node x p) s] := by
  induction p generalizing x with
  | nil => rfl
  | cons t p ih =>
      rw [List.cons_append, climbed, climbed, ih, List.cons_append]
      rfl

theorem reached_reverse (x : D) (p : List (Bool × D)) :
    reached S x p.reverse = climb S.node x p := by
  induction p using List.reverseRecOn with
  | nil => rfl
  | append_singleton p s ih =>
      rw [List.reverse_append, List.reverse_singleton, List.singleton_append, reached, ih,
        climb_concat]

theorem reachedPairs_reverse (x : D) (p : List (Bool × D)) :
    reachedPairs S x p.reverse = (climbed S.node x p).reverse := by
  induction p using List.reverseRecOn with
  | nil => rfl
  | append_singleton p s ih =>
      rw [List.reverse_append, List.reverse_singleton, List.singleton_append, reachedPairs, ih,
        reached_reverse, climbed_concat, List.reverse_append, List.reverse_singleton,
        List.singleton_append]

/-! The tree of a list. -/

def ofList (bs : List B) : Option (Tree B) := root join (bs.map leaf)

theorem map_digest (bs : List B) : (bs.map leaf).map (digest S) = bs.map S.hash := by
  rw [List.map_map]
  rfl

theorem root_ofList (bs : List B) :
    root S.node (bs.map S.hash) = (ofList bs).map (digest S) := by
  rw [← map_digest, ofList]
  apply root_map
  intro p
  rfl

theorem texts_ofList {bs : List B} {t : Tree B} (h : ofList bs = some t) : t.texts ⊆ bs := by
  refine root_induction (P := fun t => t.texts ⊆ bs) h ?_ ?_
  · intro x hx
    obtain ⟨b, hb, rfl⟩ := List.mem_map.mp hx
    exact List.cons_subset.mpr ⟨hb, List.nil_subset _⟩
  · intro p _ left right
    exact List.append_subset.mpr ⟨left, right⟩

theorem strings_ofList {bs : List B} {t : Tree B} (h : ofList bs = some t) :
    t.strings S ⊆ bs ++ (joined S.node (bs.map S.hash)).map S.pair := by
  refine root_induction (P := fun t =>
    t.strings S ⊆ bs ++ (joined S.node (bs.map S.hash)).map S.pair) h ?_ ?_
  · intro x hx
    obtain ⟨b, hb, rfl⟩ := List.mem_map.mp hx
    exact List.cons_subset.mpr ⟨List.mem_append_left _ hb, List.nil_subset _⟩
  · intro p hp left right
    refine List.cons_subset.mpr ⟨List.mem_append_right _ ?_, List.append_subset.mpr ⟨left, right⟩⟩
    have mapped : joined S.node ((bs.map leaf).map (digest S)) =
        (joined join (bs.map leaf)).map (Prod.map (digest S) (digest S)) := by
      apply joined_map
      intro p
      rfl
    rw [← map_digest, mapped, List.map_map]
    exact List.mem_map_of_mem hp

theorem level_root {xs : List (Tree B)} {k : ℕ} {t : Tree B} (h : root join xs = some t)
    (bottom : ∀ x ∈ xs, x.Level k) : t.Level (k + (levels join xs).length - 1) := by
  induction xs using levels.induct join generalizing k with
  | case1 xs more ih =>
      rw [root_cons more] at h
      have up : ∀ x ∈ parents join xs, x.Level (k + 1) := by
        intro x hx
        obtain ⟨p, hp, rfl⟩ := List.mem_map.mp hx
        have members := mem_of_mem_pairs hp
        exact ⟨bottom _ members.1, bottom _ members.2⟩
      have level := ih h up
      rw [levels_cons more, List.length_cons]
      rwa [Nat.add_right_comm] at level
  | case2 xs few =>
      rw [root_short few] at h
      rw [levels_short few, List.length_singleton, Nat.add_sub_cancel]
      exact bottom t (List.mem_of_head? h)

theorem level_ofList {bs : List B} {t : Tree B} (h : ofList bs = some t) :
    t.Level (Nat.clog 2 bs.length) := by
  have level := level_root (k := 0) h (by
    intro x hx
    obtain ⟨b, _, rfl⟩ := List.mem_map.mp hx
    trivial)
  have nonempty : bs.map leaf ≠ [] := by
    rintro empty
    rw [ofList, empty, root_short (by simp only [List.length_nil, Nat.not_lt_zero,
      not_false_eq_true])] at h
    cases h
  rwa [length_levels nonempty, List.length_map, Nat.zero_add, Nat.add_sub_cancel] at level

end Tree

end Lib.HashTree
