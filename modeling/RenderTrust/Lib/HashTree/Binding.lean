import Mathlib.Data.List.Nodup
import Mathlib.Order.Lattice
import RenderTrust.Lib.HashTree.Levels

/-!
# Binding

Nodes joined by hashing. Two climbs, or two lists of the same length, that come to
one root are the same, or two of the strings hashed on the way collide.
-/
namespace Lib.HashTree

/-! ## Collisions -/

section Collisions
variable {B D : Type*} {hash : B → D}

def Collides (hash : B → D) (strings : List B) : Prop :=
  ∃ a ∈ strings, ∃ b ∈ strings, a ≠ b ∧ hash a = hash b

instance [DecidableEq B] [DecidableEq D] (strings : List B) : Decidable (Collides hash strings) :=
  inferInstanceAs (Decidable (∃ a ∈ strings, ∃ b ∈ strings, a ≠ b ∧ hash a = hash b))

theorem Collides.mono {xs ys : List B} (h : Collides hash xs) (sub : xs ⊆ ys) :
    Collides hash ys := by
  obtain ⟨a, ha, b, hb, differ, same⟩ := h
  exact ⟨a, sub ha, b, sub hb, differ, same⟩

theorem eq_or_collides {strings : List B} {a b : B} (ha : a ∈ strings) (hb : b ∈ strings)
    (same : hash a = hash b) : a = b ∨ Collides hash strings := by
  by_cases equal : a = b
  · exact .inl equal
  · exact .inr ⟨a, ha, b, hb, equal, same⟩

theorem not_collides_of_nodup {strings : List B} (distinct : (strings.map hash).Nodup) :
    ¬ Collides hash strings := by
  rintro ⟨a, ha, b, hb, differ, same⟩
  exact differ (List.inj_on_of_nodup_map distinct ha hb same)

end Collisions

/-! ## Hashing schemes -/

/-- A hash function on strings and the string hashed for a pair of digests. -/
structure Scheme (B D : Type*) where
  hash : B → D
  pair : D × D → B

def Scheme.node {B D : Type*} (S : Scheme B D) (p : D × D) : D := S.hash (S.pair p)

/-- The digests: what the hash returns, and what can be cut out of the string of a pair
from either side. -/
structure Framed {B D : Type*} (S : Scheme B D) (Digest : D → Prop) : Prop where
  digest : ∀ b, Digest (S.hash b)
  left : ∀ {a b c d}, Digest a → Digest c → S.pair (a, b) = S.pair (c, d) → a = c ∧ b = d
  right : ∀ {a b c d}, Digest b → Digest d → S.pair (a, b) = S.pair (c, d) → a = c ∧ b = d

section Binding
variable {B D : Type*} {S : Scheme B D} {Digest : D → Prop}

theorem Framed.join_inj (F : Framed S Digest) {x y : D} {s t : Bool × D} (hx : Digest x)
    (hy : Digest y) (side : s.1 = t.1) (same : S.pair (join x s) = S.pair (join y t)) :
    x = y ∧ s = t := by
  obtain ⟨b, u⟩ := s
  obtain ⟨b', v⟩ := t
  obtain rfl : b = b' := side
  cases b with
  | true =>
      obtain ⟨rfl, rfl⟩ := F.left hx hy same
      exact ⟨rfl, rfl⟩
  | false =>
      obtain ⟨rfl, rfl⟩ := F.right hx hy same
      exact ⟨rfl, rfl⟩

theorem Framed.digest_path (F : Framed S Digest) {xs : List D} {i : ℕ}
    (hxs : ∀ x ∈ xs, Digest x) : ∀ s ∈ path S.node xs i, Digest s.2 := by
  induction xs using levels.induct S.node generalizing i with
  | case1 xs more ih =>
      have up : ∀ x ∈ parents S.node xs, Digest x := by
        intro x hx
        obtain ⟨p, _, rfl⟩ := List.mem_map.mp hx
        exact F.digest _
      rw [path, if_pos more]
      cases found : step xs i with
      | none => exact fun s hs => absurd hs List.not_mem_nil
      | some t =>
          intro s hs
          rcases List.mem_cons.mp hs with rfl | above
          · exact hxs _ (step_mem found)
          · exact ih up s above
  | case2 xs few =>
      rw [path_short few]
      exact fun s hs => absurd hs List.not_mem_nil

theorem collides_tail {p q : D × D} {ps qs : List (D × D)}
    (h : Collides S.hash ((ps ++ qs).map S.pair)) :
    Collides S.hash ((p :: ps ++ q :: qs).map S.pair) := by
  refine h.mono (List.map_subset _ ?_)
  intro b hb
  rcases List.mem_append.mp hb with first | second
  · exact List.mem_append_left _ (List.mem_cons_of_mem _ first)
  · exact List.mem_append_right _ (List.mem_cons_of_mem _ second)

theorem collides_head {p q : D × D} {ps qs : List (D × D)} (h : S.node p = S.node q) :
    S.pair p = S.pair q ∨ Collides S.hash ((p :: ps ++ q :: qs).map S.pair) := by
  apply eq_or_collides
  · exact List.mem_map_of_mem (List.mem_append_left _ List.mem_cons_self)
  · exact List.mem_map_of_mem (List.mem_append_right _ List.mem_cons_self)
  · exact h

/-- Two climbs along the same sides that end alike started alike. -/
theorem Framed.climb_inj (F : Framed S Digest) {x y : D} {p q : List (Bool × D)} (hx : Digest x)
    (hy : Digest y) (sides : p.map Prod.fst = q.map Prod.fst)
    (same : climb S.node x p = climb S.node y q) :
    (x = y ∧ p = q) ∨
      Collides S.hash ((climbed S.node x p ++ climbed S.node y q).map S.pair) := by
  induction p generalizing x y q with
  | nil =>
      obtain rfl : q = [] := List.map_eq_nil_iff.mp sides.symm
      exact .inl ⟨same, rfl⟩
  | cons s p ih =>
      cases q with
      | nil => cases sides
      | cons t q =>
          obtain ⟨side, sides⟩ := List.cons.inj sides
          rcases ih (F.digest _) (F.digest _) sides same with ⟨above, rfl⟩ | collision
          · rcases collides_head above with equal | collision
            · obtain ⟨rfl, rfl⟩ := F.join_inj hx hy side equal
              exact .inl ⟨rfl, rfl⟩
            · exact .inr collision
          · exact .inr (collides_tail collision)

theorem Framed.digest_joined (F : Framed S Digest) {xs : List D} (hxs : ∀ x ∈ xs, Digest x) :
    ∀ p ∈ joined S.node xs, Digest p.1 ∧ Digest p.2 := by
  induction xs using levels.induct S.node with
  | case1 xs more ih =>
      intro p hp
      rw [joined_cons more] at hp
      rcases List.mem_append.mp hp with here | above
      · have members := mem_of_mem_pairs here
        exact ⟨hxs _ members.1, hxs _ members.2⟩
      · apply ih _ p above
        intro x hx
        obtain ⟨q, _, rfl⟩ := List.mem_map.mp hx
        exact F.digest _
  | case2 xs few =>
      rw [joined_short few]
      exact fun p hp => absurd hp List.not_mem_nil

/-- The root and the length bind the nodes at the bottom. -/
theorem Framed.root_inj (F : Framed S Digest) {xs ys : List D} (hxs : ∀ x ∈ xs, Digest x)
    (hys : ∀ y ∈ ys, Digest y) (length : xs.length = ys.length)
    (same : root S.node xs = root S.node ys) :
    xs = ys ∨ Collides S.hash ((joined S.node xs ++ joined S.node ys).map S.pair) := by
  by_cases collision : Collides S.hash ((joined S.node xs ++ joined S.node ys).map S.pair)
  · exact .inr collision
  left
  apply List.ext_getElem length
  intro i hi hi'
  have hx : xs[i]? = some xs[i] := List.getElem?_eq_getElem hi
  have hy : ys[i]? = some ys[i] := List.getElem?_eq_getElem hi'
  rw [climb_path hx, climb_path hy, Option.some.injEq] at same
  rcases F.climb_inj (hxs _ (List.getElem_mem hi)) (hys _ (List.getElem_mem hi'))
    (path_sides length hi) same with ⟨equal, _⟩ | found
  · exact equal
  · refine absurd (found.mono (List.map_subset _ ?_)) collision
    intro b hb
    rcases List.mem_append.mp hb with first | second
    · exact List.mem_append_left _ (climbed_subset hx first)
    · exact List.mem_append_right _ (climbed_subset hy second)

end Binding

/-! ## Pairs joined in order of their value -/

section Sorted
variable {D K : Type*} [LinearOrder K] {value : D → K}

def sortedPair (value : D → K) (x s : D) : D × D := if value x < value s then (x, s) else (s, x)

def climbSorted (value : D → K) (node : D × D → D) (x : D) : List D → D
  | [] => x
  | s :: rest => climbSorted value node (node (sortedPair value x s)) rest

/-- The pairs of a sorted climb. -/
def climbedSorted (value : D → K) (node : D × D → D) (x : D) : List D → List (D × D)
  | [] => []
  | s :: rest => sortedPair value x s :: climbedSorted value node (node (sortedPair value x s)) rest

theorem sortedPair_of_le {x : D} {s : Bool × D} (inj : value x = value s.2 → x = s.2)
    (h : value (join x s).1 ≤ value (join x s).2) : sortedPair value x s.2 = join x s := by
  obtain ⟨b, s⟩ := s
  unfold sortedPair
  cases b with
  | true =>
      rcases lt_or_eq_of_le h with less | equal
      · exact if_pos less
      · obtain rfl : x = s := inj equal
        rw [if_neg (lt_irrefl _)]
        rfl
  | false => exact if_neg (not_lt.mpr h)

theorem eq_of_sortedPair_eq {x y : D} {s : Bool × D} (h : sortedPair value y s.2 = join x s) :
    y = x ∧ value (join x s).1 ≤ value (join x s).2 := by
  obtain ⟨b, s⟩ := s
  unfold sortedPair at h
  cases b with
  | true =>
      split at h
      · rename_i less
        obtain ⟨rfl, _⟩ := Prod.mk.inj h
        exact ⟨rfl, le_of_lt less⟩
      · obtain ⟨rfl, rfl⟩ := Prod.mk.inj h
        exact ⟨rfl, le_rfl⟩
  | false =>
      split at h
      · obtain ⟨rfl, rfl⟩ := Prod.mk.inj h
        exact ⟨rfl, le_rfl⟩
      · rename_i less
        obtain ⟨_, rfl⟩ := Prod.mk.inj h
        exact ⟨rfl, not_lt.mp less⟩

variable {B : Type*} {S : Scheme B D} {Digest : D → Prop}

theorem digest_sortedPair {x s : D} (hx : Digest x) (hs : Digest s) :
    Digest (sortedPair value x s).1 := by
  unfold sortedPair
  split
  · exact hx
  · exact hs

theorem digest_join {x : D} {s : Bool × D} (hx : Digest x) (hs : Digest s.2) :
    Digest (join x s).1 := by
  unfold join
  split
  · exact hx
  · exact hs

theorem Framed.climbSorted_of_le (F : Framed S Digest)
    (inj : ∀ x y, Digest x → Digest y → value x = value y → x = y) {x : D}
    {p : List (Bool × D)} (hx : Digest x) (hp : ∀ s ∈ p, Digest s.2)
    (h : ∀ q ∈ climbed S.node x p, value q.1 ≤ value q.2) :
    climbSorted value S.node x (p.map Prod.snd) = climb S.node x p := by
  induction p generalizing x with
  | nil => rfl
  | cons s p ih =>
      rw [List.forall_mem_cons] at hp
      rw [climbed, List.forall_mem_cons] at h
      rw [List.map_cons, climbSorted, climb, sortedPair_of_le (inj _ _ hx hp.1) h.1]
      exact ih (F.digest _) hp.2 h.2

/-- A climb by sorted pairs that ends as the climb by sides does took the same pairs. -/
theorem Framed.climbSorted_inj (F : Framed S Digest) {x y : D} {p : List (Bool × D)}
    (hx : Digest x) (hy : Digest y) (hp : ∀ s ∈ p, Digest s.2)
    (same : climbSorted value S.node y (p.map Prod.snd) = climb S.node x p) :
    (y = x ∧ ∀ q ∈ climbed S.node x p, value q.1 ≤ value q.2) ∨
      Collides S.hash
        ((climbedSorted value S.node y (p.map Prod.snd) ++ climbed S.node x p).map S.pair) := by
  induction p generalizing x y with
  | nil => exact .inl ⟨same, fun q hq => absurd hq List.not_mem_nil⟩
  | cons s p ih =>
      rw [List.forall_mem_cons] at hp
      rcases ih (F.digest _) (F.digest _) hp.2 same with ⟨above, sorted⟩ | collision
      · rcases collides_head above with equal | collision
        · have pair : sortedPair value y s.2 = join x s := by
            obtain ⟨first, second⟩ := F.left (digest_sortedPair hy hp.1) (digest_join hx hp.1) equal
            exact Prod.ext first second
          obtain ⟨rfl, ordered⟩ := eq_of_sortedPair_eq pair
          rw [climbed, List.forall_mem_cons]
          exact .inl ⟨rfl, ordered, sorted⟩
        · exact .inr collision
      · exact .inr (collides_tail collision)

end Sorted

end Lib.HashTree
