import RenderTrust.Lib.HashTree.Binding

/-!
# Trees whose odd last node goes up as it is

Neighbours are joined level by level, and the last node of an odd level is the last of the next. A
path lists the siblings alone: the position and the number of the nodes at the bottom tell on which
side each of them is, and where there is none.
-/
namespace Lib.HashTree

variable {D : Type*}

/-! ## Levels -/

/-- The sibling of position `i`. -/
def neighbour (xs : List D) (i : ℕ) : Option D := if i % 2 = 1 then xs[i - 1]? else xs[i + 1]?

/-- Position `i` of `n` has no sibling. -/
def Alone (i n : ℕ) : Prop := i % 2 = 0 ∧ n ≤ i + 1

instance (i n : ℕ) : Decidable (Alone i n) := inferInstanceAs (Decidable (_ ∧ _))

def couples : List D → List (D × D)
  | [] => []
  | [_] => []
  | x :: y :: rest => (x, y) :: couples rest

theorem neighbour_eq_none {xs : List D} {i : ℕ} (h : i < xs.length) :
    neighbour xs i = none ↔ Alone i xs.length := by
  unfold neighbour Alone
  split
  · rw [List.getElem?_eq_none_iff]
    omega
  · rw [List.getElem?_eq_none_iff]
    omega

section Levels
variable (node : D × D → D)

def promote : List D → List D
  | [] => []
  | [x] => [x]
  | x :: y :: rest => node (x, y) :: promote rest

theorem length_promote (xs : List D) : (promote node xs).length = (xs.length + 1) / 2 := by
  induction xs using promote.induct with
  | case1 => simp only [promote, List.length_nil, Nat.reduceAdd, Nat.reduceDiv]
  | case2 x => simp only [promote, List.length_singleton, Nat.reduceAdd, Nat.reduceDiv]
  | case3 x y rest ih =>
      simp only [promote, List.length_cons, ih]
      omega

def promotions (xs : List D) : List (List D) :=
  if 1 < xs.length then xs :: promotions (promote node xs) else [xs]
termination_by xs.length
decreasing_by
  rw [length_promote]
  omega

def top (xs : List D) : Option D := (promotions node xs).getLast?.bind List.head?

/-- The pairs joined when the levels are built. -/
def coupled (xs : List D) : List (D × D) := (promotions node xs).dropLast.flatMap couples

def siblings (xs : List D) (i : ℕ) : List D :=
  if 1 < xs.length then (neighbour xs i).toList ++ siblings (promote node xs) (i / 2) else []
termination_by xs.length
decreasing_by
  rw [length_promote]
  omega

/-- The climb from position `i` of `n`; the siblings must be used up at the top. -/
def ascend (x : D) (i n : ℕ) (proof : List D) : Option D :=
  if 1 < n then
    if Alone i n then ascend x (i / 2) ((n + 1) / 2) proof
    else
      match proof with
      | [] => none
      | s :: rest => ascend (node (join x (decide (i % 2 = 0), s))) (i / 2) ((n + 1) / 2) rest
  else if proof = [] then some x else none
termination_by n
decreasing_by all_goals omega

/-- The pairs joined on the way up. -/
def ascended (x : D) (i n : ℕ) (proof : List D) : List (D × D) :=
  if 1 < n then
    if Alone i n then ascended x (i / 2) ((n + 1) / 2) proof
    else
      match proof with
      | [] => []
      | s :: rest =>
          join x (decide (i % 2 = 0), s) ::
            ascended (node (join x (decide (i % 2 = 0), s))) (i / 2) ((n + 1) / 2) rest
  else []
termination_by n
decreasing_by all_goals omega

variable {node}

theorem neighbour_add_two (x y : D) (rest : List D) (i : ℕ) :
    neighbour (x :: y :: rest) (i + 2) = neighbour rest i := by
  unfold neighbour
  rw [Nat.add_mod_right]
  split
  · rename_i odd
    obtain ⟨k, rfl⟩ : ∃ k, i = k + 1 := ⟨i - 1, by omega⟩
    rfl
  · rfl

/-- A node with a sibling is joined with it. -/
theorem promote_join {xs : List D} {i : ℕ} {x s : D} (here : xs[i]? = some x)
    (beside : neighbour xs i = some s) :
    join x (decide (i % 2 = 0), s) ∈ couples xs ∧
      (promote node xs)[i / 2]? = some (node (join x (decide (i % 2 = 0), s))) := by
  induction xs using promote.induct generalizing i with
  | case1 => cases here
  | case2 y =>
      obtain rfl : i = 0 := by
        obtain ⟨inside, -⟩ := List.getElem?_eq_some_iff.mp here
        simp only [List.length_singleton] at inside
        omega
      cases beside
  | case3 y z rest ih =>
      match i, here, beside with
      | 0, here, beside =>
          obtain rfl := Option.some.inj here
          obtain rfl := Option.some.inj beside
          exact ⟨List.mem_cons_self, rfl⟩
      | 1, here, beside =>
          obtain rfl := Option.some.inj here
          obtain rfl := Option.some.inj beside
          exact ⟨List.mem_cons_self, rfl⟩
      | i + 2, here, beside =>
          rw [neighbour_add_two] at beside
          have half : (i + 2) / 2 = i / 2 + 1 := by omega
          obtain ⟨coupled, joined⟩ := ih here beside
          rw [Nat.add_mod_right, half]
          exact ⟨List.mem_cons_of_mem _ coupled, joined⟩

/-- A node without a sibling goes up as it is. -/
theorem promote_alone {xs : List D} {i : ℕ} {x : D} (here : xs[i]? = some x)
    (alone : neighbour xs i = none) : (promote node xs)[i / 2]? = some x := by
  induction xs using promote.induct generalizing i with
  | case1 => cases here
  | case2 y =>
      obtain rfl : i = 0 := by
        obtain ⟨inside, -⟩ := List.getElem?_eq_some_iff.mp here
        simp only [List.length_singleton] at inside
        omega
      exact here
  | case3 y z rest ih =>
      match i, here, alone with
      | 0, _, alone => cases alone
      | 1, _, alone => cases alone
      | i + 2, here, alone =>
          rw [neighbour_add_two] at alone
          have half : (i + 2) / 2 = i / 2 + 1 := by omega
          rw [half]
          exact ih here alone

theorem promotions_ne_nil (xs : List D) : promotions node xs ≠ [] := by
  unfold promotions
  split <;> exact List.cons_ne_nil _ _

theorem promotions_cons {xs : List D} (more : 1 < xs.length) :
    promotions node xs = xs :: promotions node (promote node xs) := by
  rw [promotions, if_pos more]

theorem promotions_short {xs : List D} (few : ¬ 1 < xs.length) : promotions node xs = [xs] := by
  rw [promotions, if_neg few]

theorem top_cons {xs : List D} (more : 1 < xs.length) :
    top node xs = top node (promote node xs) := by
  rw [top, top, promotions_cons more, List.getLast?_cons_of_ne_nil (promotions_ne_nil _)]

theorem top_short {xs : List D} (few : ¬ 1 < xs.length) : top node xs = xs.head? := by
  rw [top, promotions_short few]
  rfl

theorem top_ne_none {xs : List D} (nonempty : xs ≠ []) : top node xs ≠ none := by
  induction xs using promotions.induct node with
  | case1 xs more ih =>
      rw [top_cons more]
      apply ih
      rw [← List.length_pos_iff, length_promote]
      omega
  | case2 xs few =>
      rw [top_short few]
      exact fun nothing => nonempty (List.head?_eq_none_iff.mp nothing)

theorem coupled_cons {xs : List D} (more : 1 < xs.length) :
    coupled node xs = couples xs ++ coupled node (promote node xs) := by
  rw [coupled, coupled, promotions_cons more, List.dropLast_cons_of_ne_nil (promotions_ne_nil _),
    List.flatMap_cons]

theorem siblings_cons {xs : List D} (more : 1 < xs.length) (i : ℕ) :
    siblings node xs i = (neighbour xs i).toList ++ siblings node (promote node xs) (i / 2) := by
  rw [siblings, if_pos more]

theorem siblings_short {xs : List D} (few : ¬ 1 < xs.length) (i : ℕ) :
    siblings node xs i = [] := by
  rw [siblings, if_neg few]

section Ascents
variable {x s : D} {i n : ℕ} {proof rest : List D}

theorem ascend_alone (more : 1 < n) (alone : Alone i n) :
    ascend node x i n proof = ascend node x (i / 2) ((n + 1) / 2) proof := by
  rw [ascend.eq_def, if_pos more, if_pos alone]

theorem ascend_join (more : 1 < n) (beside : ¬ Alone i n) :
    ascend node x i n (s :: rest) =
      ascend node (node (join x (decide (i % 2 = 0), s))) (i / 2) ((n + 1) / 2) rest := by
  rw [ascend, if_pos more, if_neg beside]

theorem ascend_short (few : ¬ 1 < n) :
    ascend node x i n proof = if proof = [] then some x else none := by
  rw [ascend.eq_def, if_neg few]

theorem ascended_alone (more : 1 < n) (alone : Alone i n) :
    ascended node x i n proof = ascended node x (i / 2) ((n + 1) / 2) proof := by
  rw [ascended.eq_def, if_pos more, if_pos alone]

theorem ascended_join (more : 1 < n) (beside : ¬ Alone i n) :
    ascended node x i n (s :: rest) = join x (decide (i % 2 = 0), s) ::
      ascended node (node (join x (decide (i % 2 = 0), s))) (i / 2) ((n + 1) / 2) rest := by
  rw [ascended, if_pos more, if_neg beside]

end Ascents

/-- Every path of a list leads to its top. -/
theorem ascend_siblings {xs : List D} {i : ℕ} {x : D} (here : xs[i]? = some x) :
    ascend node x i xs.length (siblings node xs i) = top node xs := by
  induction xs using promotions.induct node generalizing i x with
  | case1 xs more ih =>
      obtain ⟨inside, -⟩ := List.getElem?_eq_some_iff.mp here
      rw [siblings_cons more, top_cons more]
      cases beside : neighbour xs i with
      | none =>
          have alone := (neighbour_eq_none inside).mp beside
          rw [Option.toList_none, List.nil_append, ascend_alone more alone, ← length_promote node]
          exact ih (promote_alone here beside)
      | some s =>
          have notAlone : ¬ Alone i xs.length := by
            rw [← neighbour_eq_none inside, beside]
            exact Option.some_ne_none s
          rw [Option.toList_some, List.singleton_append, ascend_join more notAlone,
            ← length_promote node]
          exact ih (promote_join here beside).2
  | case2 xs few =>
      rw [siblings_short few, ascend_short few, if_pos rfl, top_short few,
        singleton_of_getElem? few here, List.head?_cons]

end Levels

/-! ## Binding -/

section Binding
variable {B : Type*} {S : Scheme B D} {Digest : D → Prop}

theorem Framed.digest_promote (F : Framed S Digest) {xs : List D} (digests : ∀ x ∈ xs, Digest x) :
    ∀ x ∈ promote S.node xs, Digest x := by
  induction xs using promote.induct with
  | case1 => exact digests
  | case2 x => exact digests
  | case3 x y rest ih =>
      intro z member
      rcases List.mem_cons.mp member with rfl | later
      · exact F.digest _
      · apply ih _ z later
        intro u inside
        exact digests u (List.mem_cons_of_mem _ (List.mem_cons_of_mem _ inside))

theorem Framed.digest_top (F : Framed S Digest) {xs : List D} {r : D}
    (digests : ∀ x ∈ xs, Digest x) (reached : top S.node xs = some r) : Digest r := by
  induction xs using promotions.induct S.node with
  | case1 xs more ih =>
      rw [top_cons more] at reached
      exact ih (F.digest_promote digests) reached
  | case2 xs few =>
      rw [top_short few] at reached
      exact digests r (List.mem_of_head? reached)

/-- The top and the number of the nodes bind each of them and its path. -/
theorem Framed.ascend_inj (F : Framed S Digest) {ys : List D} {i : ℕ} {x r : D} {proof : List D}
    (hx : Digest x) (hys : ∀ y ∈ ys, Digest y) (inside : i < ys.length)
    (arrives : ascend S.node x i ys.length proof = some r) (same : top S.node ys = some r) :
    (ys[i]? = some x ∧ proof = siblings S.node ys i) ∨
      Collides S.hash
        ((ascended S.node x i ys.length proof ++ coupled S.node ys).map S.pair) := by
  induction ys using promotions.induct S.node generalizing i x proof with
  | case1 ys more ih =>
      have here : ys[i]? = some ys[i] := List.getElem?_eq_getElem inside
      have above : i / 2 < (promote S.node ys).length := by
        rw [length_promote]
        omega
      have digests := F.digest_promote hys
      rw [top_cons more] at same
      rw [siblings_cons more, coupled_cons more]
      cases beside : neighbour ys i with
      | none =>
          have alone := (neighbour_eq_none inside).mp beside
          rw [ascend_alone more alone, ← length_promote S.node] at arrives
          rw [ascended_alone more alone, ← length_promote S.node]
          rcases ih hx digests above arrives same with ⟨found, path⟩ | collision
          · rw [promote_alone here beside] at found
            exact .inl ⟨here.trans found, path⟩
          · refine .inr (collision.mono (List.map_subset _ ?_))
            intro p member
            rcases List.mem_append.mp member with climbed | built
            · exact List.mem_append_left _ climbed
            · exact List.mem_append_right _ (List.mem_append_right _ built)
      | some s =>
          have notAlone : ¬ Alone i ys.length := by
            rw [← neighbour_eq_none inside, beside]
            exact Option.some_ne_none s
          obtain ⟨coupled, joined⟩ := @promote_join _ S.node _ _ _ _ here beside
          cases proof with
          | nil =>
              rw [ascend.eq_def, if_pos more, if_neg notAlone] at arrives
              cases arrives
          | cons t rest =>
              rw [ascend_join more notAlone, ← length_promote S.node] at arrives
              rw [ascended_join more notAlone, ← length_promote S.node]
              rcases ih (F.digest _) digests above arrives same with ⟨found, path⟩ | collision
              · rw [joined] at found
                have equal : S.hash (S.pair (join ys[i] (decide (i % 2 = 0), s))) =
                  S.hash (S.pair (join x (decide (i % 2 = 0), t))) := Option.some.inj found
                refine (eq_or_collides ?_ ?_ equal).elim (fun pair => .inl ?_) .inr
                · apply List.mem_map_of_mem
                  exact List.mem_append_right _ (List.mem_append_left _ coupled)
                · exact List.mem_map_of_mem List.mem_cons_self
                · obtain ⟨same, sibling⟩ := F.join_inj (s := (decide (i % 2 = 0), s))
                    (t := (decide (i % 2 = 0), t)) (hys _ (List.getElem_mem inside)) hx rfl pair
                  obtain rfl : s = t := congrArg Prod.snd sibling
                  rw [Option.toList_some, List.singleton_append, path]
                  exact ⟨here.trans (congrArg some same), rfl⟩
              · refine .inr (collision.mono (List.map_subset _ ?_))
                intro p member
                rcases List.mem_append.mp member with climbed | built
                · exact List.mem_append_left _ (List.mem_cons_of_mem _ climbed)
                · exact List.mem_append_right _ (List.mem_append_right _ built)
  | case2 ys few =>
      have here : ys[i]? = some ys[i] := List.getElem?_eq_getElem inside
      rw [top_short few, singleton_of_getElem? few here, List.head?_cons] at same
      rw [ascend_short few] at arrives
      split at arrives
      · rename_i done
        refine .inl ⟨?_, ?_⟩
        · rw [here, same, ← arrives]
        · rw [done, siblings_short few]
      · cases arrives

end Binding
end Lib.HashTree
