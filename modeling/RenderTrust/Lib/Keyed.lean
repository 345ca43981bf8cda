import Mathlib.Data.List.Dedup
import Mathlib.Data.List.Nodup
import Mathlib.Data.List.Sort

/-!
# Rows with a key

Lists as tables: a row found by its key, and rows in the order of their keys.
-/
namespace Lib.Keyed

variable {α κ : Type*} (key : α → κ)

def DistinctKeys (rows : List α) : Prop := (rows.map key).Nodup

variable {key}

theorem find?_key_eq_none [DecidableEq κ] {rows : List α} {k : κ} :
    rows.find? (fun b => key b = k) = none ↔ k ∉ rows.map key := by
  rw [List.find?_eq_none, List.mem_map, not_exists]
  constructor
  · rintro absent a ⟨member, same⟩
    exact absent a member (decide_eq_true same)
  · intro absent a member same
    exact absent a ⟨member, of_decide_eq_true same⟩

theorem mem_of_find?_key [DecidableEq κ] {rows : List α} {k : κ} {a : α}
    (found : rows.find? (fun b => key b = k) = some a) : a ∈ rows ∧ key a = k := by
  have same := List.find?_some (p := fun b => decide (key b = k)) found
  exact ⟨List.mem_of_find?_eq_some found, of_decide_eq_true same⟩

theorem DistinctKeys.find? [DecidableEq κ] {rows : List α} (distinct : DistinctKeys key rows)
    {a : α} (member : a ∈ rows) : rows.find? (fun b => key b = key a) = some a := by
  cases found : rows.find? (fun b => key b = key a) with
  | none => exact absurd (List.mem_map_of_mem member) (find?_key_eq_none.mp found)
  | some b =>
      obtain ⟨other, same⟩ := mem_of_find?_key found
      rw [List.inj_on_of_nodup_map distinct other member same]

theorem DistinctKeys.append_singleton {rows : List α} (distinct : DistinctKeys key rows) {a : α}
    (fresh : key a ∉ rows.map key) : DistinctKeys key (rows ++ [a]) := by
  unfold DistinctKeys at distinct ⊢
  rw [List.map_append, List.nodup_append]
  refine ⟨distinct, List.nodup_singleton _, ?_⟩
  intro k old l new same
  rw [List.map_singleton, List.mem_singleton] at new
  rw [same, new] at old
  exact fresh old

theorem DistinctKeys.filter {rows : List α} (distinct : DistinctKeys key rows) (p : α → Bool) :
    DistinctKeys key (rows.filter p) :=
  distinct.sublist (List.filter_sublist.map key)

theorem DistinctKeys.filter_key [DecidableEq κ] {rows : List α} (distinct : DistinctKeys key rows)
    {a : α} (member : a ∈ rows) : rows.filter (fun b => key b = key a) = [a] := by
  apply List.perm_singleton.mp
  rw [List.perm_ext_iff_of_nodup ((List.Nodup.of_map _ distinct).filter _) (List.nodup_singleton a)]
  intro b
  rw [List.mem_filter, decide_eq_true_eq, List.mem_singleton]
  constructor
  · rintro ⟨other, same⟩
    exact List.inj_on_of_nodup_map distinct other member same
  · rintro rfl
    exact ⟨member, rfl⟩

theorem DistinctKeys.ne_head {rows : List α} {a b : α} (distinct : DistinctKeys key (a :: rows))
    (member : b ∈ rows) : key a ≠ key b := by
  intro same
  have absent := (List.nodup_cons.mp distinct).1
  rw [same] at absent
  exact absent (List.mem_map_of_mem member)

theorem map_key {f : α → α} (keeps : ∀ a, key (f a) = key a) (rows : List α) :
    (rows.map f).map key = rows.map key := by
  rw [List.map_map]
  exact List.map_congr_left fun a _ => keeps a

/-- Rows that are rewritten outside of `p` only. -/
theorem filter_map_outside {p : α → Bool} {f : α → α} (same : ∀ a, p (f a) = p a)
    (outside : ∀ a, p a → f a = a) (rows : List α) : (rows.map f).filter p = rows.filter p := by
  have reads : p ∘ f = p := funext same
  rw [List.filter_map, reads]
  conv_rhs => rw [← List.map_id (rows.filter p)]
  exact List.map_congr_left fun a member => outside a (List.mem_filter.mp member).2

/-! ## Rewritten row by row -/

/-- Every row is rewritten as `R` allows, and rows of `new` are added. -/
def Rewritten (R : α → α → Prop) (new : List α → Prop) (rows rows' : List α) : Prop :=
  ∃ f fresh, rows' = rows.map f ++ fresh ∧ (∀ a ∈ rows, R a (f a)) ∧ new fresh

namespace Rewritten
variable {R : α → α → Prop} {new : List α → Prop} {rows rows' : List α}

theorem map {f : α → α} (changes : ∀ a ∈ rows, R a (f a)) (none : new []) :
    Rewritten R new rows (rows.map f) :=
  ⟨f, [], (List.append_nil _).symm, changes, none⟩

theorem refl (same : ∀ a, R a a) (none : new []) : Rewritten R new rows rows := by
  refine ⟨fun a => a, [], ?_, fun a _ => same a, none⟩
  rw [List.map_id', List.append_nil]

theorem append {fresh : List α} (same : ∀ a, R a a) (added : new fresh) :
    Rewritten R new rows (rows ++ fresh) := by
  refine ⟨fun a => a, fresh, ?_, fun a _ => same a, added⟩
  rw [List.map_id']

/-- Where a row comes from. -/
theorem origin (h : Rewritten R new rows rows') {a : α} (member : a ∈ rows') :
    (∃ b ∈ rows, R b a) ∨ ∃ fresh, new fresh ∧ a ∈ fresh := by
  obtain ⟨f, fresh, rfl, changes, added⟩ := h
  rcases List.mem_append.mp member with old | here
  · obtain ⟨b, inside, rfl⟩ := List.mem_map.mp old
    exact .inl ⟨b, inside, changes b inside⟩
  · exact .inr ⟨fresh, added, here⟩

/-- Where a row goes. -/
theorem target (h : Rewritten R new rows rows') {a : α} (member : a ∈ rows) :
    ∃ b ∈ rows', R a b := by
  obtain ⟨f, fresh, rfl, changes, -⟩ := h
  exact ⟨f a, List.mem_append_left _ (List.mem_map_of_mem member), changes a member⟩

theorem keys (h : Rewritten R new rows rows') (keeps : ∀ a b, R a b → key b = key a) :
    ∃ fresh, new fresh ∧ rows'.map key = rows.map key ++ fresh.map key := by
  obtain ⟨f, fresh, rfl, changes, added⟩ := h
  refine ⟨fresh, added, ?_⟩
  rw [List.map_append, List.map_map]
  congr 1
  exact List.map_congr_left fun a member => keeps a (f a) (changes a member)

theorem distinct (h : Rewritten R new rows rows') (keeps : ∀ a b, R a b → key b = key a)
    (unused : ∀ fresh, new fresh → DistinctKeys key fresh ∧ ∀ a ∈ fresh, key a ∉ rows.map key)
    (distinct : DistinctKeys key rows) : DistinctKeys key rows' := by
  obtain ⟨fresh, added, built⟩ := h.keys keeps
  obtain ⟨once, apart⟩ := unused fresh added
  unfold DistinctKeys
  rw [built]
  refine List.nodup_append'.mpr ⟨distinct, once, fun k old present => ?_⟩
  obtain ⟨a, here, rfl⟩ := List.mem_map.mp present
  exact apart a here old

end Rewritten

/-! ## Grouped by the key -/

section Groups
variable [DecidableEq κ] (key)

def group (rows : List α) (k : κ) : List α := rows.filter fun a => key a = k

theorem groups_perm_of_cover {keys : List κ} (once : keys.Nodup) {rows : List α}
    (cover : ∀ a ∈ rows, key a ∈ keys) : (keys.flatMap (group key rows)).Perm rows := by
  induction keys generalizing rows with
  | nil =>
      cases rows with
      | nil => exact .refl _
      | cons a rows => exact absurd (cover a List.mem_cons_self) List.not_mem_nil
  | cons k keys ih =>
      obtain ⟨absent, once⟩ := List.nodup_cons.mp once
      have rest : keys.flatMap (group key rows) =
          keys.flatMap (group key (rows.filter fun a => !decide (key a = k))) := by
        refine List.flatMap_congr fun l member => ?_
        unfold group
        rw [List.filter_filter]
        refine List.filter_congr fun a _ => ?_
        by_cases same : key a = l
        · have other : key a ≠ k := fun equal => absent (by rwa [← equal, same])
          simp only [same, decide_true, Bool.true_and]
          rw [← same, decide_eq_false other, Bool.not_false]
        · simp only [same, decide_false, Bool.false_and]
      have covered : ∀ a ∈ rows.filter (fun a => !decide (key a = k)), key a ∈ keys := by
        intro a member
        obtain ⟨inside, other⟩ := List.mem_filter.mp member
        rw [Bool.not_eq_true', decide_eq_false_iff_not] at other
        exact (List.mem_cons.mp (cover a inside)).resolve_left other
      rw [List.flatMap_cons, rest]
      exact ((ih once covered).append_left _).trans (List.filter_append_perm _ rows)

/-- The groups of the keys that occur hold every row once. -/
theorem groups_perm (rows : List α) :
    ((rows.map key).dedup.flatMap (group key rows)).Perm rows :=
  groups_perm_of_cover key (List.nodup_dedup _) fun a member =>
    List.mem_dedup.mpr (List.mem_map.mpr ⟨a, member, rfl⟩)

end Groups

theorem DistinctKeys.length_group_le [DecidableEq κ] {rows : List α}
    (distinct : DistinctKeys key rows) (k : κ) : (group key rows k).length ≤ 1 := by
  by_cases present : ∃ a ∈ rows, key a = k
  · obtain ⟨a, member, rfl⟩ := present
    rw [group, distinct.filter_key member]
    exact le_rfl
  · have empty : group key rows k = [] :=
      List.filter_eq_nil_iff.mpr fun a member same => present ⟨a, member, of_decide_eq_true same⟩
    rw [empty]
    exact Nat.zero_le 1

/-- The rows with the keys of some of them are these. -/
theorem DistinctKeys.picked_perm [DecidableEq κ] {rows picked : List α}
    (distinct : DistinctKeys key rows) (subset : ∀ a ∈ picked, a ∈ rows) (once : picked.Nodup) :
    (rows.filter (fun a => key a ∈ picked.map key)).Perm picked := by
  rw [List.perm_ext_iff_of_nodup ((distinct.filter _).of_map key) once]
  intro a
  rw [List.mem_filter, decide_eq_true_eq, List.mem_map]
  constructor
  · rintro ⟨member, b, hb, equal⟩
    rwa [← List.inj_on_of_nodup_map distinct (subset b hb) member equal]
  · intro ha
    exact ⟨subset a ha, a, ha, rfl⟩

/-! ## Sorted by the key -/

section Order
variable [LinearOrder κ]

variable (key) in
def orderBy (rows : List α) : List α := rows.insertionSort (fun a b => key a ≤ key b)

theorem orderBy_perm (rows : List α) : (orderBy key rows).Perm rows :=
  List.perm_insertionSort _ rows

theorem DistinctKeys.orderBy {rows : List α} (distinct : DistinctKeys key rows) :
    DistinctKeys key (orderBy key rows) :=
  ((orderBy_perm rows).map key).nodup_iff.mpr distinct

theorem orderBy_map {f : α → α} (keeps : ∀ a, key (f a) = key a) (rows : List α) :
    orderBy key (rows.map f) = (orderBy key rows).map f := by
  unfold orderBy
  rw [List.map_insertionSort (fun a b => key a ≤ key b) (fun a b => key a ≤ key b)]
  intro a _ b _
  rw [keeps, keeps]

/-- Rows are in one order under keys that compare alike. -/
theorem map_orderBy {β ν : Type*} [LinearOrder ν] {other : β → ν} {f : α → β} {rows : List α}
    (alike : ∀ a ∈ rows, ∀ b ∈ rows, key a ≤ key b ↔ other (f a) ≤ other (f b)) :
    (orderBy key rows).map f = orderBy other (rows.map f) :=
  List.map_insertionSort _ _ f rows alike

/-- A row before all others goes to the head. -/
theorem orderBy_concat {rows : List α} {a : α} (first : ∀ b ∈ rows, key a < key b) :
    orderBy key (rows ++ [a]) = a :: orderBy key rows := by
  unfold orderBy
  induction rows with
  | nil => rfl
  | cons b rest ih =>
      rw [List.forall_mem_cons] at first
      rw [List.cons_append, List.insertionSort_cons, ih first.2, List.insertionSort_cons]
      exact List.orderedInsert_of_not_le _ _ (not_le_of_gt first.1)

theorem orderBy_pairwise (rows : List α) :
    (orderBy key rows).Pairwise (fun a b => key a ≤ key b) := by
  have total : Std.Total (fun a b => key a ≤ key b) := ⟨fun a b => le_total (key a) (key b)⟩
  have transitive : IsTrans α (fun a b => key a ≤ key b) := ⟨fun _ _ _ => le_trans⟩
  exact List.pairwise_insertionSort _ rows

/-- Rows picked by their keys come back in the order of their keys. -/
theorem orderBy_picked [DecidableEq κ] {rows picked : List α} (distinct : DistinctKeys key rows)
    (subset : ∀ a ∈ picked, a ∈ rows) (ascending : picked.Pairwise (fun a b => key a < key b)) :
    orderBy key (rows.filter (fun a => key a ∈ picked.map key)) = picked := by
  have once : picked.Nodup := ascending.imp fun below => ne_of_apply_ne key (ne_of_lt below)
  have same := distinct.picked_perm subset once
  have ordered : picked.Pairwise (fun a b => key a ≤ key b) :=
    ascending.imp fun below => le_of_lt below
  refine List.Perm.eq_of_pairwise ?_ (orderBy_pairwise _) ordered ((orderBy_perm _).trans same)
  intro a b ha hb ab ba
  have inside := (orderBy_perm _).mem_iff.mp ha
  have equal := le_antisymm ab ba
  exact List.inj_on_of_nodup_map distinct (List.mem_filter.mp inside).1 (subset b hb) equal

end Order

end Lib.Keyed
