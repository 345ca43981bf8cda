import Mathlib.Algebra.BigOperators.Group.List.Basic
import Mathlib.Algebra.Group.Defs
import Mathlib.Data.List.Induction
import Mathlib.Data.List.Pairwise
import Mathlib.Data.List.Sort
import Mathlib.Order.Defs.LinearOrder

/-!
# Journals that carry running balances

A journal is a list of rows in the order they were written. Every row moves the
balance of one account and carries the balance that account has after it; the
current balance is the one carried by the account's latest row. The rows are
of any type: a `View` says how to read them.
-/
namespace Lib.Journal

structure View (E κ G τ : Type*) where
  account : E → κ
  delta : E → G
  balance : E → G
  stamp : E → τ

namespace View
variable {E κ G τ : Type*} (v : View E κ G τ)

section Rows
variable [DecidableEq κ]

def rows (k : κ) (es : List E) : List E := es.filter (fun e => v.account e = k)

theorem mem_rows {k : κ} {es : List E} {e : E} :
    e ∈ v.rows k es ↔ e ∈ es ∧ v.account e = k := by
  simp only [rows, List.mem_filter, decide_eq_true_eq]

theorem rows_concat_self (es : List E) (e : E) :
    v.rows (v.account e) (es ++ [e]) = v.rows (v.account e) es ++ [e] := by
  simp only [rows, List.filter_append, List.filter_cons, List.filter_nil, decide_true, if_true]

theorem rows_concat_other {k : κ} {e : E} (h : v.account e ≠ k) (es : List E) :
    v.rows k (es ++ [e]) = v.rows k es := by
  simp only [rows, List.filter_append, List.filter_cons, List.filter_nil, decide_eq_false h,
    Bool.false_eq_true, if_false, List.append_nil]

end Rows

section Totals
variable [AddCommGroup G]

/-- The balance carried by a row, zero where there is none. -/
def carried : Option E → G
  | none => 0
  | some e => v.balance e

@[simp] theorem carried_none : v.carried none = 0 := rfl

@[simp] theorem carried_some (e : E) : v.carried (some e) = v.balance e := rfl

variable [DecidableEq κ]

def total (k : κ) (es : List E) : G := ((v.rows k es).map v.delta).sum

theorem total_concat_self (es : List E) (e : E) :
    v.total (v.account e) (es ++ [e]) = v.total (v.account e) es + v.delta e := by
  simp only [total, rows_concat_self, List.map_append, List.map_cons, List.map_nil,
    List.sum_append, List.sum_cons, List.sum_nil, add_zero]

theorem total_concat_other {k : κ} {e : E} (h : v.account e ≠ k) (es : List E) :
    v.total k (es ++ [e]) = v.total k es := by
  rw [total, total, v.rows_concat_other h]

/-- Every row carries the total of its account up to and including itself. -/
def Running (es : List E) : Prop :=
  ∀ pre e post, es = pre ++ e :: post → v.balance e = v.total (v.account e) (pre ++ [e])

end Totals

section Order
variable [LinearOrder τ]

def Ordered (es : List E) : Prop :=
  es.Pairwise (fun a b => v.account a = v.account b → v.stamp a < v.stamp b)

def Newer (es : List E) (e : E) : Prop :=
  ∀ a ∈ es, v.account a = v.account e → v.stamp a < v.stamp e

instance [DecidableEq κ] (es : List E) (e : E) : Decidable (v.Newer es e) :=
  inferInstanceAs (Decidable (∀ a ∈ es, v.account a = v.account e → v.stamp a < v.stamp e))

def newestFirst (es : List E) : List E :=
  es.mergeSort (fun a b => decide (v.stamp b ≤ v.stamp a))

theorem newestFirst_perm (es : List E) : (v.newestFirst es).Perm es :=
  List.mergeSort_perm es _

theorem notOlder_trans (a b c : E) (h : decide (v.stamp b ≤ v.stamp a) = true)
    (h' : decide (v.stamp c ≤ v.stamp b) = true) : decide (v.stamp c ≤ v.stamp a) = true := by
  simp only [decide_eq_true_eq] at *
  exact h'.trans h

theorem notOlder_total (a b : E) :
    (decide (v.stamp b ≤ v.stamp a) || decide (v.stamp a ≤ v.stamp b)) = true := by
  simpa only [Bool.or_eq_true, decide_eq_true_eq] using le_total (v.stamp b) (v.stamp a)

theorem newestFirst_sorted (es : List E) :
    (v.newestFirst es).Pairwise (fun a b => v.stamp b ≤ v.stamp a) := by
  have sorted : (v.newestFirst es).Pairwise (fun a b => decide (v.stamp b ≤ v.stamp a) = true) :=
    List.pairwise_mergeSort v.notOlder_trans v.notOlder_total es
  simpa only [decide_eq_true_eq] using sorted

/-- Of two rows with one stamp, one is before the other. -/
theorem eq_of_first {es : List E} {a b : E} (ha : a ∈ es) (hb : b ∈ es)
    (first : es.Pairwise fun x y => y = a → v.stamp x < v.stamp a)
    (first' : es.Pairwise fun x y => y = b → v.stamp x < v.stamp b)
    (same : v.stamp a = v.stamp b) : a = b := by
  have all : ∀ ⦃x⦄, x ∈ es → ∀ ⦃y⦄, y ∈ es → x = a → y = b → a = b := by
    apply List.Pairwise.forall_of_forall_of_flip
    · rintro x - rfl rfl
      rfl
    · apply first'.imp
      rintro x y older rfl rfl
      exact absurd (older rfl) (not_lt.mpr same.ge)
    · apply first.imp
      rintro y x older rfl rfl
      exact absurd (older rfl) (not_lt.mpr same.le)
  exact all ha hb rfl rfl

variable [DecidableEq κ]

def latest (k : κ) (es : List E) : Option E := (v.newestFirst (v.rows k es)).head?

@[simp] theorem latest_nil (k : κ) : v.latest k [] = none := by
  simp only [latest, rows, newestFirst, List.filter_nil, List.mergeSort_nil, List.head?_nil]

theorem latest_mem {k : κ} {es : List E} {e : E} (h : v.latest k es = some e) :
    e ∈ es ∧ v.account e = k :=
  v.mem_rows.mp ((v.newestFirst_perm _).mem_iff.mp (List.mem_of_head? h))

theorem latest_none {k : κ} {es : List E} (h : v.latest k es = none) : v.rows k es = [] := by
  have empty : v.newestFirst (v.rows k es) = [] := List.head?_eq_none_iff.mp h
  have perm := v.newestFirst_perm (v.rows k es)
  rw [empty] at perm
  exact perm.nil_eq.symm

theorem le_latest {k : κ} {es : List E} {e : E} (h : v.latest k es = some e) {a : E}
    (ha : a ∈ es) (hk : v.account a = k) : v.stamp a ≤ v.stamp e := by
  have member : a ∈ v.newestFirst (v.rows k es) :=
    (v.newestFirst_perm _).mem_iff.mpr (v.mem_rows.mpr ⟨ha, hk⟩)
  have sorted := v.newestFirst_sorted (v.rows k es)
  obtain ⟨rest, split⟩ := List.head?_eq_some_iff.mp h
  rw [split] at member sorted
  rcases List.mem_cons.mp member with rfl | later
  · exact le_rfl
  · exact (List.pairwise_cons.mp sorted).1 a later

theorem latest_concat_self {es : List E} {e : E} (newer : v.Newer es e) :
    v.latest (v.account e) (es ++ [e]) = some e := by
  cases h : v.latest (v.account e) (es ++ [e]) with
  | none =>
      have empty := v.latest_none h
      rw [rows_concat_self] at empty
      exact absurd empty (List.append_ne_nil_of_right_ne_nil _ (List.cons_ne_nil e []))
  | some top =>
      obtain ⟨member, same⟩ := v.latest_mem h
      have above := v.le_latest h (List.mem_append_right es (List.mem_singleton_self e)) rfl
      rcases List.mem_append.mp member with old | new
      · exact absurd (newer top old same) (not_lt.mpr above)
      · rw [List.mem_singleton.mp new]

theorem latest_concat_other {k : κ} {e : E} (h : v.account e ≠ k) (es : List E) :
    v.latest k (es ++ [e]) = v.latest k es := by
  rw [latest, latest, v.rows_concat_other h]

/-- The rows before the latest are older: the sort is stable. -/
theorem latest_first {k : κ} {es : List E} {top : E}
    (once : ∀ rest, (v.rows k es).Perm (top :: rest) → top ∉ rest)
    (latest : v.latest k es = some top) :
    (v.rows k es).Pairwise fun a b => b = top → v.stamp a < v.stamp top := by
  apply List.pairwise_of_forall_sublist
  rintro a b pair rfl
  by_contra older
  obtain ⟨rest, split⟩ := List.head?_eq_some_iff.mp latest
  have ordered : [a, b].Pairwise fun a b => decide (v.stamp b ≤ v.stamp a) = true :=
    List.pairwise_pair.mpr (decide_eq_true (not_lt.mp older))
  have before := List.sublist_mergeSort v.notOlder_trans v.notOlder_total ordered pair
  have perm := v.newestFirst_perm (v.rows k es)
  change [a, b].Sublist (v.newestFirst _) at before
  rw [split] at before perm
  apply once rest perm.symm
  rcases List.sublist_cons_iff.mp before with inside | ⟨tail, shape, inside⟩
  · exact inside.subset (by simp)
  · obtain ⟨-, rfl⟩ := List.cons.inj shape
    exact inside.subset (by simp)

/-- A row that is not there yet is read as the latest if and only if it is the newest. -/
theorem latest_concat_self_iff {es : List E} {e : E} (absent : e ∉ es) :
    v.latest (v.account e) (es ++ [e]) = some e ↔ v.Newer es e := by
  constructor
  · intro latest a member same
    have once : ∀ rest, (v.rows (v.account e) (es ++ [e])).Perm (e :: rest) → e ∉ rest := by
      intro rest perm again
      rw [rows_concat_self] at perm
      have others := ((List.perm_append_singleton e _).symm.trans perm).cons_inv
      exact absent (v.mem_rows.mp (others.mem_iff.mpr again)).1
    have first := v.latest_first once latest
    rw [rows_concat_self] at first
    obtain ⟨-, -, last⟩ := List.pairwise_append.mp first
    exact last a (v.mem_rows.mpr ⟨member, same⟩) e (List.mem_singleton_self e) rfl
  · exact v.latest_concat_self

/-- A row that is added is read as the latest, or the one before still is. -/
theorem latest_concat_cases {k : κ} {es : List E} {e : E} (nodup : (es ++ [e]).Nodup) :
    v.latest k (es ++ [e]) = v.latest k es ∨
      v.account e = k ∧ v.latest k (es ++ [e]) = some e := by
  by_cases same : v.account e = k
  · subst same
    cases after : v.latest (v.account e) (es ++ [e]) with
    | none =>
        have empty := v.latest_none after
        rw [rows_concat_self] at empty
        exact absurd empty (List.append_ne_nil_of_right_ne_nil _ (List.cons_ne_nil e []))
    | some top =>
        obtain ⟨member, mine⟩ := v.latest_mem after
        rcases List.mem_append.mp member with old | new
        · left
          cases before : v.latest (v.account e) es with
          | none =>
              have there := v.mem_rows.mpr ⟨old, mine⟩
              rw [v.latest_none before] at there
              exact absurd there List.not_mem_nil
          | some last =>
              obtain ⟨member', mine'⟩ := v.latest_mem before
              have first := v.latest_first (fun rest perm =>
                (List.nodup_cons.mp (perm.nodup_iff.mp (nodup.filter _))).1) after
              have first' := v.latest_first (fun rest perm =>
                (List.nodup_cons.mp (perm.nodup_iff.mp
                  ((List.nodup_append.mp nodup).1.filter _))).1) before
              rw [rows_concat_self] at first
              have one := v.eq_of_first (v.mem_rows.mpr ⟨old, mine⟩)
                (v.mem_rows.mpr ⟨member', mine'⟩) (List.pairwise_append.mp first).1 first'
                (le_antisymm (v.le_latest before old mine)
                  (v.le_latest after (List.mem_append_left _ member') mine'))
              rw [one]
        · rw [List.mem_singleton.mp new]
          exact .inr ⟨rfl, rfl⟩
  · left
    exact v.latest_concat_other same es

/-- In an ordered journal the latest row of an account is the one that was written last. -/
theorem latest_of_ordered {es : List E} (h : v.Ordered es) (k : κ) :
    v.latest k es = (v.rows k es).getLast? := by
  induction es using List.reverseRecOn with
  | nil => rw [latest_nil, rows, List.filter_nil, List.getLast?_nil]
  | append_singleton es e ih =>
      obtain ⟨earlier, -, last⟩ := List.pairwise_append.mp h
      by_cases same : v.account e = k
      · subst same
        have newer : v.Newer es e := fun a member =>
          last a member e (List.mem_singleton_self e)
        rw [v.latest_concat_self newer, rows_concat_self, List.getLast?_concat]
      · rw [v.latest_concat_other same, v.rows_concat_other same]
        exact ih earlier

/-- In an ordered journal the newest row of an account is the last, and so on. -/
theorem newestFirst_of_ordered {es : List E} (h : v.Ordered es) (k : κ) :
    v.newestFirst (v.rows k es) = (v.rows k es).reverse := by
  have strict : (v.rows k es).Pairwise (fun a b => v.stamp a < v.stamp b) := by
    apply List.pairwise_filter.mpr
    apply h.imp
    intro a b older mine mine'
    exact older ((of_decide_eq_true mine).trans (of_decide_eq_true mine').symm)
  have apart : (v.rows k es).Pairwise (fun a b => v.stamp a ≠ v.stamp b) :=
    strict.imp fun older => ne_of_lt older
  apply List.Perm.eq_of_pairwise _ (v.newestFirst_sorted _)
    (List.pairwise_reverse.mpr (strict.imp le_of_lt))
    ((v.newestFirst_perm _).trans (List.reverse_perm _).symm)
  intro a b ha hb le le'
  by_contra distinct
  have symmetric : Std.Symm (fun a b => v.stamp a ≠ v.stamp b) := ⟨fun _ _ => Ne.symm⟩
  exact apart.forall ((v.newestFirst_perm _).mem_iff.mp ha) (List.mem_reverse.mp hb) distinct
    (le_antisymm le' le)

end Order

section Kept
variable [AddCommGroup G] [LinearOrder τ] [DecidableEq κ]

structure Kept (es : List E) : Prop where
  running : v.Running es
  ordered : v.Ordered es

theorem Kept.nil : v.Kept [] where
  running := by
    intro pre e post h
    exact absurd h.symm (List.append_ne_nil_of_right_ne_nil pre (List.cons_ne_nil e post))
  ordered := List.Pairwise.nil

variable {v}

theorem Kept.init {es : List E} {e : E} (h : v.Kept (es ++ [e])) : v.Kept es where
  running := by
    intro pre a post split
    exact h.running pre a (post ++ [e]) (by rw [split, List.append_assoc, List.cons_append])
  ordered := (List.pairwise_append.mp h.ordered).1

/-- The current balance is the total of all rows of the account. -/
theorem Kept.carried_latest {es : List E} (h : v.Kept es) (k : κ) :
    v.carried (v.latest k es) = v.total k es := by
  induction es using List.reverseRecOn with
  | nil =>
      rw [latest_nil]
      rfl
  | append_singleton es e ih =>
      by_cases same : v.account e = k
      · subst same
        have newer : v.Newer es e := fun a ha =>
          (List.pairwise_append.mp h.ordered).2.2 a ha e (List.mem_singleton_self e)
        rw [v.latest_concat_self newer, carried_some]
        exact h.running es e [] rfl
      · rw [v.latest_concat_other same, v.total_concat_other same]
        exact ih h.init

/-- Newest first, every row carries the balance of the row below it moved by its own amount. -/
theorem Kept.carried_older {es : List E} (h : v.Kept es) (k : κ) :
    ∀ newer e older, v.newestFirst (v.rows k es) = newer ++ e :: older →
      v.balance e = v.carried older.head? + v.delta e := by
  rw [v.newestFirst_of_ordered h.ordered]
  induction es using List.reverseRecOn with
  | nil =>
      intro newer e older split
      exact absurd split.symm (List.append_ne_nil_of_right_ne_nil newer (List.cons_ne_nil e older))
  | append_singleton es last ih =>
      intro newer e older split
      by_cases mine : v.account last = k
      · subst mine
        rw [v.rows_concat_self, List.reverse_append, List.reverse_singleton,
          List.singleton_append] at split
        cases newer with
        | nil =>
            obtain ⟨rfl, rfl⟩ := List.cons.inj split
            rw [List.head?_reverse, ← v.latest_of_ordered h.init.ordered, h.init.carried_latest,
              ← v.total_concat_self]
            exact h.running es last [] rfl
        | cons first newer =>
            obtain ⟨-, split⟩ := List.cons.inj split
            exact ih h.init newer e older split
      · rw [v.rows_concat_other mine] at split
        exact ih h.init newer e older split

/-- A row keeps the journal when it is the newest of its account and carries the
account's current balance moved by its own amount. -/
theorem Kept.concat {es : List E} {e : E} (h : v.Kept es) (newer : v.Newer es e)
    (moved : v.balance e = v.carried (v.latest (v.account e) es) + v.delta e) :
    v.Kept (es ++ [e]) where
  running := by
    intro pre a post split
    rcases List.eq_nil_or_concat post with rfl | ⟨post, last, rfl⟩
    · obtain ⟨rfl, tail⟩ := List.append_inj' split rfl
      obtain rfl : e = a := List.head_eq_of_cons_eq tail
      rw [moved, h.carried_latest, total_concat_self]
    · rw [List.concat_eq_append, ← List.cons_append, ← List.append_assoc] at split
      obtain ⟨split, _⟩ := List.append_inj' split rfl
      exact h.running pre a post split
  ordered := by
    refine List.pairwise_append.mpr ⟨h.ordered, List.pairwise_singleton _ _, ?_⟩
    intro a ha b hb
    obtain rfl := List.mem_singleton.mp hb
    exact newer a ha

end Kept
end View
end Lib.Journal
