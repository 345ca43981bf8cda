import Mathlib.Data.List.Nodup
import RenderTrust.Lib.Runs
import RenderTrust.Lib.Schema

/-!
# Chains of migrations

A database has the revision of the migration that was last applied to it. A ladder is a chain of
migrations with the catalog of each revision; its runs go up and down while rows are written.
-/
namespace Lib.Migrations

open Lib.Schema Lib.Runs

structure Migration (V : Type*) where
  revision : String
  downRevision : Option String
  upgrade : List (Op V)
  downgrade : List (Op V)

structure Site (V : Type*) where
  current : Option String
  db : Database V

inductive Move (V : Type*) where
  | up (draws : Draws V)
  | down (draws : Draws V)
  | write (table : String) (rows : List (Row V))

section Moves
variable {V : Type*}

def Site.next (versions : List (Migration V)) (s : Site V) : Option (Migration V) :=
  versions.find? fun m => m.downRevision = s.current

def Site.last (versions : List (Migration V)) (s : Site V) : Option (Migration V) :=
  versions.find? fun m => some m.revision = s.current

/-- A migration that raises is `none`. Where there is none to apply, and where the rows are not of
the table, nothing happens. -/
def Site.move (versions : List (Migration V)) (s : Site V) : Move V → Option (Site V)
  | .up draws =>
      match s.next versions with
      | none => some s
      | some m => (execAll draws m.upgrade s.db).map fun db => ⟨some m.revision, db⟩
  | .down draws =>
      match s.last versions with
      | none => some s
      | some m => (execAll draws m.downgrade s.db).map fun db => ⟨m.downRevision, db⟩
  | .write table rows =>
      if Fits (s.db.catalog.table table) rows then
        some { s with db := { s.db with
          rows := fun name => if name = table then rows else s.db.rows name } }
      else some s

/-- Nothing goes below the revision, and nothing is written to the table. -/
def Spares (base : Option String) (table : String) (s : Site V) : Move V → Prop
  | .up _ => True
  | .down _ => s.current ≠ base
  | .write other _ => other ≠ table

instance (base : Option String) (table : String) (s : Site V) (m : Move V) :
    Decidable (Spares base table s m) :=
  match m with
  | .up _ => inferInstanceAs (Decidable True)
  | .down _ => inferInstanceAs (Decidable (s.current ≠ base))
  | .write other _ => inferInstanceAs (Decidable (other ≠ table))

def Site.fresh : Site V := ⟨none, ⟨.empty, fun _ => []⟩⟩

end Moves

def heads {V : Type*} (versions : List (Migration V)) : List (Option String) :=
  none :: versions.map fun m => some m.revision

structure Ladder (V : Type*) where
  versions : List (Migration V)
  catalog : ℕ → Catalog
  distinct : (heads versions).Nodup
  linked : versions.map Migration.downRevision = (heads versions).dropLast
  ground : catalog 0 = .empty
  raised : ∀ (n : ℕ) (h : n < versions.length),
    alterAll versions[n].upgrade (catalog n) = some (catalog (n + 1))
  lowered : ∀ (n : ℕ) (h : n < versions.length),
    alterAll versions[n].downgrade (catalog (n + 1)) = some (catalog n)
  drops : ∀ m ∈ versions, ∀ op ∈ m.downgrade, op.drops
  restores : ∀ (n : ℕ) (h : n < versions.length),
    Restores versions[n].upgrade versions[n].downgrade (catalog n) (catalog (n + 1))

namespace Ladder
variable {V : Type*} (L : Ladder V)

/-- The site is on the rung `n`. -/
structure At (n : ℕ) (s : Site V) : Prop where
  current : (heads L.versions)[n]? = some s.current
  catalog : s.db.catalog = L.catalog n
  stored : Stored s.db

theorem length_heads : (heads L.versions).length = L.versions.length + 1 := by
  unfold heads
  rw [List.length_cons, List.length_map]

variable {L} {n : ℕ} {s : Site V}

theorem At.bound (here : L.At n s) : n < (heads L.versions).length :=
  (List.getElem?_eq_some_iff.mp here.current).1

theorem head_succ (h : n < L.versions.length) :
    (heads L.versions)[n + 1]? = some (some L.versions[n].revision) := by
  rw [heads, List.getElem?_cons_succ, List.getElem?_map, List.getElem?_eq_getElem h,
    Option.map_some]

theorem downRevision_eq (h : n < L.versions.length) :
    (heads L.versions)[n]? = some L.versions[n].downRevision := by
  have linked := congrArg (fun revisions => revisions[n]?) L.linked
  simp only [List.getElem?_map, List.getElem?_dropLast] at linked
  rw [if_pos (by rw [L.length_heads]; exact h), List.getElem?_eq_getElem h] at linked
  exact linked.symm

/-- A revision has one rung. -/
theorem rung_unique {i j : ℕ} {revision : Option String}
    (first : (heads L.versions)[i]? = some revision)
    (second : (heads L.versions)[j]? = some revision) : i = j := by
  have bound := (List.getElem?_eq_some_iff.mp first).1
  exact (List.getElem?_inj bound L.distinct).mp (first.trans second.symm)

theorem next_eq (here : L.At n s) (h : n < L.versions.length) :
    s.next L.versions = some L.versions[n] := by
  unfold Site.next
  rw [List.find?_eq_some_iff_getElem]
  have this := Option.some.inj ((downRevision_eq h).symm.trans here.current)
  refine ⟨decide_eq_true this, n, h, rfl, ?_⟩
  intro j before
  rw [Bool.not_eq_true', decide_eq_false_iff_not]
  intro same
  have other := downRevision_eq (Nat.lt_trans before h)
  exact Nat.ne_of_lt before (rung_unique (same ▸ other) here.current)

theorem next_none (here : L.At n s) (top : n = L.versions.length) :
    s.next L.versions = none := by
  unfold Site.next
  rw [List.find?_eq_none]
  intro m member
  obtain ⟨j, h, rfl⟩ := List.mem_iff_getElem.mp member
  rw [decide_eq_true_iff]
  intro same
  have other := downRevision_eq h
  exact Nat.ne_of_lt (top ▸ h) (rung_unique (same ▸ other) here.current)

theorem last_eq (here : L.At (n + 1) s) (h : n < L.versions.length) :
    s.last L.versions = some L.versions[n] := by
  unfold Site.last
  rw [List.find?_eq_some_iff_getElem]
  have this := Option.some.inj ((head_succ h).symm.trans here.current)
  refine ⟨decide_eq_true this, n, h, rfl, ?_⟩
  intro j before
  rw [Bool.not_eq_true', decide_eq_false_iff_not]
  intro same
  have other := head_succ (Nat.lt_trans before h)
  exact Nat.ne_of_lt before (Nat.succ.inj (rung_unique (same ▸ other) here.current))

theorem last_none (here : L.At 0 s) : s.last L.versions = none := by
  unfold Site.last
  rw [List.find?_eq_none, ← Option.some.inj here.current]
  intro m member
  rw [decide_eq_true_iff]
  exact Option.some_ne_none _

theorem fresh_at : L.At 0 Site.fresh where
  current := rfl
  catalog := L.ground.symm
  stored := fun _ => Fits.nil _

/-- A move, by the rung it is made on. -/
theorem move_cases (here : L.At n s) (m : Move V) : ∃ n' s', s.move L.versions m = some s' ∧
    L.At n' s' ∧
    ((n' = n ∧ ∀ name, (∀ rows, m ≠ .write name rows) → s'.db.rows name = s.db.rows name) ∨
      (n' = n + 1 ∧ ∃ (h : n < L.versions.length) (draws : Draws V), ∀ name,
        s'.db.rows name =
          changeAll draws name L.versions[n].upgrade (L.catalog n) (s.db.rows name)) ∨
      (n = n' + 1 ∧ ∃ (h : n' < L.versions.length) (draws : Draws V), m = .down draws ∧ ∀ name,
        s'.db.rows name =
          changeAll draws name L.versions[n'].downgrade (L.catalog n) (s.db.rows name))) := by
  have bound := L.length_heads ▸ here.bound
  cases m with
  | up draws =>
      rcases Nat.lt_or_eq_of_le (Nat.lt_succ_iff.mp bound) with h | top
      · have ran := execAll_eq draws L.versions[n].upgrade s.db
        rw [here.catalog, L.raised n h, Option.map_some] at ran
        refine ⟨n + 1, ⟨some L.versions[n].revision, ⟨L.catalog (n + 1), fun name =>
            changeAll draws name L.versions[n].upgrade (L.catalog n) (s.db.rows name)⟩⟩, ?_, ?_,
          .inr (.inl ⟨rfl, h, draws, fun _ => rfl⟩)⟩
        · simp only [Site.move, next_eq here h, ran, Option.map_some]
        · exact ⟨head_succ h, rfl, here.stored.execAll draws ran⟩
      · refine ⟨n, s, ?_, here, .inl ⟨rfl, fun _ _ => rfl⟩⟩
        simp only [Site.move, next_none here top]
  | down draws =>
      cases n with
      | zero =>
          refine ⟨0, s, ?_, here, .inl ⟨rfl, fun _ _ => rfl⟩⟩
          simp only [Site.move, last_none here]
      | succ n =>
          have h : n < L.versions.length := by omega
          have ran := execAll_eq draws L.versions[n].downgrade s.db
          rw [here.catalog, L.lowered n h, Option.map_some] at ran
          refine ⟨n, ⟨L.versions[n].downRevision, ⟨L.catalog n, fun name =>
              changeAll draws name L.versions[n].downgrade (L.catalog (n + 1)) (s.db.rows name)⟩⟩,
            ?_, ?_,
            .inr (.inr ⟨rfl, h, draws, rfl, fun _ => rfl⟩)⟩
          · simp only [Site.move, last_eq here h, ran, Option.map_some]
          · exact ⟨downRevision_eq h, rfl, here.stored.execAll draws ran⟩
  | write table rows =>
      by_cases fits : Fits (s.db.catalog.table table) rows
      · refine ⟨n, _, if_pos fits, ⟨here.current, here.catalog, ?_⟩, .inl ⟨rfl, ?_⟩⟩
        · intro name
          by_cases same : name = table
          · subst same
            exact (congrArg (Fits _) (if_pos rfl)).mpr fits
          · exact (congrArg (Fits _) (if_neg same)).mpr (here.stored name)
        · intro name unwritten
          refine if_neg ?_
          rintro rfl
          exact unwritten rows rfl
      · exact ⟨n, s, if_neg fits, here, .inl ⟨rfl, fun _ _ => rfl⟩⟩

variable {s' : Site V}

/-- No migration raises. -/
theorem moves_at (moves : List (Move V)) (here : L.At n s) :
    ∃ n' s', L.At n' s' ∧ Run (Site.move L.versions) Always s moves s' := by
  induction moves generalizing n s with
  | nil => exact ⟨n, s, here, .nil s⟩
  | cons m moves ih =>
      obtain ⟨mid, s', moved, after, -⟩ := move_cases here m
      obtain ⟨n'', s'', there, ran⟩ := ih after
      exact ⟨n'', s'', there, .cons trivial moved ran⟩

theorem at_of_run {moves : List (Move V)} (here : L.At n s)
    (ran : Run (Site.move L.versions) Always s moves s') : ∃ n', L.At n' s' := by
  apply ran.invariant ?_ ⟨n, here⟩
  intro s m t reached _ moved
  obtain ⟨n, here⟩ := reached
  obtain ⟨n', t', again, there, -⟩ := move_cases here m
  obtain rfl := Option.some.inj (moved.symm.trans again)
  exact ⟨n', there⟩

variable (L) in
/-- The rows of a table on the rung `base`, when the `k` rungs above it are taken down. -/
def lower (draws : Draws V) (base : ℕ) (name : String) : ℕ → List (Row V) → List (Row V)
  | 0, rows => rows
  | k + 1, rows =>
      lower draws base name k (match L.versions[base + k]? with
        | none => rows
        | some m => changeAll draws name m.downgrade (L.catalog (base + k + 1)) rows)

theorem lower_succ (draws : Draws V) {base k : ℕ} (h : base + k < L.versions.length)
    (name : String) (rows : List (Row V)) : L.lower draws base name (k + 1) rows =
      L.lower draws base name k
        (changeAll draws name L.versions[base + k].downgrade (L.catalog (base + k + 1)) rows) := by
  rw [lower, List.getElem?_eq_getElem h]

/-- What a table has on the rung `base` is the same along a run that spares it. -/
def Kept (L : Ladder V) (draws : Draws V) (base : ℕ) (name : String) (rows : List (Row V))
    (s : Site V) : Prop :=
  ∃ k, L.At (base + k) s ∧ L.lower draws base name k (s.db.rows name) = rows

theorem kept_move {draws : Draws V} {base : ℕ} {revision : Option String}
    (ground : (heads L.versions)[base]? = some revision) {name : String} {rows : List (Row V)}
    (kept : Kept L draws base name rows s) {m : Move V}
    (spares : Spares revision name s m)
    (moved : s.move L.versions m = some s') : Kept L draws base name rows s' := by
  obtain ⟨k, here, same⟩ := kept
  obtain ⟨n', t, again, there, stays | ⟨rfl, h, draws', raised⟩ |
    ⟨below, h, draws', rfl, lowered⟩⟩ := move_cases here m
  all_goals obtain rfl := Option.some.inj (moved.symm.trans again)
  · obtain ⟨rfl, unchanged⟩ := stays
    refine ⟨k, there, ?_⟩
    rw [unchanged name, same]
    rintro rows rfl
    exact spares rfl
  · refine ⟨k + 1, there, ?_⟩
    have fits := here.stored name
    rw [here.catalog] at fits
    rw [lower_succ draws h, raised name, L.restores (base + k) h draws' draws name _ fits, same]
  · cases k with
    | zero =>
        exact absurd (Option.some.inj (here.current.symm.trans ground)) spares
    | succ k =>
        obtain rfl : n' = base + k := by omega
        refine ⟨k, there, ?_⟩
        rw [lower_succ draws h] at same
        rw [lowered name, changeAll_drops draws' (L.drops _ (List.getElem_mem h)) draws _
          (L.catalog (base + k + 1))]
        exact same

/-- A table that is spared is again as it was, back at the revision. -/
theorem restored (draws : Draws V) {moves : List (Move V)} {name : String} (here : L.At n s)
    (ran : Run (Site.move L.versions) (Spares s.current name) s moves s')
    (back : s'.current = s.current) :
    s'.db.catalog = s.db.catalog ∧ s'.db.rows name = s.db.rows name := by
  have kept : Kept L draws n name (s.db.rows name) s' := by
    apply ran.invariant ?_ ⟨0, here, rfl⟩
    intro s m t kept spares moved
    exact kept_move here.current kept spares moved
  obtain ⟨k, there, same⟩ := kept
  obtain rfl : k = 0 := by
    have again := rung_unique (back ▸ there.current) here.current
    omega
  exact ⟨there.catalog.trans here.catalog.symm, same⟩

end Ladder
end Lib.Migrations
