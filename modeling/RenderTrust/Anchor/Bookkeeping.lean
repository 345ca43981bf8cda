import RenderTrust.Anchor.Provable

/-!
# What the tables say of the batches

Every record of `anchor_records` against the entries that are linked to it, in runs with
failures of the chain and of the repository at any cycle.
-/
namespace RenderTrust.Anchor
open Lib.ByteString Lib.HashTree Lib.Keyed Lib.Runs Lib.Sha256

/-- The row of an entry whose batch was saved. -/
def CreditLedgerEntry.linked (recordId : UUID) (e : CreditLedgerEntry) : CreditLedgerEntry :=
  { e with anchorId := some recordId }

namespace AnchorDb

def linkedTo (db : AnchorDb) (recordId : UUID) : List CreditLedgerEntry :=
  db.entries.filter fun e => e.anchorId = some recordId

variable {db : AnchorDb}

theorem linkedTo_add {e : CreditLedgerEntry} (unanchored : e.anchorId = none) (recordId : UUID) :
    (db.add e).linkedTo recordId = db.linkedTo recordId := by
  unfold linkedTo add
  simp only [List.filter_append, List.filter_singleton, unanchored, reduceCtorEq, decide_false,
    Bool.cond_false, List.append_nil]

/-- A row that was linked before is not in the batch, and stays as it is. -/
theorem link_of_linked {recordId : UUID} {entryIds : List ℤ} (free : db.Unanchored entryIds)
    {e : CreditLedgerEntry} (member : e ∈ db.entries) (anchored : e.anchorId ≠ none) :
    link recordId entryIds e = e := by
  unfold link
  apply if_neg
  intro picked
  exact anchored (free e member picked)

theorem linkedTo_saveAnchor_of_ne {record : AnchorRecord} {entryIds : List ℤ}
    (free : db.Unanchored entryIds) {recordId : UUID} (other : recordId ≠ record.id) :
    (db.saveAnchor record entryIds).linkedTo recordId = db.linkedTo recordId := by
  unfold linkedTo saveAnchor
  rw [filter_link (link_anchorId_of_ne free other)]
  have kept : ∀ e ∈ db.entries.filter (fun e => e.anchorId = some recordId),
      link record.id entryIds e = id e := by
    intro e member
    obtain ⟨inside, linked⟩ := List.mem_filter.mp member
    apply link_of_linked free inside
    rw [of_decide_eq_true linked]
    simp
  rw [List.map_congr_left kept, List.map_id]

/-- The rows linked to a new record are those that were fetched. -/
theorem linkedTo_saveAnchor {record : AnchorRecord} {fetched : List CreditLedgerEntry}
    (distinct : DistinctKeys CreditLedgerEntry.id db.entries) (links : db.Linked)
    (fresh : record.id ∉ db.anchors.map AnchorRecord.id) (subset : ∀ e ∈ fetched, e ∈ db.entries)
    (once : (fetched.map CreditLedgerEntry.id).Nodup) :
    (fetched.map (CreditLedgerEntry.linked record.id)).Perm
      ((db.saveAnchor record (fetched.map CreditLedgerEntry.id)).linkedTo record.id) := by
  have picked := distinct.picked_perm subset (once.of_map _)
  have rows : (fetched.map (CreditLedgerEntry.linked record.id)) =
      fetched.map (link record.id (fetched.map CreditLedgerEntry.id)) := by
    apply List.map_congr_left
    intro e member
    exact (if_pos (List.mem_map_of_mem member)).symm
  unfold linkedTo saveAnchor
  rw [filter_link (link_anchorId_self links fresh), rows]
  exact (picked.map _).symm

end AnchorDb

section Runs
variable {σ φ ψ : Type} (H : Bytes → Bytes) (batchSize : ℕ)

/-- A record against the rows that are linked to it, in the order they were fetched in. -/
structure Accounts (db : AnchorDb) (record : AnchorRecord) (fetched : List CreditLedgerEntry) :
    Prop where
  rows : (fetched.map (CreditLedgerEntry.linked record.id)).Perm (db.linkedTo record.id)
  count : record.entryCount = (db.linkedTo record.id).length
  positive : 1 ≤ record.entryCount
  bounded : record.entryCount ≤ batchSize
  root : ∃ root, AnchoringService.createMerkleRoot H
      (fetched.map (CreditLedgerEntry.linked record.id)) = .ok root ∧ record.merkleRoot = hex root

/-- Every record has its accounts, with what a cycle fetched. -/
structure Books (fetches : UUID → List CreditLedgerEntry → Prop) (db : AnchorDb) : Prop where
  entryIds : DistinctKeys CreditLedgerEntry.id db.entries
  recordIds : DistinctKeys AnchorRecord.id db.anchors
  links : db.Linked
  accounts : ∀ record ∈ db.anchors, ∃ fetched, fetches record.id fetched ∧
    Accounts H batchSize db record fetched

variable {H batchSize} {fetches : UUID → List CreditLedgerEntry → Prop}

theorem Accounts.of_same {db db' : AnchorDb} {record : AnchorRecord}
    {fetched : List CreditLedgerEntry} (h : Accounts H batchSize db record fetched)
    (same : db'.linkedTo record.id = db.linkedTo record.id) :
    Accounts H batchSize db' record fetched where
  rows := same ▸ h.rows
  count := same ▸ h.count
  positive := h.positive
  bounded := h.bounded
  root := h.root

theorem Books.initial : Books H batchSize fetches ⟨[], []⟩ where
  entryIds := List.nodup_nil
  recordIds := List.nodup_nil
  links := fun _ member => absurd member List.not_mem_nil
  accounts := fun _ member => absurd member List.not_mem_nil

theorem Books.add {db : AnchorDb} (h : Books H batchSize fetches db) {e : CreditLedgerEntry}
    (unanchored : e.anchorId = none) (fresh : e.id ∉ db.entries.map CreditLedgerEntry.id) :
    Books H batchSize fetches (db.add e) where
  entryIds := h.entryIds.append_singleton fresh
  recordIds := h.recordIds
  links := h.links.add unanchored
  accounts := by
    intro record member
    obtain ⟨fetched, found, accounts⟩ := h.accounts record member
    exact ⟨fetched, found, accounts.of_same (AnchorDb.linkedTo_add unanchored record.id)⟩

theorem Books.saveAnchor {db : AnchorDb} (h : Books H batchSize fetches db) {record : AnchorRecord}
    {fetched : List CreditLedgerEntry} {tree : MerkleTree}
    (built : MerkleTree.new (leaves fetched) = .ok tree) (root : record.merkleRoot = tree.rootHex H)
    (fresh : record.id ∉ db.anchors.map AnchorRecord.id)
    (free : ∀ e ∈ fetched, e ∈ db.entries ∧ e.anchorId = none)
    (once : (fetched.map CreditLedgerEntry.id).Nodup) (count : record.entryCount = fetched.length)
    (bounded : fetched.length ≤ batchSize) (asked : fetches record.id fetched) :
    Books H batchSize fetches (db.saveAnchor record (fetched.map CreditLedgerEntry.id)) where
  entryIds := by
    rw [DistinctKeys, AnchorDb.ids_saveAnchor]
    exact h.entryIds
  recordIds := h.recordIds.append_singleton fresh
  links := h.links.saveAnchor _ _
  accounts := by
    intro other member
    rcases List.mem_append.mp member with before | new
    · have distinct : other.id ≠ record.id := by
        intro same
        exact fresh (List.mem_map.mpr ⟨other, before, same⟩)
      obtain ⟨batch, found, accounts⟩ := h.accounts other before
      have unanchored := AnchorDb.unanchored_fetched h.entryIds free
      exact ⟨batch, found,
        accounts.of_same (AnchorDb.linkedTo_saveAnchor_of_ne unanchored distinct)⟩
    · obtain rfl := List.mem_singleton.mp new
      have rows := AnchorDb.linkedTo_saveAnchor h.entryIds h.links fresh
        (fun e he => (free e he).1) once
      have size := rows.length_eq
      rw [List.length_map] at size
      have some : fetched ≠ [] := by
        rintro rfl
        cases built
      have texts : leaves (fetched.map (CreditLedgerEntry.linked other.id)) = leaves fetched := by
        unfold leaves
        rw [List.map_map]
        rfl
      refine ⟨fetched, asked, rows, count.trans size, ?_, count.trans_le bounded, tree.root H, ?_,
        root⟩
      · rw [count]
        exact List.length_pos_iff.mpr some
      · apply createMerkleRoot_of_new
        rw [texts]
        exact built

theorem Books.mono {fetches' : UUID → List CreditLedgerEntry → Prop}
    (weaker : ∀ recordId fetched, fetches recordId fetched → fetches' recordId fetched)
    {db : AnchorDb} (h : Books H batchSize fetches db) : Books H batchSize fetches' db where
  entryIds := h.entryIds
  recordIds := h.recordIds
  links := h.links
  accounts := by
    intro record member
    obtain ⟨fetched, found, accounts⟩ := h.accounts record member
    exact ⟨fetched, weaker _ _ found, accounts⟩

variable {client : ChainClient σ φ} {outside : ψ → σ → σ}

theorem Books.step {w w' : World σ} {event : Event φ ψ} (h : Books H batchSize fetches w.db)
    (asked : ∀ fetched fate recordId, event = .cycle fetched fate recordId true →
      fetches recordId fetched)
    (moved : Anchor.step H client outside batchSize w event = some w') :
    Books H batchSize fetches w'.db := by
  obtain ⟨possible, rfl⟩ := step_eq_some moved
  cases event with
  | add e => exact h.add possible.1 possible.2
  | outside what => exact h
  | cycle fetched fate recordId saves =>
      obtain ⟨bounded, once, free, fresh⟩ := possible
      change Books H batchSize fetches (runOnce H client fetched fate recordId saves w).2.db
      rcases runOnce_cases H client fetched fate recordId saves w with
        ⟨chain, result, _⟩ | ⟨rfl, tree, receipt, chain, anchored, result⟩
      · rw [result]
        exact h
      · rw [result]
        exact h.saveAnchor anchored.tree_eq rfl fresh free once rfl bounded
          (asked fetched fate recordId rfl)

/-- A linked row stays as it is. -/
theorem Books.linked_step {w w' : World σ} {event : Event φ ψ} (h : Books H batchSize fetches w.db)
    (moved : Anchor.step H client outside batchSize w event = some w') {e : CreditLedgerEntry}
    (member : e ∈ w.db.entries) (anchored : e.anchorId ≠ none) : e ∈ w'.db.entries := by
  obtain ⟨possible, rfl⟩ := step_eq_some moved
  cases event with
  | add new => exact List.mem_append_left _ member
  | outside what => exact member
  | cycle fetched fate recordId saves =>
      obtain ⟨_, _, free, _⟩ := possible
      change e ∈ (runOnce H client fetched fate recordId saves w).2.db.entries
      rcases runOnce_cases H client fetched fate recordId saves w with
        ⟨chain, result, _⟩ | ⟨rfl, tree, receipt, chain, sent, result⟩
      · rw [result]
        exact member
      · rw [result]
        apply List.mem_map.mpr
        refine ⟨e, member, ?_⟩
        exact AnchorDb.link_of_linked (AnchorDb.unanchored_fetched h.entryIds free) member anchored

theorem runOnce_error {fetched : List CreditLedgerEntry} {fate : φ} {recordId : UUID} {saves : Bool}
    {w : World σ} {error : AnchorError}
    (failed : (runOnce H client fetched fate recordId saves w).1 = .error error) :
    (runOnce H client fetched fate recordId saves w).2.db = w.db := by
  rcases runOnce_cases H client fetched fate recordId saves w with
    ⟨chain, result, _⟩ | ⟨_, tree, receipt, chain, _, result⟩
  · rw [result]
  · rw [result] at failed
    cases failed

/-- The bookkeeping of the tables at `w`, reached by these events, and from there at `w'`. -/
structure Bookkept (H : Bytes → Bytes) (client : ChainClient σ φ) (batchSize : ℕ)
    (events : List (Event φ ψ)) (w w' : World σ) : Prop where
  single : ∀ e ∈ w.db.entries, ∀ recordId, e.anchorId = some recordId →
    ∃ record ∈ w.db.anchors, record.id = recordId ∧
      ∀ other ∈ w.db.anchors, e.anchorId = some other.id → other = record
  final : ∀ e ∈ w.db.entries, e.anchorId ≠ none →
    e ∈ w'.db.entries ∧ ∀ row ∈ w'.db.entries, row.id = e.id → row = e
  accounts : ∀ record ∈ w.db.anchors, ∃ fetched fate,
    .cycle fetched fate record.id true ∈ events ∧ Accounts H batchSize w.db record fetched
  failed : ∀ fetched fate recordId saves error,
    (runOnce H client fetched fate recordId saves w).1 = .error error →
      (runOnce H client fetched fate recordId saves w).2.db = w.db

/-- Whatever fails, and wherever. -/
theorem bookkept_of_run {chain : σ} {events later : List (Event φ ψ)} {w w' : World σ}
    (run : Run (Anchor.step H client outside batchSize) Always ⟨chain, ⟨[], []⟩⟩ events w)
    (goesOn : Run (Anchor.step H client outside batchSize) Always w later w') :
    Bookkept H client batchSize events w w' := by
  have books : Books H batchSize
      (fun recordId fetched => ∃ fate, .cycle fetched fate recordId true ∈ events) w.db := by
    refine Run.invariant (I := fun w => Books H batchSize _ w.db) ?_ run.among .initial
    intro s event t kept among moved
    apply kept.step _ moved
    rintro fetched fate recordId rfl
    exact ⟨fate, among.2⟩
  have forgets : Books H batchSize (fun _ _ => True) w.db := books.mono fun _ _ _ => trivial
  constructor
  · intro e member recordId linked
    obtain ⟨record, recorded, same⟩ := books.links e member recordId linked
    refine ⟨record, recorded, same, ?_⟩
    intro other found linked'
    rw [linked] at linked'
    apply List.inj_on_of_nodup_map books.recordIds found recorded
    rw [same]
    exact (Option.some.inj linked').symm
  · intro e member anchored
    have kept : Books H batchSize (fun _ _ => True) w'.db ∧ e ∈ w'.db.entries := by
      refine Run.invariant
        (I := fun w => Books H batchSize (fun _ _ => True) w.db ∧ e ∈ w.db.entries) ?_ goesOn
        ⟨forgets, member⟩
      intro s event t both _ moved
      exact ⟨both.1.step (fun _ _ _ _ => trivial) moved, both.1.linked_step moved both.2 anchored⟩
    refine ⟨kept.2, ?_⟩
    intro row inside same
    exact List.inj_on_of_nodup_map kept.1.entryIds inside kept.2 same
  · intro record member
    obtain ⟨fetched, ⟨fate, asked⟩, accounts⟩ := books.accounts record member
    exact ⟨fetched, fate, asked, accounts⟩
  · intro fetched fate recordId saves error failed
    exact runOnce_error failed

end Runs

def thirdEntry : CreditLedgerEntry := ⟨3, none, "acct_a", "3.00", none⟩

/-- After the batch, an entry whose record is not saved. -/
def unsavedCycle : List (Event Unit Empty) :=
  [.add thirdEntry, .cycle [thirdEntry] () 8 false]

def oneBatch : List (Event Unit Empty) := batchOf sampleBatch ()

theorem bookkept_of_run_oneBatch : ∃ w w', Run noOpStep Always ⟨(), ⟨[], []⟩⟩ oneBatch w ∧
    Run noOpStep Always w unsavedCycle w' ∧ w.db.anchors ≠ [] ∧
      Bookkept sha256 (NoOpChainClient.client Unit) 100 oneBatch w w' := by
  have accepted : (exec noOpStep Always ⟨(), ⟨[], []⟩⟩ oneBatch).any
      (fun w => decide (w.db.anchors ≠ []) && (exec noOpStep Always w unsavedCycle).isSome) := by
    decide +kernel
  obtain ⟨w, run, ended⟩ := run_of_any accepted
  obtain ⟨recorded, goesOn⟩ := (Bool.and_eq_true _ _).mp ended
  obtain ⟨w', later⟩ := run_of_isSome goesOn
  exact ⟨w, w', run, later, of_decide_eq_true recorded, bookkept_of_run run later⟩

end RenderTrust.Anchor
