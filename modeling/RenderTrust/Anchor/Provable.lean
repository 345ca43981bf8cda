import RenderTrust.Anchor.Bundler
import RenderTrust.Anchor.Endpoints

/-!
# Anchored entries and their proofs

The bundler hashes a batch in the order it was fetched in, the proof endpoint in the
order of the ids.
-/
namespace RenderTrust.Anchor
open Lib.ByteString Lib.HashTree Lib.Keyed Lib.Runs Lib.Sha256

/-! ## Batches under the operations of the repository -/

namespace AnchorDb

theorem link_id (recordId : UUID) (entryIds : List ℤ) (e : CreditLedgerEntry) :
    (link recordId entryIds e).id = e.id := by
  unfold link
  split <;> rfl

theorem ids_saveAnchor (db : AnchorDb) (record : AnchorRecord) (entryIds : List ℤ) :
    (db.saveAnchor record entryIds).entries.map CreditLedgerEntry.id =
      db.entries.map CreditLedgerEntry.id :=
  map_key (link_id record.id entryIds) db.entries

theorem link_hashInput (recordId : UUID) (entryIds : List ℤ) (e : CreditLedgerEntry) :
    (link recordId entryIds e).hashInput = e.hashInput := by
  unfold link
  split <;> rfl

theorem leaves_map_link (recordId : UUID) (entryIds : List ℤ) (entries : List CreditLedgerEntry) :
    leaves (entries.map (link recordId entryIds)) = leaves entries := by
  unfold leaves
  rw [List.map_map]
  apply List.map_congr_left
  intro e _
  exact link_hashInput recordId entryIds e

variable {db : AnchorDb}

theorem batchEntries_add {e : CreditLedgerEntry} (unanchored : e.anchorId = none)
    (anchorId : UUID) : (db.add e).batchEntries anchorId = db.batchEntries anchorId := by
  have outside : ¬ e.anchorId = some anchorId := by
    rw [unanchored]
    exact Option.some_ne_none anchorId ∘ Eq.symm
  unfold batchEntries add
  rw [List.filter_append, List.filter_singleton, decide_eq_false outside, Bool.cond_false,
    List.append_nil]

/-- The rows that a saved batch consists of are unanchored ones. -/
def Unanchored (db : AnchorDb) (entryIds : List ℤ) : Prop :=
  ∀ e ∈ db.entries, e.id ∈ entryIds → e.anchorId = none

theorem unanchored_fetched {fetched : List CreditLedgerEntry}
    (distinct : DistinctKeys CreditLedgerEntry.id db.entries)
    (free : ∀ e ∈ fetched, e ∈ db.entries ∧ e.anchorId = none) :
    db.Unanchored (fetched.map CreditLedgerEntry.id) := by
  intro e inside picked
  obtain ⟨f, hf, same⟩ := List.mem_map.mp picked
  rw [← List.inj_on_of_nodup_map distinct (free f hf).1 inside same]
  exact (free f hf).2

/-- The rows of a batch after a save, from the rows of the table before it. -/
theorem filter_link {recordId anchorId : UUID} {entryIds : List ℤ} {p : CreditLedgerEntry → Prop}
    [DecidablePred p]
    (agree : ∀ e ∈ db.entries, (link recordId entryIds e).anchorId = some anchorId ↔ p e) :
    (db.entries.map (link recordId entryIds)).filter (fun e => e.anchorId = some anchorId) =
      (db.entries.filter (fun e => p e)).map (link recordId entryIds) := by
  rw [List.filter_map]
  apply congrArg
  apply List.filter_congr
  intro e member
  exact decide_eq_decide.mpr (agree e member)

theorem link_anchorId_of_ne {recordId anchorId : UUID} {entryIds : List ℤ}
    (free : db.Unanchored entryIds) (other : anchorId ≠ recordId) :
    ∀ e ∈ db.entries,
      (link recordId entryIds e).anchorId = some anchorId ↔ e.anchorId = some anchorId := by
  intro e member
  unfold link
  split
  · rename_i picked
    rw [free e member picked]
    constructor
    · intro equal
      exact absurd (Option.some.inj equal).symm other
    · intro equal
      cases equal
  · exact Iff.rfl

theorem link_anchorId_self {recordId : UUID} {entryIds : List ℤ} (links : db.Linked)
    (fresh : recordId ∉ db.anchors.map AnchorRecord.id) :
    ∀ e ∈ db.entries,
      (link recordId entryIds e).anchorId = some recordId ↔ e.id ∈ entryIds := by
  intro e member
  unfold link
  split
  · rename_i picked
    exact iff_of_true rfl picked
  · rename_i unpicked
    refine iff_of_false ?_ unpicked
    intro before
    obtain ⟨old, found, same⟩ := links e member recordId before
    exact fresh (List.mem_map.mpr ⟨old, found, same⟩)

theorem leaves_batchEntries_saveAnchor {record : AnchorRecord} {entryIds : List ℤ} {anchorId : UUID}
    {p : CreditLedgerEntry → Prop} [DecidablePred p]
    (agree : ∀ e ∈ db.entries, (link record.id entryIds e).anchorId = some anchorId ↔ p e) :
    leaves ((db.saveAnchor record entryIds).batchEntries anchorId) =
      leaves (orderBy CreditLedgerEntry.id (db.entries.filter (fun e => p e))) := by
  unfold batchEntries saveAnchor
  rw [filter_link agree, orderBy_map (link_id _ _), leaves_map_link]

theorem leaves_batchEntries_of_ne {record : AnchorRecord} {entryIds : List ℤ}
    (free : db.Unanchored entryIds) {anchorId : UUID} (other : anchorId ≠ record.id) :
    leaves ((db.saveAnchor record entryIds).batchEntries anchorId) =
      leaves (db.batchEntries anchorId) :=
  leaves_batchEntries_saveAnchor (link_anchorId_of_ne free other)

theorem leaves_batchEntries_saved {record : AnchorRecord} {fetched : List CreditLedgerEntry}
    (distinct : DistinctKeys CreditLedgerEntry.id db.entries) (links : db.Linked)
    (fresh : record.id ∉ db.anchors.map AnchorRecord.id) (subset : ∀ e ∈ fetched, e ∈ db.entries)
    (ordered : fetched.Pairwise (fun a b => a.id < b.id)) :
    leaves ((db.saveAnchor record (fetched.map CreditLedgerEntry.id)).batchEntries record.id) =
      leaves fetched := by
  rw [leaves_batchEntries_saveAnchor (link_anchorId_self links fresh),
    orderBy_picked distinct subset ordered]

end AnchorDb

/-! ## What the proof endpoint answers -/

/-- The proof leads from the hash of the entry to the root it comes with. -/
def MerkleProofResponse.Folds (H : Bytes → Bytes) (response : MerkleProofResponse)
    (entry : CreditLedgerEntry) : Prop :=
  ∃ proofHashes directions root, response.proofHashes = proofHashes.map hex ∧
    response.directions = directions.map Direction.value ∧ response.merkleRoot = hex root ∧
    MerkleTree.fold H (MerkleTree.hashLeaf H entry.hashInput) proofHashes directions = .ok root

theorem Direction.value_injective : Function.Injective Direction.value := by
  intro a b same
  cases a <;> cases b <;> first | rfl | exact absurd same (by decide)

/-- There is only one root that a proof leads to. -/
theorem MerkleProofResponse.Folds.merkleRoot_eq {H : Bytes → Bytes} {response : MerkleProofResponse}
    {entry : CreditLedgerEntry} (h : response.Folds H entry) {proofHashes : List Bytes}
    {directions : List Direction} {root : Bytes}
    (hashes_eq : response.proofHashes = proofHashes.map hex)
    (directions_eq : response.directions = directions.map Direction.value)
    (fold_eq : MerkleTree.fold H (MerkleTree.hashLeaf H entry.hashInput) proofHashes directions =
      .ok root) : response.merkleRoot = hex root := by
  obtain ⟨hashes', directions', root', sameHashes, sameDirections, sameRoot, arrives⟩ := h
  rw [hashes_eq] at sameHashes
  rw [directions_eq] at sameDirections
  obtain rfl := List.map_injective_iff.mpr (fun _ _ => hex_inj) sameHashes
  obtain rfl := List.map_injective_iff.mpr Direction.value_injective sameDirections
  rw [fold_eq] at arrives
  rw [sameRoot, Except.ok.inj arrives]

section Runs
variable {σ φ ψ : Type} {H : Bytes → Bytes} {client : ChainClient σ φ} {outside : ψ → σ → σ}
  {batchSize : ℕ}

/-- The tables, and that each record's root is the one the endpoint rebuilds. -/
structure Rebuilds (H : Bytes → Bytes) (db : AnchorDb) : Prop where
  entryIds : DistinctKeys CreditLedgerEntry.id db.entries
  recordIds : DistinctKeys AnchorRecord.id db.anchors
  links : db.Linked
  roots : ∀ record ∈ db.anchors, ∃ tree,
    MerkleTree.new (leaves (db.batchEntries record.id)) = .ok tree ∧
      record.merkleRoot = tree.rootHex H

theorem AnchorDb.mem_batchEntries {db : AnchorDb} {e : CreditLedgerEntry} {anchorId : UUID} :
    e ∈ db.batchEntries anchorId ↔ e ∈ db.entries ∧ e.anchorId = some anchorId := by
  rw [batchEntries, (orderBy_perm _).mem_iff, List.mem_filter, decide_eq_true_eq]

theorem AnchoringService.getProof_of_mem {entry : CreditLedgerEntry}
    {allEntries : List CreditLedgerEntry} (unique : DistinctKeys CreditLedgerEntry.id allEntries)
    (member : entry ∈ allEntries) {tree : MerkleTree}
    (built : MerkleTree.new (leaves allEntries) = .ok tree) :
    ∃ i, tree.leaves[i]? = some entry.hashInput ∧
      getProof H entry allEntries = .ok (MerkleTree.proofAt H tree i entry.hashInput) := by
  cases located : allEntries.findIdx? (fun e => e.id = entry.id) with
  | none =>
      have absent := List.findIdx?_eq_none_iff.mp located entry member
      exact absurd (decide_eq_true rfl) (ne_true_of_eq_false absent)
  | some i =>
      obtain ⟨inside, same, _⟩ := List.findIdx?_eq_some_iff_getElem.mp located
      have found : allEntries[i] = entry :=
        List.inj_on_of_nodup_map unique (List.getElem_mem inside) member (of_decide_eq_true same)
      have leaf : tree.leaves[i]? = some entry.hashInput := by
        rw [new_eq_ok built, leaves, List.getElem?_map, List.getElem?_eq_getElem inside, found]
        rfl
      refine ⟨i, leaf, ?_⟩
      rw [getProof, located, built]
      exact MerkleTree.getProof_natCast tree leaf

theorem Rebuilds.getEntryProof {db : AnchorDb} (h : Rebuilds H db) {entry : CreditLedgerEntry}
    (member : entry ∈ db.entries) (anchored : entry.anchorId ≠ none) :
    ∃ response, Anchor.getEntryProof H db entry.id = .ok response ∧ response.Folds H entry := by
  obtain ⟨anchorId, linked⟩ := Option.ne_none_iff_exists'.mp anchored
  obtain ⟨anchor, recorded, rfl⟩ := h.links entry member anchorId linked
  obtain ⟨tree, built, root⟩ := h.roots anchor recorded
  have found : db.Found entry.id entry anchor :=
    ⟨h.entryIds.find? member, linked, h.recordIds.find? recorded⟩
  obtain ⟨i, leaf, proof⟩ := AnchoringService.getProof_of_mem (H := H)
    (h.entryIds.filter _).orderBy (AnchorDb.mem_batchEntries.mpr ⟨member, linked⟩) built
  have answered : Anchor.getEntryProof H db entry.id = .ok
      { entryId := entry.id, merkleRoot := anchor.merkleRoot,
        proofHashes := (MerkleTree.proofAt H tree i entry.hashInput).proofHashes.map hex,
        directions := (MerkleTree.proofAt H tree i entry.hashInput).directions.map Direction.value,
        anchorTxHash := anchor.txHash, blockNumber := anchor.blockNumber } := by
    unfold Anchor.getEntryProof
    rw [AnchorDb.fetchAnchored_eq_ok.mpr found]
    simp only [bind, Except.bind, AnchorDb.batchEntries, proof]
    rfl
  exact ⟨_, answered, _, _, tree.root H, rfl, rfl, root, MerkleTree.fold_proofAt tree leaf⟩

/-! ## Runs -/

theorem Rebuilds.add {db : AnchorDb} (h : Rebuilds H db) {e : CreditLedgerEntry}
    (unanchored : e.anchorId = none) (fresh : e.id ∉ db.entries.map CreditLedgerEntry.id) :
    Rebuilds H (db.add e) where
  entryIds := h.entryIds.append_singleton fresh
  recordIds := h.recordIds
  links := h.links.add unanchored
  roots := by
    intro record member
    rw [AnchorDb.batchEntries_add unanchored]
    exact h.roots record member

theorem Rebuilds.saveAnchor {db : AnchorDb} (h : Rebuilds H db) {record : AnchorRecord}
    {fetched : List CreditLedgerEntry} {tree : MerkleTree}
    (built : MerkleTree.new (leaves fetched) = .ok tree) (root : record.merkleRoot = tree.rootHex H)
    (fresh : record.id ∉ db.anchors.map AnchorRecord.id)
    (free : ∀ e ∈ fetched, e ∈ db.entries ∧ e.anchorId = none)
    (ordered : fetched.Pairwise (fun a b => a.id < b.id)) :
    Rebuilds H (db.saveAnchor record (fetched.map CreditLedgerEntry.id)) where
  entryIds := by
    rw [DistinctKeys, AnchorDb.ids_saveAnchor]
    exact h.entryIds
  recordIds := h.recordIds.append_singleton fresh
  links := h.links.saveAnchor _ _
  roots := by
    intro other member
    rcases List.mem_append.mp member with before | new
    · have distinct : other.id ≠ record.id := by
        intro same
        exact fresh (List.mem_map.mpr ⟨other, before, same⟩)
      rw [AnchorDb.leaves_batchEntries_of_ne (AnchorDb.unanchored_fetched h.entryIds free) distinct]
      exact h.roots other before
    · rw [List.mem_singleton.mp new, AnchorDb.leaves_batchEntries_saved h.entryIds h.links fresh
        (fun e he => (free e he).1) ordered]
      exact ⟨tree, built, root⟩

/-- What is saved was fetched in the order of the ids. -/
def Ordered (_ : World σ) : Event φ ψ → Prop
  | .cycle fetched _ _ true => fetched.Pairwise (fun a b => a.id < b.id)
  | _ => True

instance (w : World σ) : (event : Event φ ψ) → Decidable (Ordered w event)
  | .cycle _ _ _ true => inferInstanceAs (Decidable (List.Pairwise _ _))
  | .cycle _ _ _ false => inferInstanceAs (Decidable True)
  | .add _ => inferInstanceAs (Decidable True)
  | .outside _ => inferInstanceAs (Decidable True)

theorem Rebuilds.step {w w' : World σ} {event : Event φ ψ} (h : Rebuilds H w.db)
    (ordered : Ordered w event) (moved : Anchor.step H client outside batchSize w event = some w') :
    Rebuilds H w'.db := by
  obtain ⟨possible, rfl⟩ := step_eq_some moved
  cases event with
  | add e => exact h.add possible.1 possible.2
  | outside what => exact h
  | cycle fetched fate recordId saves =>
      obtain ⟨_, _, free, fresh⟩ := possible
      change Rebuilds H (runOnce H client fetched fate recordId saves w).2.db
      rcases runOnce_cases H client fetched fate recordId saves w with
        ⟨chain, result, _⟩ | ⟨rfl, tree, receipt, chain, anchored, result⟩
      · rw [result]
        exact h
      · rw [result]
        exact h.saveAnchor anchored.tree_eq rfl fresh free ordered

/-- Where every saved batch was fetched in the order of the ids, every anchored entry has
a proof. -/
theorem provable_of_run {chain : σ} {events : List (Event φ ψ)} {w : World σ}
    (run : Run (Anchor.step H client outside batchSize) Ordered ⟨chain, ⟨[], []⟩⟩ events w) :
    ∀ entry ∈ w.db.entries, entry.anchorId ≠ none →
      ∃ response, Anchor.getEntryProof H w.db entry.id = .ok response ∧
        response.Folds H entry := by
  have initial : Rebuilds H ⟨[], []⟩ :=
    ⟨List.nodup_nil, List.nodup_nil, fun _ member => absurd member List.not_mem_nil,
      fun _ member => absurd member List.not_mem_nil⟩
  have rebuilds : Rebuilds H w.db := Run.invariant (I := fun w => Rebuilds H w.db)
    (fun _ _ _ kept ordered moved => kept.step ordered moved) run initial
  intro entry member anchored
  exact rebuilds.getEntryProof member anchored

end Runs

theorem provable_of_ordered_fetch : ∃ w, Run noOpStep Ordered ⟨(), ⟨[], []⟩⟩
      (batchOf sampleBatch ()) w ∧ (∃ entry ∈ w.db.entries, entry.anchorId ≠ none) ∧
    ∀ entry ∈ w.db.entries, entry.anchorId ≠ none →
      ∃ response, getEntryProof sha256 w.db entry.id = .ok response ∧
        response.Folds sha256 entry := by
  have accepted : (exec noOpStep Ordered ⟨(), ⟨[], []⟩⟩ (batchOf sampleBatch ())).any
      (fun w => decide (∃ entry ∈ w.db.entries, entry.anchorId ≠ none)) := by
    decide +kernel
  obtain ⟨w, run, ended⟩ := run_of_any accepted
  exact ⟨w, run, of_decide_eq_true ended, provable_of_run run⟩

/-- Fetched the other way round, the batch has another root than the one rebuilt. -/
theorem reversed_fetch_unprovable : ¬ ∀ (events : List (Event Unit Empty)) (w : World Unit),
    Run noOpStep Always ⟨(), ⟨[], []⟩⟩ events w →
      ∀ entry ∈ w.db.entries, entry.anchorId ≠ none →
        ∃ response, getEntryProof sha256 w.db entry.id = .ok response ∧
          response.Folds sha256 entry := by
  intro claim
  have accepted : (exec noOpStep Always ⟨(), ⟨[], []⟩⟩
      (batchOf sampleBatch.reverse ())).any (fun w => decide (∃ entry ∈ w.db.entries,
        entry.id = 1 ∧ entry.anchorId ≠ none ∧
          entry.hashInput = "1:acct_a:12.00:2024-05-01T09:30:00+00:00" ∧
          ∃ response ∈ (getEntryProof sha256 w.db 1).toOption,
            response.proofHashes = batchProof.proofHashes.map hex ∧
            response.directions = batchProof.directions.map Direction.value ∧
            response.merkleRoot ≠ hex (batchTree.root sha256))) := by
    decide +kernel
  obtain ⟨w, run, ended⟩ := run_of_any accepted
  obtain ⟨entry, member, first, anchored, text, given, answered, hashes, directions, other⟩ :=
    of_decide_eq_true ended
  obtain ⟨response, same, folds⟩ := claim _ w run entry member anchored
  rw [first] at same
  rw [same] at answered
  obtain rfl := Option.some.inj answered
  apply other
  apply folds.merkleRoot_eq hashes directions
  rw [text]
  exact MerkleTree.fold_proofAt batchTree batchTree_first

end RenderTrust.Anchor
