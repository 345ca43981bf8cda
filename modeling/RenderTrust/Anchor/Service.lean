import RenderTrust.Anchor.Chain

/-!
# `core/ledger/anchor/service.py` and `bundler_task.py`

The repository is a database and, for each cycle, what it fetches and whether it
saves. The identifier of a record is a Python default and an argument here.
-/
namespace RenderTrust.Anchor
open Lib.ByteString

inductive AnchorError where
  | python (error : PyError)
  | chain (error : ChainError)
  | repository
  deriving DecidableEq, Repr

def leaves (entries : List CreditLedgerEntry) : List String :=
  entries.map CreditLedgerEntry.hashInput

section
variable {σ φ : Type} (H : Bytes → Bytes) (client : ChainClient σ φ)

namespace AnchoringService

def createMerkleRoot (entries : List CreditLedgerEntry) : Except PyError Bytes :=
  if entries = [] then .error (.valueError "Cannot compute a Merkle root from zero entries")
  else do
    let tree ← MerkleTree.new (leaves entries)
    return tree.root H

def anchorBatch (fate : φ) (recordId : UUID) (entries : List CreditLedgerEntry) (chain : σ) :
    Except AnchorError AnchorRecord × σ :=
  if entries = [] then (.error (.python (.valueError "Cannot anchor an empty batch")), chain)
  else match MerkleTree.new (leaves entries) with
    | .error e => (.error (.python e), chain)
    | .ok tree => match client.submitRoot fate (tree.rootHex H) entries.length chain with
      | (.error e, chain) => (.error (.chain e), chain)
      | (.ok receipt, chain) =>
          (.ok { id := recordId, merkleRoot := tree.rootHex H, txHash := receipt.txHash,
                 blockNumber := receipt.blockNumber, entryCount := entries.length }, chain)

def getProof (entry : CreditLedgerEntry) (allEntries : List CreditLedgerEntry) :
    Except PyError MerkleProof :=
  match allEntries.findIdx? (fun e => e.id = entry.id) with
  | none =>
      .error (.valueError ("Entry id=" ++ toString entry.id ++ " not found in the provided batch"))
  | some index => do
      let tree ← MerkleTree.new (leaves allEntries)
      tree.getProof H index

end AnchoringService

structure AnchorDb where
  entries : List CreditLedgerEntry
  anchors : List AnchorRecord
  deriving DecidableEq, Repr

namespace AnchorDb

def link (recordId : UUID) (entryIds : List ℤ) (e : CreditLedgerEntry) : CreditLedgerEntry :=
  if e.id ∈ entryIds then { e with anchorId := some recordId } else e

/-- `save_anchor`, in one transaction. -/
def saveAnchor (db : AnchorDb) (record : AnchorRecord) (entryIds : List ℤ) : AnchorDb where
  entries := db.entries.map (link record.id entryIds)
  anchors := db.anchors ++ [record]

def add (db : AnchorDb) (e : CreditLedgerEntry) : AnchorDb :=
  { db with entries := db.entries ++ [e] }

/-- Every linked entry has its record. -/
def Linked (db : AnchorDb) : Prop :=
  ∀ e ∈ db.entries, ∀ recordId, e.anchorId = some recordId →
    ∃ record ∈ db.anchors, record.id = recordId

theorem Linked.add {db : AnchorDb} (h : db.Linked) {e : CreditLedgerEntry}
    (unanchored : e.anchorId = none) : (db.add e).Linked := by
  intro old hold recordId linked
  rcases List.mem_append.mp hold with before | new
  · exact h old before recordId linked
  · rw [List.mem_singleton.mp new, unanchored] at linked
    cases linked

theorem Linked.saveAnchor {db : AnchorDb} (h : db.Linked) (record : AnchorRecord)
    (entryIds : List ℤ) : (db.saveAnchor record entryIds).Linked := by
  intro e member recordId linked
  obtain ⟨old, hold, rfl⟩ := List.mem_map.mp member
  unfold link at linked
  split at linked
  · exact ⟨record, List.mem_append_right _ (List.mem_singleton_self _), Option.some.inj linked⟩
  · obtain ⟨other, found, same⟩ := h old hold recordId linked
    exact ⟨other, List.mem_append_left _ found, same⟩

end AnchorDb

structure World (σ : Type) where
  chain : σ
  db : AnchorDb

def runOnce (fetched : List CreditLedgerEntry) (fate : φ) (recordId : UUID) (saves : Bool)
    (w : World σ) : Except AnchorError Unit × World σ :=
  if fetched = [] then (.ok (), w)
  else match AnchoringService.anchorBatch H client fate recordId fetched w.chain with
    | (.error e, chain) => (.error e, { w with chain })
    | (.ok record, chain) =>
        if saves then
          (.ok (), ⟨chain, w.db.saveAnchor record (fetched.map CreditLedgerEntry.id)⟩)
        else (.error .repository, { w with chain })

/-! ## What a cycle can do -/

/-- A cycle that reached the repository: the batch's tree, and what the client returned. -/
structure Anchored (fate : φ) (fetched : List CreditLedgerEntry) (w : World σ)
    (tree : MerkleTree) (receipt : ChainReceipt) (chain : σ) : Prop where
  tree_eq : MerkleTree.new (leaves fetched) = .ok tree
  submitted : client.submitRoot fate (tree.rootHex H) fetched.length w.chain = (.ok receipt, chain)

def AnchorRecord.of (recordId : UUID) (tree : MerkleTree) (receipt : ChainReceipt)
    (entryCount : ℕ) : AnchorRecord where
  id := recordId
  merkleRoot := tree.rootHex H
  txHash := receipt.txHash
  blockNumber := receipt.blockNumber
  entryCount := entryCount

theorem new_eq_ok {leaves : List String} {tree : MerkleTree}
    (h : MerkleTree.new leaves = .ok tree) : tree.leaves = leaves := by
  unfold MerkleTree.new at h
  split at h
  · cases h
  · obtain rfl := Except.ok.inj h
    rfl

theorem new_of_ne_nil {leaves : List String} (h : leaves ≠ []) :
    MerkleTree.new leaves = .ok ⟨leaves, h⟩ := dif_neg h

/-- Either the database is as it was, and the chain has seen at most a submission of the batch's
root whose record was not saved, or the record and its links were saved. -/
theorem runOnce_cases (fetched : List CreditLedgerEntry) (fate : φ) (recordId : UUID)
    (saves : Bool) (w : World σ) :
    (∃ chain, (runOnce H client fetched fate recordId saves w).2 = { w with chain } ∧
        (chain = w.chain ∨ ∃ tree answer, MerkleTree.new (leaves fetched) = .ok tree ∧
          client.submitRoot fate (tree.rootHex H) fetched.length w.chain = (answer, chain) ∧
          (answer.isOk → saves = false))) ∨
      saves = true ∧ ∃ tree receipt chain, Anchored H client fate fetched w tree receipt chain ∧
        runOnce H client fetched fate recordId saves w =
          (.ok (), ⟨chain, w.db.saveAnchor (AnchorRecord.of H recordId tree receipt fetched.length)
            (fetched.map CreditLedgerEntry.id)⟩) := by
  unfold runOnce
  by_cases empty : fetched = []
  · rw [if_pos empty]
    exact .inl ⟨w.chain, rfl, .inl rfl⟩
  have some : leaves fetched ≠ [] := fun h => empty (List.map_eq_nil_iff.mp h)
  have built := new_of_ne_nil some
  rw [if_neg empty, AnchoringService.anchorBatch, if_neg empty, built]
  dsimp only
  cases sent : client.submitRoot fate (MerkleTree.rootHex H ⟨leaves fetched, some⟩) fetched.length
      w.chain with
  | mk result chain =>
      cases result with
      | error e => exact .inl ⟨chain, rfl, .inr ⟨_, _, rfl, sent, fun ok => by cases ok⟩⟩
      | ok receipt =>
          cases saves with
          | false => exact .inl ⟨chain, rfl, .inr ⟨_, _, rfl, sent, fun _ => rfl⟩⟩
          | true => exact .inr ⟨rfl, _, receipt, chain, ⟨built, sent⟩, rfl⟩

end

end RenderTrust.Anchor
