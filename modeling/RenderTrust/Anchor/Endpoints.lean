import RenderTrust.Anchor.Service
import RenderTrust.Lib.Keyed

/-!
# `core/api/v1/ledger.py`

The proof and the verify endpoint. What the service or the chain client raises is not
handled there.
-/
namespace RenderTrust.Anchor
open Lib.ByteString Lib.HashTree Lib.Keyed Lib.Sha256

inductive ApiError where
  | httpException (statusCode : ℕ) (detail : String)
  | unhandled (error : AnchorError)
  deriving DecidableEq, Repr

structure MerkleProofResponse where
  entryId : ℤ
  merkleRoot : String
  proofHashes : List String
  directions : List String
  anchorTxHash : String
  blockNumber : ℕ
  deriving DecidableEq, Repr

structure VerificationResponse where
  verified : Bool
  entryId : ℤ
  merkleRoot : String
  onChainRoot : String
  blockNumber : ℕ
  txHash : String
  deriving DecidableEq, Repr

namespace AnchorDb

/-- The entry and its record, as both endpoints look them up. -/
def fetchAnchored (db : AnchorDb) (entryId : ℤ) :
    Except ApiError (CreditLedgerEntry × AnchorRecord) :=
  match db.entries.find? (fun e => e.id = entryId) with
  | none => .error (.httpException 404 "Ledger entry not found")
  | some entry => match entry.anchorId with
    | none => .error (.httpException 404 "Entry has not been anchored yet")
    | some anchorId => match db.anchors.find? (fun record => record.id = anchorId) with
      | none => .error (.httpException 404 "Anchor record not found")
      | some anchor => .ok (entry, anchor)

def batchEntries (db : AnchorDb) (anchorId : UUID) : List CreditLedgerEntry :=
  orderBy CreditLedgerEntry.id (db.entries.filter (fun e => e.anchorId = some anchorId))

end AnchorDb

def getEntryProof (H : Bytes → Bytes) (db : AnchorDb) (entryId : ℤ) :
    Except ApiError MerkleProofResponse := do
  let (entry, anchor) ← db.fetchAnchored entryId
  match AnchoringService.getProof H entry (db.batchEntries anchor.id) with
  | .error e => .error (.unhandled (.python e))
  | .ok proof =>
      return { entryId, merkleRoot := anchor.merkleRoot, proofHashes := proof.proofHashes.map hex,
               directions := proof.directions.map Direction.value,
               anchorTxHash := anchor.txHash, blockNumber := anchor.blockNumber }

def verifyEntryProof (verifyRoot : String → String → Except ChainError ChainVerification)
    (db : AnchorDb) (entryId : ℤ) : Except ApiError VerificationResponse := do
  let (_, anchor) ← db.fetchAnchored entryId
  match verifyRoot anchor.txHash anchor.merkleRoot with
  | .error e => .error (.unhandled (.chain e))
  | .ok verification =>
      return { verified := verification.verified, entryId, merkleRoot := anchor.merkleRoot,
               onChainRoot := verification.onChainRoot, blockNumber := anchor.blockNumber,
               txHash := anchor.txHash }

/-! ## What was found -/

structure AnchorDb.Found (db : AnchorDb) (entryId : ℤ) (entry : CreditLedgerEntry)
    (anchor : AnchorRecord) : Prop where
  entry_eq : db.entries.find? (fun e => e.id = entryId) = some entry
  linked : entry.anchorId = some anchor.id
  anchor_eq : db.anchors.find? (fun record => record.id = anchor.id) = some anchor

theorem AnchorDb.fetchAnchored_eq_ok {db : AnchorDb} {entryId : ℤ} {entry : CreditLedgerEntry}
    {anchor : AnchorRecord} :
    db.fetchAnchored entryId = .ok (entry, anchor) ↔ db.Found entryId entry anchor := by
  constructor
  · intro h
    unfold fetchAnchored at h
    split at h
    · cases h
    · rename_i found entry_eq
      split at h
      · cases h
      · rename_i anchorId linked
        split at h
        · cases h
        · rename_i record anchor_eq
          obtain ⟨rfl, rfl⟩ := Prod.mk.inj (Except.ok.inj h)
          obtain ⟨_, rfl⟩ := mem_of_find?_key anchor_eq
          exact ⟨entry_eq, linked, anchor_eq⟩
  · rintro ⟨entry_eq, linked, anchor_eq⟩
    simp only [fetchAnchored, entry_eq, linked, anchor_eq]

/-! ## The verify endpoint -/

/-- A root that a transaction stored, with the batch it is the root of, if any. -/
structure Anchoring (H : Bytes → Bytes) where
  root : Bytes
  batch : Option MerkleTree
  rooted : ∀ tree ∈ batch, tree.root H = root

section Verify
variable {H : Bytes → Bytes}

/-- The hash of the text is a leaf under the root. -/
def Anchoring.Covers (a : Anchoring H) (text : String) : Prop :=
  ∃ tree ∈ a.batch, MerkleTree.hashLeaf H text ∈ tree.hashedLeaves H

def Anchoring.hashedStrings (a : Anchoring H) (text : String) : List Bytes :=
  encode text :: (a.batch.map (MerkleTree.hashedStrings H)).getD []

theorem Anchoring.Covers.proof {a : Anchoring H} {text : String} (h : a.Covers text) :
    ∃ p : MerkleProof, p.leafHash = MerkleTree.hashLeaf H text ∧ p.root = a.root ∧
      MerkleTree.verifyProof H p = .ok true := by
  obtain ⟨tree, member, leaf⟩ := h
  obtain ⟨other, inside, same⟩ := List.mem_map.mp leaf
  obtain ⟨i, at_i⟩ := List.mem_iff_getElem?.mp inside
  exact ⟨MerkleTree.proofAt H tree i other, same, a.rooted tree member,
    MerkleTree.verifyProof_proofAt tree at_i⟩

theorem Anchoring.covers_or_collides_iff (a : Anchoring H) (text : String) :
    a.Covers text ∨ Collides H (a.hashedStrings text) ↔
      (∃ tree ∈ a.batch, text ∈ tree.leaves) ∨ Collides H (a.hashedStrings text) := by
  constructor
  · rintro (⟨tree, member, leaf⟩ | collision)
    · obtain ⟨other, inside, same⟩ := List.mem_map.mp leaf
      have first : encode text ∈ a.hashedStrings text := List.mem_cons_self
      have second : encode other ∈ a.hashedStrings text := by
        rw [Anchoring.hashedStrings, Option.mem_def.mp member]
        exact List.mem_cons_of_mem _ (List.mem_append_left _ (List.mem_map_of_mem inside))
      rcases eq_or_collides second first same with equal | collision
      · rw [← encode_inj equal]
        exact .inl ⟨tree, member, inside⟩
      · exact .inr collision
    · exact .inr collision
  · rintro (⟨tree, member, inside⟩ | collision)
    · exact .inl ⟨tree, member, List.mem_map_of_mem inside⟩
    · exact .inr collision

/-- The client verifies exactly the roots stored by the transaction. -/
def ReadsRoots (verifyRoot : String → String → Except ChainError ChainVerification)
    (anchored : String → Option (Anchoring H)) : Prop :=
  ∀ txHash root, (∃ v, verifyRoot txHash root = .ok v ∧ v.verified = true) ↔
    ∃ a, anchored txHash = some a ∧ hex a.root = root

/-- The answer `verified` is only given for an entry under the root on chain. -/
def TamperEvident (verifyRoot : String → String → Except ChainError ChainVerification)
    (anchored : String → Option (Anchoring H)) (db : AnchorDb) (entryId : ℤ) : Prop :=
  ∀ response, verifyEntryProof verifyRoot db entryId = .ok response → response.verified = true →
    ∃ entry a, db.entries.find? (fun e => e.id = entryId) = some entry ∧
      anchored response.txHash = some a ∧
      (a.Covers entry.hashInput ∨ Collides H (a.hashedStrings entry.hashInput))

/-- Where the record is the one on chain, the entry reads as it did when anchored. -/
def Untampered (anchored : String → Option (Anchoring H)) (db : AnchorDb) (entryId : ℤ) : Prop :=
  ∀ entry anchor, db.Found entryId entry anchor →
    ∀ a, anchored anchor.txHash = some a → hex a.root = anchor.merkleRoot →
      (∃ tree ∈ a.batch, entry.hashInput ∈ tree.leaves) ∨
        Collides H (a.hashedStrings entry.hashInput)

variable {verifyRoot : String → String → Except ChainError ChainVerification}
  {anchored : String → Option (Anchoring H)}

theorem verifyEntryProof_eq_ok {db : AnchorDb} {entryId : ℤ} {response : VerificationResponse} :
    verifyEntryProof verifyRoot db entryId = .ok response ↔
      ∃ entry anchor v, db.Found entryId entry anchor ∧
        verifyRoot anchor.txHash anchor.merkleRoot = .ok v ∧
        response = ⟨v.verified, entryId, anchor.merkleRoot, v.onChainRoot, anchor.blockNumber,
          anchor.txHash⟩ := by
  unfold verifyEntryProof
  constructor
  · intro h
    cases fetched : db.fetchAnchored entryId with
    | error e =>
        rw [fetched] at h
        cases h
    | ok found =>
        obtain ⟨entry, anchor⟩ := found
        cases read : verifyRoot anchor.txHash anchor.merkleRoot with
        | error e =>
            simp only [fetched, bind, Except.bind, read, reduceCtorEq] at h
        | ok v =>
            simp only [fetched, bind, Except.bind, read] at h
            exact ⟨entry, anchor, v, AnchorDb.fetchAnchored_eq_ok.mp fetched, read,
              (Except.ok.inj h).symm⟩
  · rintro ⟨entry, anchor, v, found, read, rfl⟩
    rw [AnchorDb.fetchAnchored_eq_ok.mpr found]
    simp only [bind, Except.bind, read]
    rfl

/-- The endpoint compares the root on chain with the stored one and never looks at the
entry: what it says of the entry holds only where nobody changed it. -/
theorem tamperEvident_iff (reads : ReadsRoots verifyRoot anchored) (db : AnchorDb) (entryId : ℤ) :
    TamperEvident verifyRoot anchored db entryId ↔ Untampered anchored db entryId := by
  constructor
  · intro evident entry anchor found a stored same
    obtain ⟨v, read, verified⟩ := (reads _ _).mpr ⟨a, stored, same⟩
    obtain ⟨entry', a', entry_eq, stored', covered⟩ := evident _
      (verifyEntryProof_eq_ok.mpr ⟨entry, anchor, v, found, read, rfl⟩) verified
    obtain rfl := Option.some.inj (found.entry_eq.symm.trans entry_eq)
    obtain rfl := Option.some.inj (stored.symm.trans stored')
    exact (a.covers_or_collides_iff _).mp covered
  · intro untampered response answered verified
    obtain ⟨entry, anchor, v, found, read, rfl⟩ := verifyEntryProof_eq_ok.mp answered
    obtain ⟨a, stored, same⟩ := (reads _ _).mp ⟨v, read, verified⟩
    exact ⟨entry, a, found.entry_eq, stored,
      (a.covers_or_collides_iff _).mpr (untampered entry anchor found a stored same)⟩

/-- A client that looks the root up and compares. -/
def lookUpRoot (anchored : String → Option (Anchoring H)) (txHash expectedRootHex : String) :
    Except ChainError ChainVerification :=
  match anchored txHash with
  | none => .error .transactionNotFound
  | some a => .ok ⟨hex a.root == expectedRootHex, hex a.root⟩

theorem readsRoots_lookUpRoot (anchored : String → Option (Anchoring H)) :
    ReadsRoots (lookUpRoot anchored) anchored := by
  intro txHash root
  unfold lookUpRoot
  cases anchored txHash with
  | none =>
      constructor
      · rintro ⟨v, read, _⟩
        cases read
      · rintro ⟨a, stored, _⟩
        cases stored
  | some a =>
      constructor
      · rintro ⟨v, read, verified⟩
        obtain rfl := Except.ok.inj read
        exact ⟨a, rfl, eq_of_beq verified⟩
      · rintro ⟨a', stored, same⟩
        obtain rfl := Option.some.inj stored
        exact ⟨_, rfl, beq_iff_eq.mpr same⟩

end Verify

/-! The two sample entries, anchored by transaction 0; later the amount of the first was
changed. -/

def batchAnchored (txHash : String) : Option (Anchoring sha256) :=
  if txHash = "0x00" then
    some ⟨batchTree.root sha256, some batchTree, fun tree h => by rw [Option.some.inj h]⟩
  else none

def batchRecord : AnchorRecord := ⟨7, hex (batchTree.root sha256), "0x00", 1, 2⟩

def tamperedEntry : CreditLedgerEntry :=
  { sampleBatch.head (by decide) with deltaUsd := "9999.00", anchorId := some 7 }

def tamperedDb : AnchorDb where
  entries := tamperedEntry ::
    (sampleBatch.drop 1).map (fun e => { e with anchorId := some 7 })
  anchors := [batchRecord]

theorem tamperEvident_iff_batchAnchored :
    TamperEvident (lookUpRoot batchAnchored) batchAnchored tamperedDb 1 ↔
      Untampered batchAnchored tamperedDb 1 :=
  tamperEvident_iff (readsRoots_lookUpRoot batchAnchored) tamperedDb 1

theorem tampered_entry_verified :
    verifyEntryProof (lookUpRoot batchAnchored) tamperedDb 1 =
        .ok ⟨true, 1, hex (batchTree.root sha256), hex (batchTree.root sha256), 1, "0x00"⟩ ∧
      ¬ TamperEvident (lookUpRoot batchAnchored) batchAnchored tamperedDb 1 := by
  have answered : verifyEntryProof (lookUpRoot batchAnchored) tamperedDb 1 =
      .ok ⟨true, 1, hex (batchTree.root sha256), hex (batchTree.root sha256), 1, "0x00"⟩ := by
    have read : lookUpRoot batchAnchored "0x00" (hex (batchTree.root sha256)) =
        .ok ⟨true, hex (batchTree.root sha256)⟩ := by
      simp only [lookUpRoot, batchAnchored, if_true, beq_self_eq_true]
    have found : tamperedDb.Found 1 tamperedEntry batchRecord :=
      ⟨rfl, rfl, rfl⟩
    exact verifyEntryProof_eq_ok.mpr ⟨_, _, _, found, read, rfl⟩
  refine ⟨answered, ?_⟩
  intro evident
  obtain ⟨entry, a, entry_eq, stored, covered⟩ := evident _ answered rfl
  obtain rfl := Option.some.inj entry_eq
  obtain rfl := Option.some.inj stored
  have foreign :
      MerkleTree.hashLeaf sha256 tamperedEntry.hashInput ∉ batchTree.hashedLeaves sha256 ∧
        ¬ Collides sha256
          (encode tamperedEntry.hashInput :: batchTree.hashedStrings sha256) := by
    decide +kernel
  rcases covered with ⟨tree, member, leaf⟩ | collision
  · obtain rfl := Option.some.inj member
    exact foreign.1 leaf
  · exact foreign.2 collision

end RenderTrust.Anchor
