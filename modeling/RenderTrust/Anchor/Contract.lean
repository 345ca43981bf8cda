import Mathlib.Logic.Function.Basic
import RenderTrust.Anchor.MerkleSecurity
import RenderTrust.Anchor.Models

/-!
# `rollup_anchor/contracts/LedgerAnchor.sol`

A `bytes32` is a string of 32 bytes, compared as a big-endian number; a mapping is a
function that is zero wherever nothing was written.
-/
namespace RenderTrust.Anchor
open Lib.ByteString Lib.HashTree Lib.Sha256

inductive Revert where
  | require (message : String)
  | overflow
  deriving DecidableEq, Repr

def zeroWord : Bytes := List.replicate 32 0

/-- The event of a new batch. -/
structure RootAnchored where
  root : Bytes
  batchId : ℕ
  entryCount : ℕ
  deriving DecidableEq, Repr

structure LedgerAnchor where
  lastBatch : ℕ
  batchRoots : ℕ → Bytes
  batchSizes : ℕ → ℕ
  batchTimestamps : ℕ → ℕ

namespace LedgerAnchor

def initial : LedgerAnchor := ⟨0, fun _ => zeroWord, fun _ => 0, fun _ => 0⟩

def anchorRoot (c : LedgerAnchor) (root : Bytes) (entryCount timestamp : ℕ) :
    Except Revert (LedgerAnchor × RootAnchored) :=
  if root = zeroWord then .error (.require "Invalid root")
  else if entryCount = 0 then .error (.require "No entries")
  else if c.lastBatch + 1 = 2 ^ 256 then .error .overflow
  else
    let lastBatch := c.lastBatch + 1
    .ok ({ lastBatch
           batchRoots := Function.update c.batchRoots lastBatch root
           batchSizes := Function.update c.batchSizes lastBatch entryCount
           batchTimestamps := Function.update c.batchTimestamps lastBatch timestamp },
      ⟨root, lastBatch, entryCount⟩)

/-- The loop of `verifyProof`. -/
def computedHash (H : Bytes → Bytes) (computed : Bytes) : List Bytes → Bytes
  | [] => computed
  | proofElement :: proof =>
      if bigEndian computed < bigEndian proofElement then
        computedHash H (H (computed ++ proofElement)) proof
      else computedHash H (H (proofElement ++ computed)) proof

def verifyProof (H : Bytes → Bytes) (c : LedgerAnchor) (batchId : ℕ) (proof : List Bytes)
    (leaf : Bytes) : Except Revert Bool :=
  if 0 < batchId ∧ batchId ≤ c.lastBatch then
    .ok (computedHash H leaf proof == c.batchRoots batchId)
  else .error (.require "Invalid batch ID")

def getBatchInfo (c : LedgerAnchor) (batchId : ℕ) : Except Revert (Bytes × ℕ × ℕ) :=
  if 0 < batchId ∧ batchId ≤ c.lastBatch then
    .ok (c.batchRoots batchId, c.batchSizes batchId, c.batchTimestamps batchId)
  else .error (.require "Invalid batch ID")

/-- Batch `b` is stored with this root and size. -/
structure Stores (c : LedgerAnchor) (b : ℕ) (root : Bytes) (entryCount : ℕ) : Prop where
  positive : 0 < b
  le_last : b ≤ c.lastBatch
  root_eq : c.batchRoots b = root
  size_eq : c.batchSizes b = entryCount

theorem anchorRoot_eq_ok {c c' : LedgerAnchor} {root : Bytes} {entryCount timestamp : ℕ}
    {event : RootAnchored} (h : c.anchorRoot root entryCount timestamp = .ok (c', event)) :
    c'.lastBatch = c.lastBatch + 1 ∧ c'.Stores event.batchId root entryCount ∧
      event = ⟨root, c.lastBatch + 1, entryCount⟩ ∧
      ∀ b ≤ c.lastBatch, c'.batchRoots b = c.batchRoots b ∧ c'.batchSizes b = c.batchSizes b := by
  unfold anchorRoot at h
  split at h
  · cases h
  split at h
  · cases h
  split at h
  · cases h
  obtain ⟨rfl, rfl⟩ := Prod.mk.inj (Except.ok.inj h)
  refine ⟨rfl, ⟨Nat.succ_pos _, le_rfl, ?_, ?_⟩, rfl, ?_⟩
  · simp only [Function.update_self]
  · simp only [Function.update_self]
  · intro b hb
    have other : b ≠ c.lastBatch + 1 := by omega
    simp only [Function.update_of_ne other, and_self]

/-- What is stored stays as it is. -/
theorem Stores.anchorRoot {c c' : LedgerAnchor} {b : ℕ} {root : Bytes} {entryCount : ℕ}
    (h : c.Stores b root entryCount) {root' : Bytes} {entryCount' timestamp : ℕ}
    {event : RootAnchored} (moved : c.anchorRoot root' entryCount' timestamp = .ok (c', event)) :
    c'.Stores b root entryCount := by
  obtain ⟨last, _, _, kept⟩ := anchorRoot_eq_ok moved
  obtain ⟨same, size⟩ := kept b h.le_last
  exact ⟨h.positive, by have := h.le_last; omega, same.trans h.root_eq, size.trans h.size_eq⟩

variable {H : Bytes → Bytes}

theorem computedHash_eq_climbSorted (leaf : Bytes) (proof : List Bytes) :
    computedHash H leaf proof =
      climbSorted bigEndian (MerkleTree.scheme H).node leaf proof := by
  induction proof generalizing leaf with
  | nil => rfl
  | cons proofElement proof ih =>
      rw [computedHash, climbSorted, sortedPair]
      split
      · exact ih _
      · exact ih _

end LedgerAnchor

/-! ## The two verifiers -/

namespace MerkleProof
variable {H : Bytes → Bytes}

/-- At every step of the path the left hash is at most the right one. -/
def Sorted (H : Bytes → Bytes) (p : MerkleProof) : Prop :=
  ∀ q ∈ climbed (MerkleTree.scheme H).node p.leafHash p.steps, bigEndian q.1 ≤ bigEndian q.2

instance (p : MerkleProof) : Decidable (p.Sorted H) :=
  inferInstanceAs (Decidable (∀ q ∈ _, _))

/-- Every string the contract hashes for the proof. -/
def sortedStrings (H : Bytes → Bytes) (p : MerkleProof) : List Bytes :=
  (climbedSorted bigEndian (MerkleTree.scheme H).node p.leafHash p.proofHashes).map
    (MerkleTree.scheme H).pair

end MerkleProof

namespace LedgerAnchor
variable {H : Bytes → Bytes}

theorem verifyProof_eq_true {c : LedgerAnchor} {b n : ℕ} {root leaf : Bytes} {proof : List Bytes}
    (stored : c.Stores b root n) :
    c.verifyProof H b proof leaf = .ok true ↔ computedHash H leaf proof = root := by
  rw [verifyProof, if_pos ⟨stored.positive, stored.le_last⟩, stored.root_eq]
  constructor
  · intro accepted
    exact eq_of_beq (Except.ok.inj accepted)
  · intro same
    rw [same, beq_self_eq_true]

end LedgerAnchor

section Agreement
variable {H : Bytes → Bytes}

/-- The contract takes the proof of a batch exactly when the path is sorted: the leaf
order hashes by position, the contract by value. -/
theorem verifyProof_agrees_iff (h : ∀ b, (H b).length = 32) (c : LedgerAnchor) (tree : MerkleTree)
    {b n : ℕ} {index : ℤ} {p : MerkleProof} (stored : c.Stores b (tree.root H) n)
    (found : tree.getProof H index = .ok p) :
    (p.Sorted H → c.verifyProof H b p.proofHashes p.leafHash = .ok true ∧
        MerkleTree.verifyProof H p = .ok true) ∧
      (c.verifyProof H b p.proofHashes p.leafHash = .ok true ∧
          MerkleTree.verifyProof H p = .ok true →
        p.Sorted H ∨ Collides H (p.sortedStrings H ++ p.hashedStrings H)) := by
  obtain ⟨i, leaf, rfl, at_i, rfl⟩ := MerkleTree.getProof_eq_ok found
  have accepted := MerkleTree.verifyProof_proofAt (H := H) tree at_i
  have hashed : (tree.hashedLeaves H)[i]? = some (MerkleTree.hashLeaf H leaf) := by
    rw [MerkleTree.hashedLeaves_getElem?, at_i, Option.map_some]
  have arrives := tree.climb_path_eq hashed
  have steps : (MerkleTree.proofAt H tree i leaf).steps = tree.path H i :=
    MerkleTree.steps_of_path _
  have siblings : ∀ s ∈ tree.path H i, s.2.length = 32 :=
    (framed h).digest_path (tree.hashedLeaves_length h)
  have leafHash : (MerkleTree.hashLeaf H leaf).length = 32 := h _
  rw [LedgerAnchor.verifyProof_eq_true stored, LedgerAnchor.computedHash_eq_climbSorted,
    MerkleProof.Sorted, MerkleProof.sortedStrings, MerkleProof.hashedStrings, steps]
  constructor
  · intro sorted
    refine ⟨?_, accepted⟩
    rw [← arrives]
    exact (framed h).climbSorted_of_le
      (fun x y hx hy same => bigEndian_inj (hx.trans hy.symm) same) leafHash siblings sorted
  · rintro ⟨same, _⟩
    rw [← arrives] at same
    rcases (framed h).climbSorted_inj leafHash leafHash siblings same with ⟨_, sorted⟩ | collision
    · exact .inl sorted
    · refine .inr (collision.mono ?_)
      rw [List.map_append]
      intro s hs
      rcases List.mem_append.mp hs with first | second
      · exact List.mem_append_left _ first
      · exact List.mem_append_right _ (List.mem_cons_of_mem _ second)

end Agreement

def sampleBatch : List CreditLedgerEntry :=
  [⟨1, some ⟨2024, 5, 1, 9, 30, 0, 0, some ⟨false, 0⟩⟩, "acct_a", "12.00", none⟩,
   ⟨2, some ⟨2024, 5, 1, 9, 31, 0, 0, some ⟨false, 0⟩⟩, "acct_b", "7.00", none⟩]

def batchTree : MerkleTree := ⟨sampleBatch.map CreditLedgerEntry.hashInput, by decide⟩

def batchProof : MerkleProof :=
  MerkleTree.proofAt sha256 batchTree 0 "1:acct_a:12.00:2024-05-01T09:30:00+00:00"

def batchContract : LedgerAnchor where
  lastBatch := 1
  batchRoots := Function.update LedgerAnchor.initial.batchRoots 1 (batchTree.root sha256)
  batchSizes := Function.update LedgerAnchor.initial.batchSizes 1 2
  batchTimestamps := Function.update LedgerAnchor.initial.batchTimestamps 1 0

theorem batchTree_first :
    batchTree.leaves[0]? = some "1:acct_a:12.00:2024-05-01T09:30:00+00:00" := by
  decide +kernel

/-- Two entries, the hash of the first above that of the second. -/
theorem verifyProof_disagrees :
    LedgerAnchor.initial.anchorRoot (batchTree.root sha256) 2 0 =
        .ok (batchContract, ⟨batchTree.root sha256, 1, 2⟩) ∧
      batchTree.getProof sha256 (0 : ℕ) = .ok batchProof ∧
      MerkleTree.verifyProof sha256 batchProof = .ok true ∧
      batchContract.verifyProof sha256 1 batchProof.proofHashes batchProof.leafHash =
        .ok false := by
  have computed : batchTree.root sha256 ≠ zeroWord ∧
      batchContract.verifyProof sha256 1 batchProof.proofHashes batchProof.leafHash =
        .ok false := by
    decide +kernel
  obtain ⟨nonzero, refused⟩ := computed
  refine ⟨?_, MerkleTree.getProof_natCast batchTree batchTree_first,
    MerkleTree.verifyProof_proofAt batchTree batchTree_first, refused⟩
  rw [LedgerAnchor.anchorRoot, if_neg nonzero, if_neg (by decide), if_neg (by decide)]
  rfl

theorem verifyProof_agrees_iff_first :
    (batchProof.Sorted sha256 →
        batchContract.verifyProof sha256 1 batchProof.proofHashes batchProof.leafHash = .ok true ∧
          MerkleTree.verifyProof sha256 batchProof = .ok true) ∧
      (batchContract.verifyProof sha256 1 batchProof.proofHashes batchProof.leafHash = .ok true ∧
          MerkleTree.verifyProof sha256 batchProof = .ok true →
        batchProof.Sorted sha256 ∨
          Collides sha256
            (batchProof.sortedStrings sha256 ++ batchProof.hashedStrings sha256)) := by
  have stored : batchContract.Stores 1 (batchTree.root sha256) 2 :=
    ⟨Nat.one_pos, le_rfl, by simp only [batchContract, Function.update_self],
      by simp only [batchContract, Function.update_self]⟩
  exact verifyProof_agrees_iff length_sha256 batchContract batchTree stored
    (MerkleTree.getProof_natCast batchTree batchTree_first)

end RenderTrust.Anchor
