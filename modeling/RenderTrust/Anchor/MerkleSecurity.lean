import RenderTrust.Anchor.Merkle
import RenderTrust.Lib.HashTree.Tree
import RenderTrust.Lib.Sha256

/-!
# What a Merkle root binds

For a hash with digests of 32 bytes. Each failure comes with a collision among the
strings that the trees and the proof hash.
-/
namespace RenderTrust.Anchor
open Lib.ByteString Lib.HashTree Lib.Sha256

variable {H : Bytes → Bytes}

theorem framed (h : ∀ b, (H b).length = 32) :
    Framed (MerkleTree.scheme H) (fun d => d.length = 32) where
  digest := h
  left := by
    intro a b c d ha hc same
    exact List.append_inj same (ha.trans hc.symm)
  right := by
    intro a b c d hb hd same
    exact List.append_inj' same (hb.trans hd.symm)

namespace MerkleTree

/-- Every string hashed when the tree is built. -/
def hashedStrings (H : Bytes → Bytes) (tree : MerkleTree) : List Bytes :=
  tree.leaves.map encode ++ ((tree.levels H).dropLast.flatMap pairs).map (scheme H).pair

theorem hashedStrings_eq (tree : MerkleTree) :
    tree.hashedStrings H = tree.leaves.map encode ++
      (joined (scheme H).node (tree.hashedLeaves H)).map (scheme H).pair := by
  rw [hashedStrings, levels_eq, joined]

theorem hashedLeaves_length (h : ∀ b, (H b).length = 32) (tree : MerkleTree) :
    ∀ d ∈ tree.hashedLeaves H, d.length = 32 := by
  intro d hd
  obtain ⟨leaf, _, rfl⟩ := List.mem_map.mp hd
  exact h _

theorem root_length (h : ∀ b, (H b).length = 32) (tree : MerkleTree) :
    (tree.root H).length = 32 := by
  refine root_induction (P := fun d => d.length = 32) tree.root_eq (tree.hashedLeaves_length h) ?_
  intro p _ _ _
  exact h _

theorem leaves_eq_of_hashedLeaves {t u : MerkleTree} {strings : List Bytes}
    (ht : t.leaves.map encode ⊆ strings) (hu : u.leaves.map encode ⊆ strings)
    (same : t.hashedLeaves H = u.hashedLeaves H) :
    t.leaves = u.leaves ∨ Collides H strings := by
  by_cases collision : Collides H strings
  · exact .inr collision
  left
  have length : t.leaves.length = u.leaves.length := by
    rw [← List.length_map (hashLeaf H), ← List.length_map (hashLeaf H)]
    exact congrArg List.length same
  apply List.ext_getElem length
  intro i hi hi'
  have digests : H (encode t.leaves[i]) = H (encode u.leaves[i]) := by
    have entry := congrArg (fun xs => xs[i]?) same
    simp only [hashedLeaves_getElem?, List.getElem?_eq_getElem hi, List.getElem?_eq_getElem hi',
      Option.map_some, Option.some.injEq] at entry
    exact entry
  rcases eq_or_collides (ht (List.mem_map_of_mem (List.getElem_mem hi)))
    (hu (List.mem_map_of_mem (List.getElem_mem hi'))) digests with equal | found
  · exact encode_inj equal
  · exact absurd found collision

/-- The root and the number of leaves bind the leaves. -/
theorem root_binds (h : ∀ b, (H b).length = 32) (t u : MerkleTree)
    (count : t.leafCount = u.leafCount) (same : t.root H = u.root H) :
    t.leaves = u.leaves ∨ Collides H (t.hashedStrings H ++ u.hashedStrings H) := by
  have roots : Lib.HashTree.root (scheme H).node (t.hashedLeaves H) =
      Lib.HashTree.root (scheme H).node (u.hashedLeaves H) := by
    rw [root_eq, root_eq, same]
  have length : (t.hashedLeaves H).length = (u.hashedLeaves H).length := by
    rw [length_hashedLeaves, length_hashedLeaves, count]
  rw [hashedStrings_eq, hashedStrings_eq]
  rcases (framed h).root_inj (t.hashedLeaves_length h) (u.hashedLeaves_length h) length roots with
    equal | collision
  · apply leaves_eq_of_hashedLeaves _ _ equal
    · exact fun b hb => List.mem_append_left _ (List.mem_append_left _ hb)
    · exact fun b hb => List.mem_append_right _ (List.mem_append_left _ hb)
  · refine .inr (collision.mono ?_)
    rw [List.map_append]
    intro b hb
    rcases List.mem_append.mp hb with first | second
    · exact List.mem_append_left _ (List.mem_append_right _ first)
    · exact List.mem_append_right _ (List.mem_append_right _ second)

def sampleTree : MerkleTree := ⟨["a", "b", "c"], by decide⟩

theorem root_binds_three :
    sampleTree.leaves = sampleTree.leaves ∨
      Collides sha256 (sampleTree.hashedStrings sha256 ++ sampleTree.hashedStrings sha256) :=
  root_binds length_sha256 sampleTree sampleTree rfl rfl

end MerkleTree

/-! ## Proofs -/

namespace MerkleProof

def steps (p : MerkleProof) : List (Bool × Bytes) := MerkleTree.steps p.proofHashes p.directions

/-- The leaf, and every string hashed when the proof is verified. -/
def hashedStrings (H : Bytes → Bytes) (p : MerkleProof) : List Bytes :=
  encode p.leaf ::
    (climbed (MerkleTree.scheme H).node p.leafHash p.steps).map (MerkleTree.scheme H).pair

end MerkleProof

namespace MerkleTree

theorem length_of_fold {siblings : List Bytes} {directions : List Direction} {computed r : Bytes}
    (h : fold H computed siblings directions = .ok r) : siblings.length = directions.length := by
  induction siblings generalizing computed directions with
  | nil =>
      cases directions with
      | nil => rfl
      | cons direction directions => cases h
  | cons sibling siblings ih =>
      cases directions with
      | nil => cases h
      | cons direction directions =>
          rw [fold] at h
          rw [List.length_cons, List.length_cons]
          split at h
          · rw [ih h]
          · rw [ih h]

/-- A proof verifies when its two lists are as long and its climb ends at its root. -/
theorem verifyProof_eq_true {p : MerkleProof} :
    verifyProof H p = .ok true ↔ p.proofHashes.length = p.directions.length ∧
      climb (scheme H).node p.leafHash p.steps = p.root := by
  unfold verifyProof
  constructor
  · intro accepted
    cases run : fold H p.leafHash p.proofHashes p.directions with
    | error e =>
        rw [run] at accepted
        cases accepted
    | ok computed =>
        have length := length_of_fold run
        rw [fold_eq_climb _ length] at run
        obtain rfl := Except.ok.inj run
        rw [fold_eq_climb _ length] at accepted
        exact ⟨length, eq_of_beq (Except.ok.inj accepted)⟩
  · rintro ⟨length, arrives⟩
    rw [fold_eq_climb _ length]
    change Except.ok (climb (scheme H).node p.leafHash p.steps == p.root) = _
    rw [arrives, beq_self_eq_true]

theorem getProof_eq_ok {tree : MerkleTree} {index : ℤ} {p : MerkleProof}
    (h : tree.getProof H index = .ok p) :
    ∃ (i : ℕ) (leaf : String), index = i ∧ tree.leaves[i]? = some leaf ∧
      p = proofAt H tree i leaf := by
  by_cases outside : index < 0 ∨ (tree.leafCount : ℤ) ≤ index
  · obtain ⟨message, refused⟩ := getProof_outside (H := H) tree outside
    rw [refused] at h
    cases h
  · obtain ⟨i, rfl⟩ := Int.eq_ofNat_of_zero_le (a := index) (by omega)
    have inside : i < tree.leaves.length := by
      have bound := not_or.mp outside
      exact Int.ofNat_lt.mp (not_le.mp bound.2)
    have found := List.getElem?_eq_getElem inside
    rw [getProof_natCast tree found] at h
    exact ⟨i, tree.leaves[i], rfl, found, (Except.ok.inj h).symm⟩

theorem sides_eq {p q : MerkleProof} (hp : p.proofHashes.length = p.directions.length)
    (hq : q.proofHashes.length = q.directions.length) (same : p.directions = q.directions) :
    p.steps.map Prod.fst = q.steps.map Prod.fst := by
  unfold MerkleProof.steps steps
  rw [List.map_fst_zip (by rw [List.length_map, hp]),
    List.map_fst_zip (by rw [List.length_map, hq]), same]

theorem proofHashes_eq {p q : MerkleProof} (hp : p.proofHashes.length = p.directions.length)
    (hq : q.proofHashes.length = q.directions.length) (same : p.steps = q.steps) :
    p.proofHashes = q.proofHashes := by
  have seconds := congrArg (List.map Prod.snd) same
  unfold MerkleProof.steps steps at seconds
  rwa [List.map_snd_zip (by rw [List.length_map, hp]),
    List.map_snd_zip (by rw [List.length_map, hq])] at seconds

/-- A verified proof with the directions of position `index` is the proof of that
position. -/
theorem proof_unique (h : ∀ b, (H b).length = 32) (tree : MerkleTree) {index : ℤ}
    {genuine p : MerkleProof} (found : tree.getProof H index = .ok genuine)
    (root : p.root = tree.root H) (leafHash : p.leafHash.length = 32)
    (directions : p.directions = genuine.directions) (accepted : verifyProof H p = .ok true) :
    (p.leafHash = genuine.leafHash ∧ p.proofHashes = genuine.proofHashes) ∨
      Collides H (p.hashedStrings H ++ tree.hashedStrings H) := by
  obtain ⟨i, leaf, rfl, at_i, rfl⟩ := getProof_eq_ok found
  have honest := verifyProof_eq_true.mp (verifyProof_proofAt (H := H) tree at_i)
  have forged := verifyProof_eq_true.mp accepted
  have hashed : (tree.hashedLeaves H)[i]? = some (hashLeaf H leaf) := by
    rw [hashedLeaves_getElem?, at_i, Option.map_some]
  have same : climb (scheme H).node p.leafHash p.steps =
      climb (scheme H).node (proofAt H tree i leaf).leafHash (proofAt H tree i leaf).steps := by
    rw [forged.2, honest.2, root]
    rfl
  rcases (framed h).climb_inj leafHash (h (encode leaf))
    (sides_eq forged.1 honest.1 directions) same with ⟨start, steps⟩ | collision
  · exact .inl ⟨start, proofHashes_eq forged.1 honest.1 steps⟩
  · refine .inr (collision.mono ?_)
    rw [List.map_append, hashedStrings_eq]
    intro b hb
    rcases List.mem_append.mp hb with first | second
    · exact List.mem_append_left _ (List.mem_cons_of_mem _ first)
    · refine List.mem_append_right _ (List.mem_append_right _ ?_)
      have path : (proofAt H tree i leaf).steps = tree.path H i := steps_of_path _
      rw [path] at second
      exact List.map_subset _ (climbed_subset hashed) second

theorem proof_unique_third :
    ((proofAt sha256 sampleTree 2 "c").leafHash = (proofAt sha256 sampleTree 2 "c").leafHash ∧
      (proofAt sha256 sampleTree 2 "c").proofHashes =
        (proofAt sha256 sampleTree 2 "c").proofHashes) ∨
      Collides sha256 ((proofAt sha256 sampleTree 2 "c").hashedStrings sha256 ++
        sampleTree.hashedStrings sha256) :=
  proof_unique length_sha256 sampleTree (getProof_natCast sampleTree (i := 2) rfl) rfl
    (length_sha256 _) rfl (verifyProof_proofAt sampleTree (i := 2) rfl)

/-! ## Adversarial proofs -/

/-- From the root down, the steps of the proof are steps of the tree. -/
def Opens (H : Bytes → Bytes) (tree : MerkleTree) (p : MerkleProof) : Prop :=
  ∃ t ∈ Tree.ofList (tree.leaves.map encode), t.Opens (scheme H) p.leafHash p.steps.reverse

theorem map_encode (tree : MerkleTree) :
    (tree.leaves.map encode).map (scheme H).hash = tree.hashedLeaves H := by
  rw [List.map_map]
  rfl

theorem ofList_leaves (H : Bytes → Bytes) (tree : MerkleTree) :
    ∃ t, Tree.ofList (tree.leaves.map encode) = some t ∧ t.digest (scheme H) = tree.root H := by
  have digest := Tree.root_ofList (S := scheme H) (tree.leaves.map encode)
  rw [map_encode, root_eq] at digest
  obtain ⟨t, found, same⟩ := Option.map_eq_some_iff.mp digest.symm
  exact ⟨t, found, same⟩

theorem verifyProof_of_opens {tree : MerkleTree} {p : MerkleProof}
    (length : p.proofHashes.length = p.directions.length) (root : p.root = tree.root H)
    (opens : Opens H tree p) : verifyProof H p = .ok true := by
  obtain ⟨t, found, opens⟩ := opens
  obtain ⟨t', found', digest⟩ := tree.ofList_leaves H
  obtain rfl : t = t' := Option.some.inj (found.symm.trans found')
  have arrives := Tree.reached_of_opens opens
  rw [Tree.reached_reverse, digest, ← root] at arrives
  exact verifyProof_eq_true.mpr ⟨length, arrives⟩

theorem opens_of_verifyProof (h : ∀ b, (H b).length = 32) {tree : MerkleTree} {p : MerkleProof}
    (root : p.root = tree.root H) (accepted : verifyProof H p = .ok true) :
    Opens H tree p ∨ Collides H (tree.hashedStrings H ++ p.hashedStrings H) := by
  obtain ⟨t, found, digest⟩ := tree.ofList_leaves H
  have arrives := (verifyProof_eq_true.mp accepted).2
  rw [root, ← digest, ← Tree.reached_reverse] at arrives
  rcases Tree.opens_of_reached (framed h) arrives with opens | collision
  · exact .inl ⟨t, found, opens⟩
  · refine .inr (collision.mono ?_)
    intro b hb
    rcases List.mem_append.mp hb with first | second
    · have inside := Tree.strings_ofList (S := scheme H) found first
      rw [map_encode, ← hashedStrings_eq] at inside
      exact List.mem_append_left _ inside
    · rw [Tree.reachedPairs_reverse, List.map_reverse, List.mem_reverse] at second
      exact List.mem_append_right _ (List.mem_cons_of_mem _ second)

/-- A verified proof is of a leaf, or else it climbs the tree from somewhere that is not
the hash of its leaf. -/
theorem verifyProof_sound_iff (h : ∀ b, (H b).length = 32) (tree : MerkleTree) (p : MerkleProof)
    (length : p.proofHashes.length = p.directions.length) :
    (verifyProof H p = .ok true ∧ p.root = tree.root H →
        p.leaf ∈ tree.leaves ∨ Collides H (tree.hashedStrings H ++ p.hashedStrings H)) ↔
      p.leaf ∈ tree.leaves ∨ p.root ≠ tree.root H ∨ ¬ Opens H tree p ∨
        Collides H (tree.hashedStrings H ++ p.hashedStrings H) := by
  constructor
  · intro sound
    by_cases root : p.root = tree.root H
    · by_cases opens : Opens H tree p
      · rcases sound ⟨verifyProof_of_opens length root opens, root⟩ with member | collision
        · exact .inl member
        · exact .inr (.inr (.inr collision))
      · exact .inr (.inr (.inl opens))
    · exact .inr (.inl root)
  · rintro condition ⟨accepted, root⟩
    rcases condition with member | other | closed | collision
    · exact .inl member
    · exact absurd root other
    · rcases opens_of_verifyProof h root accepted with opens | collision
      · exact absurd opens closed
      · exact .inr collision
    · exact .inr collision

def singleTree : MerkleTree := ⟨["a"], by decide⟩

/-- The root itself as the hash of any leaf. -/
def forgedProof : MerkleProof where
  leaf := "b"
  leafHash := singleTree.root sha256
  proofHashes := []
  directions := []
  root := singleTree.root sha256

theorem forgedProof_accepted :
    verifyProof sha256 forgedProof = .ok true ∧ forgedProof.root = singleTree.root sha256 ∧
      forgedProof.leaf ∉ singleTree.leaves ∧
      ¬ Collides sha256 (singleTree.hashedStrings sha256 ++ forgedProof.hashedStrings sha256) := by
  decide +kernel

theorem verifyProof_sound_iff_forged :
    (verifyProof sha256 forgedProof = .ok true ∧ forgedProof.root = singleTree.root sha256 →
        forgedProof.leaf ∈ singleTree.leaves ∨
          Collides sha256 (singleTree.hashedStrings sha256 ++ forgedProof.hashedStrings sha256)) ↔
      forgedProof.leaf ∈ singleTree.leaves ∨ forgedProof.root ≠ singleTree.root sha256 ∨
        ¬ Opens sha256 singleTree forgedProof ∨
        Collides sha256 (singleTree.hashedStrings sha256 ++ forgedProof.hashedStrings sha256) :=
  verifyProof_sound_iff length_sha256 singleTree forgedProof rfl

/-- What a verifier should check besides: that the hash is that of the leaf, and that the
path is as long as the tree is high. -/
theorem leaf_mem_of_checked (h : ∀ b, (H b).length = 32) {tree : MerkleTree} {p : MerkleProof}
    (root : p.root = tree.root H) (leafHash : p.leafHash = hashLeaf H p.leaf)
    (height : p.proofHashes.length = (tree.levels H).length - 1)
    (accepted : verifyProof H p = .ok true) :
    p.leaf ∈ tree.leaves ∨ Collides H (tree.hashedStrings H ++ p.hashedStrings H) := by
  rcases opens_of_verifyProof h root accepted with ⟨t, found, opens⟩ | collision
  · have length := (verifyProof_eq_true.mp accepted).1
    have steps : p.steps.reverse.length = Nat.clog 2 (tree.leaves.map encode).length := by
      rw [List.length_reverse, MerkleProof.steps, MerkleTree.steps, List.length_zip,
        List.length_map, ← length, Nat.min_self, height, length_levels_eq, List.length_map]
      rfl
    have level := Tree.level_ofList found
    rw [← steps] at level
    have digest : p.leafHash.length = 32 := by
      rw [leafHash]
      exact h _
    obtain ⟨text, member, same⟩ := Tree.leaf_of_opens (framed h) level digest opens
    have listed := Tree.texts_ofList found member
    obtain ⟨leaf, leaf_mem, rfl⟩ := List.mem_map.mp listed
    rw [leafHash] at same
    have strings : encode leaf ∈ tree.hashedStrings H := List.mem_append_left _ listed
    rcases eq_or_collides (List.mem_append_right _ List.mem_cons_self)
      (List.mem_append_left _ strings) same with equal | collision
    · rw [encode_inj equal]
      exact .inl leaf_mem
    · exact .inr collision
  · exact .inr collision

end MerkleTree

end RenderTrust.Anchor
