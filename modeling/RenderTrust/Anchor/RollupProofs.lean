import RenderTrust.Anchor.RollupBundler
import RenderTrust.Lib.HashTree.Promoted

/-!
# The proofs of `rollup_anchor/bundler.py`

A proof of the older bundler is the list of the siblings, without their sides and without the levels
that have none. With the index of the entry and the number of entries of the batch, which the
contract stores, it leads to the root.
-/
namespace RenderTrust.RollupAnchor
open Anchor (encode)
open Lib.ByteString Lib.HashTree Lib.Sha256

section Proofs
variable (H : Bytes → Bytes)

def scheme : Scheme Bytes String where
  hash b := hex (H b)
  pair p := encode (p.1 ++ p.2)

namespace MerkleTree

/-- The loop of `get_proof`. -/
def collect : List (List String) → ℕ → List String
  | [], _ => []
  | level :: rest, leafIndex =>
      let isRight := leafIndex % 2 = 1
      let pairIdx := if isRight then leafIndex - 1 else leafIndex + 1
      level[pairIdx]?.toList ++ collect rest (leafIndex / 2)

def getProof (t : MerkleTree) (leafIndex : ℤ) : List String :=
  if leafIndex < 0 ∨ t.leaves.length ≤ leafIndex then []
  else collect (t.tree H).dropLast leafIndex.toNat

end MerkleTree

/-- The root that a proof leads to; the source has no function for it. -/
def rootFrom (leaf : String) (leafIndex entryCount : ℕ) (proof : List String) : Option String :=
  ascend (scheme H).node (hashLeaf H leaf) leafIndex entryCount proof

/-- The strings hashed for it. -/
def climbedStrings (leaf : String) (leafIndex entryCount : ℕ) (proof : List String) : List Bytes :=
  encode leaf ::
    (ascended (scheme H).node (hashLeaf H leaf) leafIndex entryCount proof).map (scheme H).pair

variable {H}

/-! ## The tree of the library -/

theorem nextLevel_eq (level : List String) : nextLevel H level = promote (scheme H).node level := by
  induction level using nextLevel.induct with
  | case1 => rfl
  | case2 last => rfl
  | case3 left right rest ih =>
      rw [nextLevel, promote, ih]
      rfl

theorem buildTree_eq (level : List String) :
    buildTree H level = promotions (scheme H).node level := by
  induction level using buildTree.induct H with
  | case1 level more ih => rw [buildTree, if_pos more, promotions_cons more, ih, nextLevel_eq]
  | case2 level few => rw [buildTree, if_neg few, promotions_short few]

theorem combined_eq (level : List String) :
    (combined level).map encode = (couples level).map (scheme H).pair := by
  induction level using combined.induct with
  | case1 => rfl
  | case2 last => rfl
  | case3 left right rest ih =>
      rw [combined, couples, List.map_cons, List.map_cons, ih]
      rfl

theorem hashedStrings_eq (leaves : List String) :
    hashedStrings H leaves = leaves.map encode ++
      (coupled (scheme H).node (leaves.map (hashLeaf H))).map (scheme H).pair := by
  unfold hashedStrings coupled MerkleTree.tree
  rw [buildTree_eq, List.map_flatMap, List.map_flatMap]
  congr 2
  funext level
  exact combined_eq level

theorem getRoot_eq {leaves : List String} (nonempty : leaves ≠ []) :
    top (scheme H).node (leaves.map (hashLeaf H)) = some ((MerkleTree.new H leaves).getRoot H) := by
  have hashed : leaves.map (hashLeaf H) ≠ [] := by rwa [ne_eq, List.map_eq_nil_iff]
  obtain ⟨root, reached⟩ := Option.ne_none_iff_exists'.mp (@top_ne_none _ (scheme H).node _ hashed)
  obtain ⟨last, ends, first⟩ := Option.bind_eq_some_iff.mp reached
  rw [reached, MerkleTree.getRoot, MerkleTree.tree, MerkleTree.new, buildTree_eq,
    List.getLastD_eq_getLast?, ends, Option.getD_some, List.headD_eq_head?_getD, first,
    Option.getD_some]

theorem collect_eq (level : List String) (leafIndex : ℕ) :
    MerkleTree.collect (promotions (scheme H).node level).dropLast leafIndex =
      siblings (scheme H).node level leafIndex := by
  induction level using promotions.induct (scheme H).node generalizing leafIndex with
  | case1 level more ih =>
      rw [promotions_cons more, List.dropLast_cons_of_ne_nil (promotions_ne_nil _),
        MerkleTree.collect, siblings_cons more, ih]
      unfold neighbour
      split <;> rfl
  | case2 level few =>
      rw [promotions_short few, siblings_short few]
      rfl

/-- The nodes of a tree. -/
def Digest (H : Bytes → Bytes) (node : String) : Prop := ∃ b, node = hex (H b)

theorem length_digest (h : ∀ b, (H b).length = 32) {node : String} (digest : Digest H node) :
    (encode node).length = 64 := by
  obtain ⟨b, rfl⟩ := digest
  exact digest_hex h b

theorem framed (h : ∀ b, (H b).length = 32) : Framed (scheme H) (Digest H) where
  digest b := ⟨b, rfl⟩
  left := by
    intro a b c d ha hc same
    simp only [scheme, Anchor.encode_append] at same
    have lengths := (length_digest h ha).trans (length_digest h hc).symm
    obtain ⟨left, right⟩ := List.append_inj same lengths
    exact ⟨Anchor.encode_inj left, Anchor.encode_inj right⟩
  right := by
    intro a b c d hb hd same
    simp only [scheme, Anchor.encode_append] at same
    have lengths := (length_digest h hb).trans (length_digest h hd).symm
    obtain ⟨left, right⟩ := List.append_inj' same lengths
    exact ⟨Anchor.encode_inj left, Anchor.encode_inj right⟩

theorem digests_new (leaves : List String) :
    ∀ node ∈ leaves.map (hashLeaf H), Digest H node := by
  intro node member
  obtain ⟨leaf, -, rfl⟩ := List.mem_map.mp member
  exact ⟨encode leaf, rfl⟩

/-- The root is the text of 32 bytes. -/
theorem getRoot_bytes (h : ∀ b, (H b).length = 32) {leaves : List String}
    (nonempty : leaves ≠ []) :
    ∃ root : Bytes, root.length = 32 ∧ (MerkleTree.new H leaves).getRoot H = hex root := by
  obtain ⟨b, root⟩ := (framed h).digest_top (digests_new leaves) (getRoot_eq nonempty)
  exact ⟨H b, h b, root⟩

theorem collides_of_hex {strings : List Bytes} (found : Collides (scheme H).hash strings) :
    Collides H strings := by
  obtain ⟨a, ha, b, hb, differ, same⟩ := found
  exact ⟨a, ha, b, hb, differ, hex_inj same⟩

theorem getProof_eq (leaves : List String) {i : ℕ} (inside : i < leaves.length) :
    (MerkleTree.new H leaves).getProof H i =
      siblings (scheme H).node (leaves.map (hashLeaf H)) i := by
  have bounds : ¬ ((i : ℤ) < 0 ∨ ((MerkleTree.new H leaves).leaves.length : ℤ) ≤ i) := by
    rw [MerkleTree.new, List.length_map]
    omega
  rw [MerkleTree.getProof, if_neg bounds, Int.toNat_natCast, MerkleTree.tree, MerkleTree.new,
    buildTree_eq, collect_eq]

/-! ## What a proof shows -/

/-- Every proof leads to the root, and no other entry or proof does, collisions apart. -/
theorem getProof_binds (h : ∀ b, (H b).length = 32) (leaves : List String) (i : ℕ)
    (inside : i < leaves.length) :
    rootFrom H leaves[i] i leaves.length ((MerkleTree.new H leaves).getProof H i) =
        some ((MerkleTree.new H leaves).getRoot H) ∧
      ∀ leaf proof, rootFrom H leaf i leaves.length proof =
          some ((MerkleTree.new H leaves).getRoot H) →
        (leaf = leaves[i] ∧ proof = (MerkleTree.new H leaves).getProof H i) ∨
          Collides H (climbedStrings H leaf i leaves.length proof ++ hashedStrings H leaves) := by
  have nonempty : leaves ≠ [] := List.ne_nil_of_length_pos (by omega)
  have size : (leaves.map (hashLeaf H)).length = leaves.length := List.length_map _
  have here : (leaves.map (hashLeaf H))[i]? = some (hashLeaf H leaves[i]) := by
    rw [List.getElem?_map, List.getElem?_eq_getElem inside, Option.map_some]
  rw [getProof_eq leaves inside, ← getRoot_eq nonempty]
  constructor
  · rw [rootFrom, ← size]
    exact ascend_siblings here
  · intro leaf proof arrives
    rw [getRoot_eq nonempty, rootFrom, ← size] at arrives
    rcases (framed h).ascend_inj ⟨_, rfl⟩ (digests_new leaves) (size.symm ▸ inside) arrives
      (getRoot_eq nonempty) with ⟨found, path⟩ | collision
    · have digest : H (encode leaf) = H (encode leaves[i]) :=
        hex_inj (Option.some.inj (found.symm.trans here))
      have mine : encode leaf ∈ climbedStrings H leaf i leaves.length proof ++
          hashedStrings H leaves := List.mem_append_left _ List.mem_cons_self
      have theirs : encode leaves[i] ∈ climbedStrings H leaf i leaves.length proof ++
          hashedStrings H leaves :=
        List.mem_append_right _ (List.mem_append_left _
          (List.mem_map_of_mem (List.getElem_mem inside)))
      rcases eq_or_collides mine theirs digest with text | collision
      · exact .inl ⟨Anchor.encode_inj text, path⟩
      · exact .inr collision
    · refine .inr ((collides_of_hex collision).mono ?_)
      rw [List.map_append, size, hashedStrings_eq]
      intro b member
      rcases List.mem_append.mp member with climbed | built
      · exact List.mem_append_left _ (List.mem_cons_of_mem _ climbed)
      · exact List.mem_append_right _ (List.mem_append_right _ built)

end Proofs

theorem getProof_binds_third :
    rootFrom sha256 "c" 2 3 ((MerkleTree.new sha256 ["a", "b", "c"]).getProof sha256 2) =
        some ((MerkleTree.new sha256 ["a", "b", "c"]).getRoot sha256) ∧
      ∀ leaf proof, rootFrom sha256 leaf 2 3 proof =
          some ((MerkleTree.new sha256 ["a", "b", "c"]).getRoot sha256) →
        (leaf = "c" ∧ proof = (MerkleTree.new sha256 ["a", "b", "c"]).getProof sha256 2) ∨
          Collides sha256 (climbedStrings sha256 leaf 2 3 proof ++
            hashedStrings sha256 ["a", "b", "c"]) :=
  getProof_binds length_sha256 ["a", "b", "c"] 2 (by decide)

end RenderTrust.RollupAnchor
