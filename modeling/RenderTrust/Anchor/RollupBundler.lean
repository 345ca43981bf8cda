import RenderTrust.Anchor.MerkleSecurity

/-!
# `rollup_anchor/bundler.py`

The Merkle tree of the older bundler. It joins the hexadecimal texts of two hashes where
`core/ledger/anchor/merkle.py` joins the hashes, and an odd last node goes up as it is.
-/
namespace RenderTrust.RollupAnchor
open Anchor (encode)
open Lib.ByteString Lib.HashTree Lib.Sha256

section Tree
variable (H : Bytes → Bytes)

def hashLeaf (leaf : String) : String := hex (H (encode leaf))

def hashPair (left right : String) : String := hex (H (encode (left ++ right)))

def nextLevel : List String → List String
  | [] => []
  | [last] => [last]
  | left :: right :: rest => hashPair H left right :: nextLevel rest

theorem length_nextLevel (level : List String) :
    (nextLevel H level).length = (level.length + 1) / 2 := by
  induction level using nextLevel.induct with
  | case1 => simp only [nextLevel, List.length_nil, Nat.reduceAdd, Nat.reduceDiv]
  | case2 last => simp only [nextLevel, List.length_singleton, Nat.reduceAdd, Nat.reduceDiv]
  | case3 left right rest ih =>
      simp only [nextLevel, List.length_cons, ih]
      omega

def buildTree (level : List String) : List (List String) :=
  if 1 < level.length then level :: buildTree (nextLevel H level) else [level]
termination_by level.length
decreasing_by
  rw [length_nextLevel]
  omega

/-- The hashes of the leaves; the levels are computed from them. -/
structure MerkleTree where
  leaves : List String

namespace MerkleTree

def new (leaves : List String) : MerkleTree := ⟨leaves.map (hashLeaf H)⟩

def tree (t : MerkleTree) : List (List String) := buildTree H t.leaves

def getRoot (t : MerkleTree) : String := ((t.tree H).getLastD []).headD ""

end MerkleTree

/-- What is hashed when a level is joined. -/
def combined : List String → List String
  | [] => []
  | [_] => []
  | left :: right :: rest => (left ++ right) :: combined rest

/-- Every string hashed for the tree of these leaves. -/
def hashedStrings (leaves : List String) : List Bytes :=
  leaves.map encode ++ (((MerkleTree.new H leaves).tree H).dropLast.flatMap combined).map encode

end Tree

/-! ## The two roots -/

section Roots
variable {H : Bytes → Bytes}

theorem buildTree_ne_nil (level : List String) : buildTree H level ≠ [] := by
  unfold buildTree
  split <;> exact List.cons_ne_nil _ _

/-- All the nodes of a level are as long as hexadecimal digests. -/
def Digests (level : List String) : Prop := ∀ node ∈ level, (encode node).length = 64

theorem digest_hex (h : ∀ b, (H b).length = 32) (b : Bytes) : (encode (hex (H b))).length = 64 := by
  rw [Anchor.length_encode_hex, h]

theorem Digests.nextLevel (h : ∀ b, (H b).length = 32) {level : List String}
    (digests : Digests level) : Digests (nextLevel H level) := by
  induction level using nextLevel.induct with
  | case1 => exact digests
  | case2 last => exact digests
  | case3 left right rest ih =>
      intro node member
      rcases List.mem_cons.mp member with rfl | later
      · exact digest_hex h _
      · apply ih _ node later
        intro x hx
        exact digests x (List.mem_cons_of_mem _ (List.mem_cons_of_mem _ hx))

/-- Of two nodes or more the last string hashed is 128 bytes long. -/
theorem buildTree_top (h : ∀ b, (H b).length = 32) {level : List String} (more : 1 < level.length)
    (digests : Digests level) :
    ∃ s ∈ (buildTree H level).dropLast.flatMap combined, (encode s).length = 128 ∧
      ((buildTree H level).getLastD []).headD "" = hex (H (encode s)) := by
  induction level using buildTree.induct H with
  | case2 level few => exact absurd more few
  | case1 level _ ih =>
      have below := buildTree_ne_nil (H := H) (nextLevel H level)
      rw [buildTree, if_pos more, List.dropLast_cons_of_ne_nil below, List.flatMap_cons,
        List.getLastD_cons]
      by_cases again : 1 < (nextLevel H level).length
      · obtain ⟨s, member, length, top⟩ := ih again (digests.nextLevel h)
        refine ⟨s, List.mem_append_right _ member, length, ?_⟩
        rw [← top, List.getLastD_eq_getLast?, List.getLastD_eq_getLast?,
          List.getLast?_eq_some_getLast below]
        rfl
      · have two : level.length = 2 := by
          rw [length_nextLevel] at again
          omega
        obtain ⟨left, right, rfl⟩ := List.length_eq_two.mp two
        have first := digests left List.mem_cons_self
        have second := digests right (List.mem_cons_of_mem _ List.mem_cons_self)
        refine ⟨left ++ right, List.mem_append_left _ List.mem_cons_self, ?_, ?_⟩
        · rw [Anchor.encode_append, List.length_append, first, second]
        · rw [buildTree, if_neg again]
          rfl

/-- The other tree hashes the two hashes, 64 bytes. -/
theorem rootHex_top (h : ∀ b, (H b).length = 32) {tree : Anchor.MerkleTree}
    (more : 1 < tree.leafCount) :
    ∃ s ∈ tree.hashedStrings H, s.length = 64 ∧ tree.rootHex H = hex (H s) := by
  have size : 1 < (tree.hashedLeaves H).length := by rwa [Anchor.MerkleTree.length_hashedLeaves]
  obtain ⟨p, joined, top⟩ := @root_mem_joined _ (Anchor.MerkleTree.scheme H).node _ size
  have digests := (Anchor.framed h).digest_joined (tree.hashedLeaves_length h) p joined
  rw [Anchor.MerkleTree.root_eq] at top
  refine ⟨p.1 ++ p.2, ?_, ?_, ?_⟩
  · rw [Anchor.MerkleTree.hashedStrings_eq]
    exact List.mem_append_right _ (List.mem_map_of_mem joined)
  · rw [List.length_append, digests.1, digests.2]
  · exact congrArg hex (Option.some.inj top)

theorem getRoot_single (leaf : String) :
    (MerkleTree.new H [leaf]).getRoot H = hex (H (encode leaf)) := by
  have few : ¬ 1 < [hashLeaf H leaf].length := by
    rw [List.length_singleton]
    omega
  simp only [MerkleTree.getRoot, MerkleTree.tree, MerkleTree.new, List.map_singleton]
  rw [buildTree, if_neg few]
  rfl

theorem rootHex_single (leaf : String) (nonempty : [leaf] ≠ []) :
    (⟨[leaf], nonempty⟩ : Anchor.MerkleTree).rootHex H = hex (H (encode leaf)) := by
  have top := Anchor.MerkleTree.root_eq (H := H) ⟨[leaf], nonempty⟩
  rw [root_short (by simp only [Anchor.MerkleTree.hashedLeaves, List.map_singleton,
    List.length_singleton, lt_irrefl, not_false_eq_true])] at top
  exact congrArg hex (Option.some.inj top).symm

/-- The roots are equal for a single leaf only, collisions apart. -/
theorem getRoot_eq_rootHex_iff (h : ∀ b, (H b).length = 32) (tree : Anchor.MerkleTree) :
    (tree.leafCount = 1 → (MerkleTree.new H tree.leaves).getRoot H = tree.rootHex H) ∧
      ((MerkleTree.new H tree.leaves).getRoot H = tree.rootHex H →
        tree.leafCount = 1 ∨ Collides H (hashedStrings H tree.leaves ++ tree.hashedStrings H)) := by
  constructor
  · intro single
    obtain ⟨leaf, one⟩ := List.length_eq_one_iff.mp single
    obtain ⟨leaves, nonempty⟩ := tree
    obtain rfl : leaves = [leaf] := one
    rw [getRoot_single, rootHex_single]
  · intro same
    by_cases more : 1 < tree.leafCount
    · have size : 1 < (MerkleTree.new H tree.leaves).leaves.length := by
        rwa [MerkleTree.new, List.length_map]
      have digests : Digests (MerkleTree.new H tree.leaves).leaves := by
        intro node member
        obtain ⟨leaf, _, rfl⟩ := List.mem_map.mp member
        exact digest_hex h _
      obtain ⟨s, hashed, long, top⟩ := buildTree_top h size digests
      obtain ⟨t, hashed', short, top'⟩ := rootHex_top h more
      have equal : H (encode s) = H t := by
        apply hex_inj
        rw [← top, ← top']
        exact same
      refine .inr ⟨encode s, ?_, t, List.mem_append_right _ hashed', ?_, equal⟩
      · apply List.mem_append_left
        exact List.mem_append_right _ (List.mem_map_of_mem hashed)
      · intro text
        rw [text, short] at long
        omega
    · have some := List.length_pos_iff.mpr tree.nonempty
      unfold Anchor.MerkleTree.leafCount at more ⊢
      omega

end Roots

def oneLeaf : Anchor.MerkleTree := ⟨["1acct_a12.00"], List.cons_ne_nil _ _⟩

theorem getRoot_eq_rootHex_iff_oneLeaf :
    (oneLeaf.leafCount = 1 →
        (MerkleTree.new sha256 oneLeaf.leaves).getRoot sha256 = oneLeaf.rootHex sha256) ∧
      ((MerkleTree.new sha256 oneLeaf.leaves).getRoot sha256 = oneLeaf.rootHex sha256 →
        oneLeaf.leafCount = 1 ∨
          Collides sha256 (hashedStrings sha256 oneLeaf.leaves ++ oneLeaf.hashedStrings sha256)) :=
  getRoot_eq_rootHex_iff length_sha256 oneLeaf

def twoLeaves : Anchor.MerkleTree := ⟨["a", "b"], by decide⟩

/-- Two entries have another root when the older bundler anchors them. -/
theorem getRoot_ne_rootHex : ¬ ∀ tree : Anchor.MerkleTree,
    (MerkleTree.new sha256 tree.leaves).getRoot sha256 = tree.rootHex sha256 := by
  intro claim
  have differ : (MerkleTree.new sha256 twoLeaves.leaves).getRoot sha256 ≠
      twoLeaves.rootHex sha256 := by decide +kernel
  exact differ (claim twoLeaves)

end RenderTrust.RollupAnchor
