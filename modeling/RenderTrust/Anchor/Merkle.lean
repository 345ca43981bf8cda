import RenderTrust.Lib.ByteString
import RenderTrust.Lib.HashTree.Binding

/-!
# `core/ledger/anchor/merkle.py`

The hash function is a parameter, `H`; the repository uses SHA-256.
-/
namespace RenderTrust.Anchor
open Lib.ByteString Lib.HashTree

/-- `data.encode("utf-8")`. -/
def encode (data : String) : Bytes := data.toUTF8.data.toList

theorem encode_inj {a b : String} (h : encode a = encode b) : a = b := by
  apply String.toByteArray_inj.mp
  apply ByteArray.ext
  exact Array.toList_inj.mp h

theorem encode_append (a b : String) : encode (a ++ b) = encode a ++ encode b := by
  unfold encode
  rw [String.toUTF8, String.toUTF8, String.toUTF8, String.toByteArray_append,
    ByteArray.data_append, Array.toList_append]

theorem encode_ofList (cs : List Char) :
    encode (String.ofList cs) = cs.flatMap String.utf8EncodeChar := by
  unfold encode
  rw [String.toUTF8, String.toByteArray_ofList, List.utf8Encode, List.data_toByteArray]

/-- Hexadecimal digits are single bytes. -/
theorem length_encode_hex (bytes : Bytes) : (encode (hex bytes)).length = 2 * bytes.length := by
  have digit : ∀ n : Fin 16, (String.utf8EncodeChar (Nat.digitChar n)).length = 1 := by decide
  rw [hex, encode_ofList]
  induction bytes with
  | nil => rfl
  | cons byte bytes ih =>
      have size := byte.toNat_lt
      have high := digit ⟨byte.toNat / 16, by omega⟩
      have low := digit ⟨byte.toNat % 16, by omega⟩
      rw [List.flatMap_cons, List.flatMap_append, List.length_append, ih]
      simp only [hexPair, List.flatMap_cons, List.flatMap_nil, List.length_append, high, low,
        List.length_nil, List.length_cons]
      omega

inductive PyError where
  | valueError (message : String)
  | indexError (message : String)
  deriving DecidableEq, Repr

inductive Direction where
  | LEFT
  | RIGHT
  deriving DecidableEq, Repr

def Direction.value : Direction → String
  | .LEFT => "left"
  | .RIGHT => "right"

structure MerkleProof where
  leaf : String
  leafHash : Bytes
  proofHashes : List Bytes
  directions : List Direction
  root : Bytes
  deriving DecidableEq, Repr

structure MerkleTree where
  leaves : List String
  nonempty : leaves ≠ []

namespace MerkleTree

def new (leaves : List String) : Except PyError MerkleTree :=
  if h : leaves = [] then
    .error (.valueError "Cannot build a Merkle tree from an empty list")
  else .ok ⟨leaves, h⟩

def leafCount (tree : MerkleTree) : ℕ := tree.leaves.length

section Hash
variable (H : Bytes → Bytes)

def hashLeaf (data : String) : Bytes := H (encode data)

def hashPair (left right : Bytes) : Bytes := H (left ++ right)

def nextLevel : List Bytes → List Bytes
  | [] => []
  | [left] => [hashPair H left left]
  | left :: right :: rest => hashPair H left right :: nextLevel rest

theorem length_nextLevel (current : List Bytes) :
    (nextLevel H current).length = (current.length + 1) / 2 := by
  induction current using nextLevel.induct with
  | case1 => simp only [nextLevel, List.length_nil, Nat.reduceAdd, Nat.reduceDiv]
  | case2 left => simp only [nextLevel, List.length_singleton, Nat.reduceAdd, Nat.reduceDiv]
  | case3 left right rest ih =>
      simp only [nextLevel, List.length_cons, ih]
      omega

def build (current : List Bytes) : List (List Bytes) :=
  if 1 < current.length then current :: build (nextLevel H current) else [current]
termination_by current.length
decreasing_by
  rw [length_nextLevel]
  omega

def hashedLeaves (tree : MerkleTree) : List Bytes := tree.leaves.map (hashLeaf H)

def levels (tree : MerkleTree) : List (List Bytes) := build H (tree.hashedLeaves H)

/-- `self._levels[-1][0]`. -/
def root (tree : MerkleTree) : Bytes := ((tree.levels H).getLastD []).headD []

def rootHex (tree : MerkleTree) : String := hex (tree.root H)

/-- The loop of `get_proof` over the levels below the root. -/
def collect : List (List Bytes) → ℕ → Except PyError (List Bytes × List Direction)
  | [], _ => .ok ([], [])
  | level :: above, currentIndex =>
      let (siblingIndex, direction) : ℕ × Direction :=
        if currentIndex % 2 = 0 then (currentIndex + 1, .RIGHT) else (currentIndex - 1, .LEFT)
      let found :=
        if siblingIndex < level.length then level[siblingIndex]? else level[currentIndex]?
      match found with
      | none => .error (.indexError "list index out of range")
      | some sibling => do
          let (proofHashes, directions) ← collect above (currentIndex / 2)
          return (sibling :: proofHashes, direction :: directions)

def getProof (tree : MerkleTree) (index : ℤ) : Except PyError MerkleProof :=
  let count := (tree.hashedLeaves H).length
  if index < 0 ∨ count ≤ index then
    .error (.indexError s!"Leaf index {index} out of range [0, {count})")
  else do
    let (proofHashes, directions) ← collect (tree.levels H).dropLast index.toNat
    match tree.leaves[index.toNat]?, (tree.hashedLeaves H)[index.toNat]? with
    | some leaf, some leafHash =>
        return { leaf, leafHash, proofHashes, directions, root := tree.root H }
    | _, _ => .error (.indexError "list index out of range")

/-- The loop of `verify_proof`; `zip` is strict. -/
def fold (computed : Bytes) : List Bytes → List Direction → Except PyError Bytes
  | [], [] => .ok computed
  | sibling :: siblings, direction :: directions =>
      if direction = .RIGHT then fold (hashPair H computed sibling) siblings directions
      else fold (hashPair H sibling computed) siblings directions
  | [], _ :: _ => .error (.valueError "zip() argument 2 is longer than argument 1")
  | _ :: _, [] => .error (.valueError "zip() argument 2 is shorter than argument 1")

def verifyProof (proof : MerkleProof) : Except PyError Bool := do
  let computed ← fold H proof.leafHash proof.proofHashes proof.directions
  return computed == proof.root

end Hash

/-! ## The tree is a hash tree -/

def scheme (H : Bytes → Bytes) : Scheme Bytes Bytes where
  hash := H
  pair := fun p => p.1 ++ p.2

variable {H : Bytes → Bytes}

theorem nextLevel_eq_parents (current : List Bytes) :
    nextLevel H current = parents (scheme H).node current := by
  induction current using nextLevel.induct with
  | case1 => rfl
  | case2 left => rfl
  | case3 left right rest ih =>
      rw [nextLevel, ih]
      rfl

theorem build_eq_levels (current : List Bytes) :
    build H current = Lib.HashTree.levels (scheme H).node current := by
  induction current using build.induct H with
  | case1 current more ih =>
      rw [build, if_pos more, ih, levels_cons more, nextLevel_eq_parents]
  | case2 current few => rw [build, if_neg few, levels_short few]

theorem levels_eq (tree : MerkleTree) :
    tree.levels H = Lib.HashTree.levels (scheme H).node (tree.hashedLeaves H) :=
  build_eq_levels _

theorem hashedLeaves_ne_nil (tree : MerkleTree) : tree.hashedLeaves H ≠ [] := by
  intro empty
  exact tree.nonempty (List.map_eq_nil_iff.mp empty)

theorem length_hashedLeaves (tree : MerkleTree) :
    (tree.hashedLeaves H).length = tree.leafCount :=
  List.length_map _

theorem hashedLeaves_getElem? (tree : MerkleTree) (i : ℕ) :
    (tree.hashedLeaves H)[i]? = tree.leaves[i]?.map (hashLeaf H) :=
  List.getElem?_map

theorem root_eq (tree : MerkleTree) :
    Lib.HashTree.root (scheme H).node (tree.hashedLeaves H) = some (tree.root H) := by
  obtain ⟨leaf, rest, split⟩ := List.exists_cons_of_ne_nil (tree.hashedLeaves_ne_nil (H := H))
  have first : (tree.hashedLeaves H)[0]? = some leaf := by
    rw [split]
    rfl
  have found : Lib.HashTree.root (scheme H).node _ = _ := climb_path first
  rw [found]
  unfold Lib.HashTree.root at found
  rw [← levels_eq, Option.bind_eq_some_iff] at found
  obtain ⟨top, last, head⟩ := found
  rw [root, List.getLastD_eq_getLast?, last, Option.getD_some, List.headD_eq_head?_getD, head,
    Option.getD_some]

/-- The siblings of position `i`, each with whether it is on the right. -/
def path (H : Bytes → Bytes) (tree : MerkleTree) (i : ℕ) : List (Bool × Bytes) :=
  Lib.HashTree.path (scheme H).node (tree.hashedLeaves H) i

theorem climb_path_eq (tree : MerkleTree) {i : ℕ} {leafHash : Bytes}
    (h : (tree.hashedLeaves H)[i]? = some leafHash) :
    climb (scheme H).node leafHash (tree.path H i) = tree.root H := by
  have found : Lib.HashTree.root (scheme H).node _ = _ := climb_path h
  rw [root_eq] at found
  exact (Option.some.inj found).symm

theorem length_path_eq (tree : MerkleTree) {i : ℕ} (h : i < tree.leafCount) :
    (tree.path H i).length = (tree.levels H).length - 1 := by
  rw [levels_eq]
  exact length_path (by rwa [length_hashedLeaves])

theorem length_levels_eq (tree : MerkleTree) :
    (tree.levels H).length = Nat.clog 2 tree.leafCount + 1 := by
  rw [levels_eq, length_levels tree.hashedLeaves_ne_nil, length_hashedLeaves]

def directionOf (right : Bool) : Direction := if right then .RIGHT else .LEFT

/-- The steps a proof describes. -/
def steps (siblings : List Bytes) (directions : List Direction) : List (Bool × Bytes) :=
  (directions.map (fun d => decide (d = .RIGHT))).zip siblings

theorem steps_of_path (p : List (Bool × Bytes)) :
    steps (p.map Prod.snd) (p.map (fun s => directionOf s.1)) = p := by
  induction p with
  | nil => rfl
  | cons s p ih =>
      obtain ⟨right, sibling⟩ := s
      unfold steps at ih ⊢
      rw [List.map_cons, List.map_cons, List.map_cons, List.zip_cons_cons, ih]
      cases right <;> rfl

theorem fold_eq_climb {siblings : List Bytes} {directions : List Direction} (computed : Bytes)
    (length : siblings.length = directions.length) :
    fold H computed siblings directions =
      .ok (climb (scheme H).node computed (steps siblings directions)) := by
  induction siblings generalizing computed directions with
  | nil =>
      obtain rfl : directions = [] := List.length_eq_zero_iff.mp length.symm
      rfl
  | cons sibling siblings ih =>
      cases directions with
      | nil => cases length
      | cons direction directions =>
          have rest : siblings.length = directions.length := Nat.succ.inj length
          cases direction with
          | RIGHT => exact ih (hashPair H computed sibling) rest
          | LEFT => exact ih (hashPair H sibling computed) rest

theorem collect_eq_path {xs : List Bytes} {i : ℕ} (h : i < xs.length) :
    collect (Lib.HashTree.levels (scheme H).node xs).dropLast i =
      .ok ((Lib.HashTree.path (scheme H).node xs i).map Prod.snd,
        (Lib.HashTree.path (scheme H).node xs i).map (fun s => directionOf s.1)) := by
  induction xs using Lib.HashTree.levels.induct (scheme H).node generalizing i with
  | case1 xs more ih =>
      obtain ⟨s, found, _, side⟩ := join_step (List.getElem?_eq_getElem h)
      have inside : i / 2 < (parents (scheme H).node xs).length := by
        rw [length_parents]
        omega
      have neighbour := sibling_eq_step h
      rw [found, Option.map_some] at neighbour
      rw [levels_cons more, List.dropLast_cons_of_ne_nil (levels_ne_nil _), path_cons more found,
        collect]
      by_cases even : i % 2 = 0
      · rw [sibling, if_pos even] at neighbour
        simp only [even, if_true, neighbour, ih inside, List.map_cons, side, directionOf,
          decide_true]
        rfl
      · have before : i - 1 < xs.length := by omega
        rw [sibling, if_neg even] at neighbour
        simp only [even, if_false, before, if_true, neighbour, ih inside, List.map_cons, side,
          directionOf, decide_false]
        rfl
  | case2 xs few =>
      rw [levels_short few, path_short few]
      rfl

/-- The proof that `get_proof` returns. -/
def proofAt (H : Bytes → Bytes) (tree : MerkleTree) (i : ℕ) (leaf : String) : MerkleProof where
  leaf := leaf
  leafHash := hashLeaf H leaf
  proofHashes := (tree.path H i).map Prod.snd
  directions := (tree.path H i).map (fun s => directionOf s.1)
  root := tree.root H

theorem getProof_natCast (tree : MerkleTree) {i : ℕ} {leaf : String}
    (h : tree.leaves[i]? = some leaf) : tree.getProof H i = .ok (proofAt H tree i leaf) := by
  have inside : i < (tree.hashedLeaves H).length := by
    rw [length_hashedLeaves]
    exact (List.getElem?_eq_some_iff.mp h).1
  have outside : ¬ ((i : ℤ) < 0 ∨ ((tree.hashedLeaves H).length : ℤ) ≤ i) := by omega
  have hashed : (tree.hashedLeaves H)[i]? = some (hashLeaf H leaf) := by
    rw [hashedLeaves_getElem?, h, Option.map_some]
  simp only [getProof, if_neg outside, Int.toNat_natCast, levels_eq, collect_eq_path inside, h,
    hashed]
  rfl

theorem getProof_outside (tree : MerkleTree) {index : ℤ}
    (h : index < 0 ∨ (tree.leafCount : ℤ) ≤ index) :
    ∃ message, tree.getProof H index = .error (.indexError message) := by
  rw [← length_hashedLeaves (H := H)] at h
  exact ⟨_, if_pos h⟩

theorem fold_proofAt (tree : MerkleTree) {i : ℕ} {leaf : String}
    (h : tree.leaves[i]? = some leaf) :
    fold H (hashLeaf H leaf) (proofAt H tree i leaf).proofHashes
      (proofAt H tree i leaf).directions = .ok (tree.root H) := by
  have hashed : (tree.hashedLeaves H)[i]? = some (hashLeaf H leaf) := by
    rw [hashedLeaves_getElem?, h, Option.map_some]
  rw [fold_eq_climb _ (by simp only [proofAt, List.length_map]), proofAt, steps_of_path,
    climb_path_eq tree hashed]

theorem verifyProof_proofAt (tree : MerkleTree) {i : ℕ} {leaf : String}
    (h : tree.leaves[i]? = some leaf) : verifyProof H (proofAt H tree i leaf) = .ok true := by
  have arrives := fold_proofAt (H := H) tree h
  unfold verifyProof
  rw [proofAt] at arrives ⊢
  simp only [arrives]
  exact congrArg Except.ok (beq_self_eq_true (tree.root H))

/-- Every position inside has a proof that verifies, and no other index has one. -/
theorem getProof_complete (H : Bytes → Bytes) (tree : MerkleTree) (index : ℤ) :
    (0 ≤ index ∧ index < tree.leafCount → ∃ leaf p,
      tree.leaves[index.toNat]? = some leaf ∧ tree.getProof H index = .ok p ∧
        verifyProof H p = .ok true ∧ p.root = tree.root H ∧ p.leafHash = hashLeaf H leaf ∧
        p.proofHashes.length = (tree.levels H).length - 1 ∧
        p.directions.length = (tree.levels H).length - 1 ∧
        (tree.levels H).length - 1 = Nat.clog 2 tree.leafCount) ∧
    ((∃ message, tree.getProof H index = .error (.indexError message)) ↔
      index < 0 ∨ (tree.leafCount : ℤ) ≤ index) := by
  have inside : 0 ≤ index ∧ index < tree.leafCount → ∃ leaf,
      tree.leaves[index.toNat]? = some leaf ∧
        tree.getProof H index = .ok (proofAt H tree index.toNat leaf) := by
    rintro ⟨low, high⟩
    obtain ⟨i, rfl⟩ := Int.eq_ofNat_of_zero_le low
    have bound : i < tree.leaves.length := Int.ofNat_lt.mp high
    exact ⟨tree.leaves[i], List.getElem?_eq_getElem bound,
      getProof_natCast tree (List.getElem?_eq_getElem bound)⟩
  constructor
  · intro range
    obtain ⟨leaf, found, proof⟩ := inside range
    have bound : index.toNat < tree.leafCount := (List.getElem?_eq_some_iff.mp found).1
    have length := length_path_eq (H := H) tree bound
    refine ⟨leaf, _, found, proof, verifyProof_proofAt tree found, rfl, rfl, ?_, ?_, ?_⟩
    · rw [proofAt, List.length_map, length]
    · rw [proofAt, List.length_map, length]
    · rw [length_levels_eq, Nat.add_sub_cancel]
  · constructor
    · rintro ⟨message, refused⟩
      by_contra range
      obtain ⟨leaf, _, proof⟩ := inside (by omega)
      rw [proof] at refused
      cases refused
    · exact getProof_outside tree

end MerkleTree

end RenderTrust.Anchor
