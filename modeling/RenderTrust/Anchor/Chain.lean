import RenderTrust.Anchor.Contract

/-!
# `core/ledger/anchor/chain.py`

The clients, and the chain behind the one that uses web3. A transaction may be lost,
be mined unseen by its sender, or be mined and reported; once mined, its receipt has
status 0 when the call reverted or ran out of gas. Which attributes a signed transaction has is up
to the version of web3.
-/
namespace RenderTrust.Anchor
open Lib.ByteString

inductive ChainError where
  | invalidHex
  | invalidArgument
  | unavailable
  | transactionNotFound
  | keyError (key : String)
  | attributeError (name : String)
  deriving DecidableEq, Repr

structure ChainReceipt where
  txHash : String
  blockNumber : ℕ
  deriving DecidableEq, Repr

structure ChainVerification where
  verified : Bool
  onChainRoot : String
  deriving DecidableEq, Repr

/-- A client over a chain in state `σ`; `φ` says how a submission fares. -/
structure ChainClient (σ φ : Type) where
  submitRoot : φ → String → ℕ → σ → Except ChainError ChainReceipt × σ
  verifyRoot : σ → String → String → Except ChainError ChainVerification

structure TxReceipt where
  transactionHash : String
  blockNumber : ℕ
  status : ℕ
  logs : List RootAnchored

structure Chain where
  contract : LedgerAnchor
  receipts : List TxReceipt

def Chain.initial : Chain := ⟨LedgerAnchor.initial, []⟩

structure Mined where
  blockNumber : ℕ
  timestamp : ℕ
  enoughGas : Bool
  deriving DecidableEq, Repr

inductive Fate where
  | lost
  | unseen (mined : Mined)
  | reported (mined : Mined)
  deriving DecidableEq, Repr

inductive Arg where
  | bytes32 (value : Bytes)
  | uint256 (value : ℕ)

/-- The arguments of the event, under the names the ABI file gives them. -/
def RootAnchored.args (event : RootAnchored) : List (String × Arg) :=
  [("root", .bytes32 event.root), ("batchId", .uint256 event.batchId),
    ("entryCount", .uint256 event.entryCount)]

section Web3
/-! `hashOf` gives the hash of the transaction mined at each position of the chain. -/
variable (hashOf : ℕ → String)

/-- Run `anchorRoot` in the next transaction. -/
def Chain.mine (chain : Chain) (root : Bytes) (entryCount : ℕ) (mined : Mined) :
    TxReceipt × Chain :=
  let transactionHash := hashOf chain.receipts.length
  let reverted : TxReceipt := ⟨transactionHash, mined.blockNumber, 0, []⟩
  match mined.enoughGas, chain.contract.anchorRoot root entryCount mined.timestamp with
  | true, .ok (contract, event) =>
      let receipt : TxReceipt := ⟨transactionHash, mined.blockNumber, 1, [event]⟩
      (receipt, ⟨contract, chain.receipts ++ [receipt]⟩)
  | _, _ => (reverted, { chain with receipts := chain.receipts ++ [reverted] })

/-- Send `anchorRoot` in a transaction and wait for its receipt. -/
def Chain.send (chain : Chain) (root : Bytes) (entryCount : ℕ) :
    Fate → Except ChainError TxReceipt × Chain
  | .lost => (.error .unavailable, chain)
  | .unseen mined => (.error .unavailable, (chain.mine hashOf root entryCount mined).2)
  | .reported mined =>
      let (receipt, chain) := chain.mine hashOf root entryCount mined
      (.ok receipt, chain)

/-- `signed` are the attributes of a signed transaction, of which `rawTransaction` is sent. -/
def Chain.sendSigned (signed : List String) (chain : Chain) (root : Bytes) (entryCount : ℕ)
    (fate : Fate) : Except ChainError TxReceipt × Chain :=
  if "rawTransaction" ∈ signed then chain.send hashOf root entryCount fate
  else (.error (.attributeError "rawTransaction"), chain)

def TxReceipt.toChainReceipt (receipt : TxReceipt) : ChainReceipt :=
  ⟨receipt.transactionHash, receipt.blockNumber⟩

namespace Web3ChainClient
variable (signed : List String)

def removePrefix : List Char → List Char
  | '0' :: 'x' :: digits => digits
  | '0' :: 'X' :: digits => digits
  | digits => digits

/-- `Web3.to_bytes(hexstr=…)`. -/
def toBytes (hexstr : String) : Option Bytes :=
  let digits := removePrefix hexstr.toList
  unhexPairs (if digits.length % 2 = 0 then digits else '0' :: digits)

def rjust (bytes : Bytes) : Bytes := List.replicate (32 - bytes.length) 0 ++ bytes

def submitRoot (fate : Fate) (merkleRootHex : String) (entryCount : ℕ) (chain : Chain) :
    Except ChainError ChainReceipt × Chain :=
  match toBytes merkleRootHex with
  | none => (.error .invalidHex, chain)
  | some rootBytes =>
      let root := rjust rootBytes
      -- the ABI encoder takes no more than 32 bytes
      if 32 < root.length then (.error .invalidArgument, chain)
      else
        let (receipt, chain) := chain.sendSigned hashOf signed root entryCount fate
        (receipt.map TxReceipt.toChainReceipt, chain)

theorem removePrefix_hexPair (bytes : Bytes) :
    removePrefix (bytes.flatMap hexPair) = bytes.flatMap hexPair := by
  cases bytes with
  | nil => rfl
  | cons byte bytes =>
      have low := digitChar_ne (show byte.toNat % 16 < 16 by omega)
      rw [List.flatMap_cons, hexPair, List.cons_append, List.cons_append]
      unfold removePrefix
      split
      · rename_i same
        exact absurd (List.cons.inj (List.cons.inj same).2).1 low.1
      · rename_i same
        exact absurd (List.cons.inj (List.cons.inj same).2).1 low.2
      · rfl

theorem toBytes_hex (bytes : Bytes) : toBytes (hex bytes) = some bytes := by
  have digits : removePrefix (hex bytes).toList = bytes.flatMap hexPair := by
    rw [hex, String.toList_ofList, removePrefix_hexPair]
  simp only [toBytes, digits, if_pos (even_length_hexPair bytes), unhexPairs_hexPair]

theorem submitRoot_hex {root : Bytes} (h : root.length = 32) (fate : Fate) (entryCount : ℕ)
    (chain : Chain) :
    submitRoot hashOf signed fate (hex root) entryCount chain =
      ((chain.sendSigned hashOf signed root entryCount fate).1.map TxReceipt.toChainReceipt,
        (chain.sendSigned hashOf signed root entryCount fate).2) := by
  have whole : rjust root = root := by
    rw [rjust, h]
    rfl
  have fits : ¬ 32 < (rjust root).length := by
    rw [whole, h]
    exact lt_irrefl 32
  rw [submitRoot, toBytes_hex]
  simp only [if_neg fits]
  simp only [whole]

def verifyRoot (chain : Chain) (txHash expectedRootHex : String) :
    Except ChainError ChainVerification :=
  match chain.receipts.find? (fun receipt => receipt.transactionHash = txHash) with
  | none => .error .transactionNotFound
  | some receipt => match receipt.logs with
    | [] => .ok ⟨false, ""⟩
    | event :: _ => match event.args.lookup "merkleRoot" with
      | some (.bytes32 root) => .ok ⟨hex root == expectedRootHex, hex root⟩
      | _ => .error (.keyError "merkleRoot")

def client : ChainClient Chain Fate := ⟨submitRoot hashOf signed, verifyRoot⟩

end Web3ChainClient

def Chain.submit (chain : Chain) (root : Bytes) (entryCount : ℕ) (fate : Fate) :
    Except ChainError ChainReceipt × Chain :=
  let (receipt, chain) := chain.send hashOf root entryCount fate
  (receipt.map TxReceipt.toChainReceipt, chain)

/-- The client sends a root in a transaction. -/
def ChainClient.Sends (client : ChainClient Chain Fate) : Prop :=
  ∀ root : Bytes, root.length = 32 → ∀ fate entryCount chain,
    client.submitRoot fate (hex root) entryCount chain = chain.submit hashOf root entryCount fate

/-- The client sends a root in a transaction, or raises before anything is sent. -/
def ChainClient.Submits (client : ChainClient Chain Fate) : Prop :=
  ∀ root : Bytes, root.length = 32 → ∀ fate entryCount chain,
    client.submitRoot fate (hex root) entryCount chain = chain.submit hashOf root entryCount fate ∨
      ∃ error, client.submitRoot fate (hex root) entryCount chain = (.error error, chain)

theorem ChainClient.Sends.submits {client : ChainClient Chain Fate} (h : client.Sends hashOf) :
    client.Submits hashOf :=
  fun root size fate entryCount chain => .inl (h root size fate entryCount chain)

namespace ChainClient.Submits
variable {hashOf} {client : ChainClient Chain Fate} {root : Bytes} {fate : Fate} {entryCount : ℕ}
  {chain chain' : Chain}

/-- A receipt is that of the transaction that was mined. -/
theorem ok {receipt : ChainReceipt} (h : client.Submits hashOf) (size : root.length = 32)
    (returned : client.submitRoot fate (hex root) entryCount chain = (.ok receipt, chain')) :
    ∃ mined, fate = .reported mined ∧
      receipt = (chain.mine hashOf root entryCount mined).1.toChainReceipt ∧
      chain' = (chain.mine hashOf root entryCount mined).2 := by
  obtain sent | ⟨error, raised⟩ := h root size fate entryCount chain
  · rw [sent] at returned
    cases fate with
    | lost => cases returned
    | unseen mined => cases returned
    | reported mined =>
        obtain ⟨same, after⟩ := Prod.mk.inj returned
        exact ⟨mined, rfl, (Except.ok.inj same).symm, after.symm⟩
  · rw [raised] at returned
    cases returned

/-- At most the one transaction is mined. -/
theorem after (h : client.Submits hashOf) (size : root.length = 32) :
    (client.submitRoot fate (hex root) entryCount chain).2 = chain ∨
      ∃ mined, (client.submitRoot fate (hex root) entryCount chain).2 =
        (chain.mine hashOf root entryCount mined).2 := by
  obtain sent | ⟨error, raised⟩ := h root size fate entryCount chain
  · rw [sent]
    cases fate with
    | lost => exact .inl rfl
    | unseen mined => exact .inr ⟨mined, rfl⟩
    | reported mined => exact .inr ⟨mined, rfl⟩
  · rw [raised]
    exact .inl rfl

end ChainClient.Submits

namespace Web3ChainClient
variable {signed : List String}

theorem client_sends (available : "rawTransaction" ∈ signed) :
    (client hashOf signed).Sends hashOf := by
  intro root size fate entryCount chain
  change submitRoot hashOf signed fate (hex root) entryCount chain = _
  rw [submitRoot_hex hashOf signed size, Chain.sendSigned, if_pos available]
  rfl

end Web3ChainClient
end Web3

namespace NoOpChainClient

def submitRoot {σ : Type} (_ : Unit) (_ : String) (_ : ℕ) (chain : σ) :
    Except ChainError ChainReceipt × σ :=
  (.ok ⟨"0x" ++ String.ofList (List.replicate 64 '0'), 0⟩, chain)

def verifyRoot {σ : Type} (_ : σ) (_ expectedRootHex : String) :
    Except ChainError ChainVerification :=
  .ok ⟨true, expectedRootHex⟩

def client (σ : Type) : ChainClient σ Unit := ⟨submitRoot, verifyRoot⟩

end NoOpChainClient

/-! ## What a transaction leaves -/

variable {hashOf : ℕ → String}

/-- The transaction of this hash stored a batch of this root and size. -/
def Chain.Stored (chain : Chain) (txHash : String) (root : Bytes) (entryCount : ℕ) : Prop :=
  ∃ receipt ∈ chain.receipts, receipt.transactionHash = txHash ∧ ∃ event ∈ receipt.logs,
    event.root = root ∧ event.entryCount = entryCount ∧
      chain.contract.Stores event.batchId root entryCount

theorem Chain.mine_cases (hashOf : ℕ → String) (chain : Chain) (root : Bytes) (entryCount : ℕ)
    (mined : Mined) :
    ((chain.mine hashOf root entryCount mined).1.status = 0 ∧
        (chain.mine hashOf root entryCount mined).2.contract = chain.contract ∧
        (chain.mine hashOf root entryCount mined).2.receipts =
          chain.receipts ++ [(chain.mine hashOf root entryCount mined).1]) ∨
      ∃ contract event, chain.contract.anchorRoot root entryCount mined.timestamp =
          .ok (contract, event) ∧
        chain.mine hashOf root entryCount mined =
          (⟨hashOf chain.receipts.length, mined.blockNumber, 1, [event]⟩,
            ⟨contract, chain.receipts ++
              [⟨hashOf chain.receipts.length, mined.blockNumber, 1, [event]⟩]⟩) := by
  unfold mine
  split
  · rename_i contract event gas anchored
    exact .inr ⟨contract, event, anchored, rfl⟩
  · exact .inl ⟨rfl, rfl, rfl⟩

theorem Chain.receipts_mine (hashOf : ℕ → String) (chain : Chain) (root : Bytes)
    (entryCount : ℕ) (mined : Mined) :
    (chain.mine hashOf root entryCount mined).2.receipts =
      chain.receipts ++ [(chain.mine hashOf root entryCount mined).1] := by
  obtain ⟨_, _, receipts⟩ | ⟨contract, event, _, next⟩ :=
    chain.mine_cases hashOf root entryCount mined
  · exact receipts
  · rw [next]

theorem Chain.receipts_length_mine (hashOf : ℕ → String) (chain : Chain) (root : Bytes)
    (entryCount : ℕ) (mined : Mined) :
    chain.receipts.length < (chain.mine hashOf root entryCount mined).2.receipts.length := by
  rw [Chain.receipts_mine, List.length_append]
  exact Nat.lt_succ_self _

theorem Chain.stores_mine {chain : Chain} {b : ℕ} {root : Bytes} {entryCount : ℕ}
    (h : chain.contract.Stores b root entryCount) (root' : Bytes) (entryCount' : ℕ)
    (mined : Mined) :
    (chain.mine hashOf root' entryCount' mined).2.contract.Stores b root entryCount := by
  rcases chain.mine_cases hashOf root' entryCount' mined with
    ⟨_, contract, _⟩ | ⟨contract, event', anchored, next⟩
  · rw [contract]
    exact h
  · rw [next]
    exact h.anchorRoot anchored

/-- What a transaction stored stays stored. -/
theorem Chain.Stored.mine {chain : Chain} {txHash : String} {root : Bytes} {entryCount : ℕ}
    (h : chain.Stored txHash root entryCount) (root' : Bytes) (entryCount' : ℕ) (mined : Mined) :
    (chain.mine hashOf root' entryCount' mined).2.Stored txHash root entryCount := by
  obtain ⟨receipt, member, hash, event, logged, sameRoot, sameCount, stores⟩ := h
  refine ⟨receipt, ?_, hash, event, logged, sameRoot, sameCount, Chain.stores_mine stores _ _ _⟩
  rcases chain.mine_cases hashOf root' entryCount' mined with
    ⟨_, _, receipts⟩ | ⟨contract, event', _, next⟩
  · rw [receipts]
    exact List.mem_append_left _ member
  · rw [next]
    exact List.mem_append_left _ member

theorem Chain.mine_stored {chain : Chain} {root : Bytes} {entryCount : ℕ} {mined : Mined}
    (succeeded : (chain.mine hashOf root entryCount mined).1.status ≠ 0) :
    (chain.mine hashOf root entryCount mined).2.Stored
      (chain.mine hashOf root entryCount mined).1.transactionHash root entryCount := by
  rcases chain.mine_cases hashOf root entryCount mined with
    ⟨failed, _, _⟩ | ⟨contract, event, anchored, next⟩
  · exact absurd failed succeeded
  · obtain ⟨_, stores, rfl, _⟩ := LedgerAnchor.anchorRoot_eq_ok anchored
    rw [next]
    exact ⟨_, List.mem_append_right _ (List.mem_singleton_self _), rfl, _,
      List.mem_singleton_self _, rfl, rfl, stores⟩

end RenderTrust.Anchor
