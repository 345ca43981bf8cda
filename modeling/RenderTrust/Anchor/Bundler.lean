import RenderTrust.Anchor.Service
import RenderTrust.Lib.Runs

/-!
# Runs of the bundler

Cycles of `_run_once`, entries added between them, and whatever else happens on the
chain, in any order. A fetch returns distinct unanchored entries, in any order.
-/
namespace RenderTrust.Anchor
open Lib.ByteString Lib.HashTree Lib.Runs Lib.Sha256

inductive Event (φ ψ : Type) where
  | add (e : CreditLedgerEntry)
  | cycle (fetched : List CreditLedgerEntry) (fate : φ) (recordId : UUID) (saves : Bool)
  | outside (what : ψ)

section Runs
variable {σ φ ψ : Type} (H : Bytes → Bytes) (client : ChainClient σ φ) (outside : ψ → σ → σ)
  (batchSize : ℕ)

def Possible (w : World σ) : Event φ ψ → Prop
  | .add e => e.anchorId = none ∧ e.id ∉ w.db.entries.map CreditLedgerEntry.id
  | .cycle fetched _ recordId _ =>
      fetched.length ≤ batchSize ∧ (fetched.map CreditLedgerEntry.id).Nodup ∧
        (∀ e ∈ fetched, e ∈ w.db.entries ∧ e.anchorId = none) ∧
        recordId ∉ w.db.anchors.map AnchorRecord.id
  | .outside _ => True

instance (w : World σ) : (event : Event φ ψ) → Decidable (Possible batchSize w event)
  | .add _ => inferInstanceAs (Decidable (_ ∧ _))
  | .cycle _ _ _ _ => inferInstanceAs (Decidable (_ ∧ _ ∧ _ ∧ _))
  | .outside _ => inferInstanceAs (Decidable True)

def happen (w : World σ) : Event φ ψ → World σ
  | .add e => { w with db := w.db.add e }
  | .cycle fetched fate recordId saves => (runOnce H client fetched fate recordId saves w).2
  | .outside what => { w with chain := outside what w.chain }

def step (w : World σ) (event : Event φ ψ) : Option (World σ) :=
  if Possible batchSize w event then some (happen H client outside w event) else none

variable {H client outside batchSize}

theorem step_eq_some {w w' : World σ} {event : Event φ ψ}
    (h : step H client outside batchSize w event = some w') :
    Possible batchSize w event ∧ w' = happen H client outside w event := by
  unfold step at h
  split at h
  · rename_i possible
    exact ⟨possible, (Option.some.inj h).symm⟩
  · cases h

end Runs

/-! ## Records and the chain -/

/-- A call of `anchorRoot` by anyone else. -/
structure Foreign where
  root : Bytes
  entryCount : ℕ
  mined : Mined

section Chains
variable (hashOf : ℕ → String) (H : Bytes → Bytes) (client : ChainClient Chain Fate)

def foreign (what : Foreign) (chain : Chain) : Chain :=
  (chain.mine hashOf what.root what.entryCount what.mined).2

/-- The transaction of a saved batch does not fail on chain. -/
def Confirmed (w : World Chain) : Event Fate Foreign → Prop
  | .cycle fetched (.reported mined) _ true =>
      ∀ root ∈ (AnchoringService.createMerkleRoot H fetched).toOption,
        (client.submitRoot (.reported mined) (hex root) fetched.length w.chain).1.isOk →
          (w.chain.mine hashOf root fetched.length mined).1.status ≠ 0
  | _ => True

instance (w : World Chain) :
    (event : Event Fate Foreign) → Decidable (Confirmed hashOf H client w event)
  | .cycle _ (.reported _) _ true => inferInstanceAs (Decidable (∀ _ ∈ _, _ → _))
  | .cycle _ (.reported _) _ false => inferInstanceAs (Decidable True)
  | .cycle _ .lost _ _ => inferInstanceAs (Decidable True)
  | .cycle _ (.unseen _) _ _ => inferInstanceAs (Decidable True)
  | .add _ => inferInstanceAs (Decidable True)
  | .outside _ => inferInstanceAs (Decidable True)

/-- The transaction of the record stored its root and its number of entries. -/
def AnchorRecord.OnChain (record : AnchorRecord) (chain : Chain) : Prop :=
  ∃ root, hex root = record.merkleRoot ∧ chain.Stored record.txHash root record.entryCount

structure Truthful (w : World Chain) : Prop where
  records : ∀ record ∈ w.db.anchors, record.OnChain w.chain
  links : w.db.Linked

variable {hashOf H client}

theorem Truthful.of_chain {w : World Chain} (h : Truthful w) {chain : Chain}
    (kept : ∀ record ∈ w.db.anchors, record.OnChain w.chain → record.OnChain chain) :
    Truthful { w with chain } where
  records := fun record member => kept record member (h.records record member)
  links := h.links

theorem AnchorRecord.OnChain.mine {record : AnchorRecord} {chain : Chain}
    (h : record.OnChain chain) (root : Bytes) (entryCount : ℕ) (mined : Mined) :
    record.OnChain (chain.mine hashOf root entryCount mined).2 := by
  obtain ⟨root', same, stored⟩ := h
  exact ⟨root', same, stored.mine root entryCount mined⟩

theorem createMerkleRoot_of_new {fetched : List CreditLedgerEntry} {tree : MerkleTree}
    (h : MerkleTree.new (leaves fetched) = .ok tree) :
    AnchoringService.createMerkleRoot H fetched = .ok (tree.root H) := by
  have some : fetched ≠ [] := by
    rintro rfl
    cases h
  rw [AnchoringService.createMerkleRoot, if_neg some, h]
  rfl

/-- A submission leaves the records true, whatever becomes of it. -/
theorem AnchorRecord.OnChain.submitRoot (h32 : ∀ b, (H b).length = 32)
    (submits : client.Submits hashOf) {record : AnchorRecord} {chain : Chain}
    (h : record.OnChain chain) (fate : Fate) (tree : MerkleTree) (entryCount : ℕ) :
    record.OnChain (client.submitRoot fate (tree.rootHex H) entryCount chain).2 := by
  rw [MerkleTree.rootHex]
  obtain unsent | ⟨mined, sent⟩ := submits.after (tree.root_length h32)
  · rw [unsent]
    exact h
  · rw [sent]
    exact h.mine _ _ mined

theorem Truthful.add {w : World Chain} (h : Truthful w) {e : CreditLedgerEntry}
    (unanchored : e.anchorId = none) : Truthful { w with db := w.db.add e } where
  records := h.records
  links := h.links.add unanchored

theorem Truthful.saved {w : World Chain} (h : Truthful w) {tree : MerkleTree}
    {receipt : ChainReceipt} {chain : Chain} {recordId : UUID} {n : ℕ} {entryIds : List ℤ}
    (stored : chain.Stored receipt.txHash (tree.root H) n)
    (kept : ∀ record ∈ w.db.anchors, record.OnChain w.chain → record.OnChain chain) :
    Truthful ⟨chain, w.db.saveAnchor (AnchorRecord.of H recordId tree receipt n) entryIds⟩ where
  records := by
    intro record member
    rcases List.mem_append.mp member with before | new
    · exact kept record before (h.records record before)
    · obtain rfl := List.mem_singleton.mp new
      exact ⟨tree.root H, rfl, stored⟩
  links := h.links.saveAnchor _ _

theorem Truthful.cycle (h32 : ∀ b, (H b).length = 32) (submits : client.Submits hashOf)
    {w : World Chain} (h : Truthful w) {fetched : List CreditLedgerEntry} {fate : Fate}
    {recordId : UUID} {saves : Bool}
    (confirmed : Confirmed hashOf H client w (.cycle fetched fate recordId saves)) :
    Truthful (runOnce H client fetched fate recordId saves w).2 := by
  rcases runOnce_cases H client fetched fate recordId saves w with
    ⟨chain, result, same | ⟨tree, answer, _, returned, _⟩⟩ |
      ⟨rfl, tree, receipt, chain, anchored, result⟩
  · rw [result, same]
    exact h
  · rw [result]
    refine h.of_chain fun record _ kept => ?_
    have sent := kept.submitRoot h32 submits fate tree fetched.length
    rwa [returned] at sent
  · have returned := anchored.submitted
    rw [MerkleTree.rootHex] at returned
    obtain ⟨mined, rfl, rfl, rfl⟩ := submits.ok (tree.root_length h32) returned
    have succeeded : (w.chain.mine hashOf (tree.root H) fetched.length mined).1.status ≠ 0 := by
      apply confirmed
      · rw [createMerkleRoot_of_new anchored.tree_eq]
        exact Option.mem_some_self _
      · rw [returned]
        rfl
    rw [result]
    exact h.saved (Chain.mine_stored succeeded) fun record _ kept => kept.mine _ _ mined

theorem Truthful.step (h32 : ∀ b, (H b).length = 32) (submits : client.Submits hashOf)
    {batchSize : ℕ} {w w' : World Chain} {event : Event Fate Foreign} (h : Truthful w)
    (confirmed : Confirmed hashOf H client w event)
    (moved : Anchor.step H client (foreign hashOf) batchSize w event = some w') :
    Truthful w' := by
  obtain ⟨possible, rfl⟩ := step_eq_some moved
  cases event with
  | add e => exact h.add possible.1
  | cycle fetched fate recordId saves => exact h.cycle h32 submits confirmed
  | outside what => exact h.of_chain fun record _ kept => kept.mine _ _ what.mined

theorem Truthful.initial : Truthful ⟨Chain.initial, ⟨[], []⟩⟩ where
  records := fun _ member => absurd member List.not_mem_nil
  links := fun _ member => absurd member List.not_mem_nil

end Chains

/-! ## One batch -/

def txHash (position : ℕ) : String := "0x" ++ hex (toBigEndian 32 position)

/-- The attributes of a signed transaction up to web3 6, and from 7 on. -/
def signedTransactionV6 : List String := ["rawTransaction", "hash", "r", "s", "v"]

abbrev web3Step (signed : List String) :
    World Chain → Event Fate Foreign → Option (World Chain) :=
  step sha256 (Web3ChainClient.client txHash signed) (foreign txHash) 100

/-- A client whose transactions are sent. -/
abbrev sendingClient : ChainClient Chain Fate := Web3ChainClient.client txHash signedTransactionV6

theorem sendingClient_sends : sendingClient.Sends txHash :=
  Web3ChainClient.client_sends txHash (by decide)

abbrev noOpStep : World Unit → Event Unit Empty → Option (World Unit) :=
  step sha256 (NoOpChainClient.client Unit) (fun _ chain => chain) 100

/-- Two entries, anchored in the order in which this fetch returned them. -/
def batchOf {φ ψ : Type} (fetched : List CreditLedgerEntry) (fate : φ) : List (Event φ ψ) :=
  sampleBatch.map .add ++ [.cycle fetched fate 7 true]

/-- With the attribute, a transaction that runs out of gas has a receipt like any other and its
batch is recorded. -/
theorem failed_batch_recorded : ¬ ∀ (events : List (Event Fate Foreign)) (w : World Chain),
    Run (web3Step signedTransactionV6) Always ⟨Chain.initial, ⟨[], []⟩⟩ events w →
      ∀ record ∈ w.db.anchors, record.OnChain w.chain := by
  intro claim
  have accepted : (exec (web3Step signedTransactionV6) Always ⟨Chain.initial, ⟨[], []⟩⟩
      (batchOf sampleBatch (.reported ⟨1, 1714555800, false⟩))).any (fun w =>
        decide (w.db.anchors ≠ [] ∧ ∀ receipt ∈ w.chain.receipts, receipt.logs = [])) := by
    decide +kernel
  obtain ⟨w, run, ended⟩ := run_of_any accepted
  obtain ⟨recorded, unlogged⟩ := of_decide_eq_true ended
  obtain ⟨record, rest, split⟩ := List.exists_cons_of_ne_nil recorded
  obtain ⟨root, _, receipt, member, _, event, logged, _⟩ :=
    claim _ w run record (by rw [split]; exact List.mem_cons_self)
  rw [unlogged receipt member] at logged
  exact List.not_mem_nil logged

end RenderTrust.Anchor
