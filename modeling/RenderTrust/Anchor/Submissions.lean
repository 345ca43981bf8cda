import RenderTrust.Anchor.Bookkeeping

/-!
# Batches on the chain and batches in the tables

A cycle writes to the chain first and to the tables afterwards, with any client that sends
the batch's root or raises before anything is sent. Every submission that was mined and reported
is logged with the batch the contract stored for it, if it did, and with whether its record was
saved.
-/
namespace RenderTrust.Anchor
open Lib.ByteString Lib.HashTree Lib.Keyed Lib.Runs Lib.Sha256

structure Submission where
  batchId : Option ℕ
  fetched : List CreditLedgerEntry
  recordId : UUID
  saved : Bool
  deriving DecidableEq, Repr

/-- The log is in `submissions`, the oldest first. -/
structure Audit where
  world : World Chain
  submissions : List Submission

def storedBatch (before after : Chain) : Option ℕ :=
  if before.contract.lastBatch < after.contract.lastBatch then some after.contract.lastBatch
  else none

def submitted (before after : World Chain) : Event Fate Foreign → List Submission
  | .cycle fetched (.reported _) recordId _ =>
      if before.chain.receipts.length < after.chain.receipts.length then
        [{ batchId := storedBatch before.chain after.chain
           fetched := fetched
           recordId := recordId
           saved := recordId ∈ after.db.anchors.map AnchorRecord.id }]
      else []
  | _ => []

section Chains
variable (hashOf : ℕ → String) (H : Bytes → Bytes) (client : ChainClient Chain Fate)
  (batchSize : ℕ)

def Audit.step (a : Audit) (event : Event Fate Foreign) : Option Audit :=
  (Anchor.step H client (foreign hashOf) batchSize a.world event).map
    fun w => ⟨w, a.submissions ++ submitted a.world w event⟩

/-- A submission that fails has not reached the chain. -/
def Heard (_ : Audit) : Event Fate Foreign → Prop
  | .cycle _ (.unseen _) _ _ => False
  | _ => True

instance (a : Audit) : (event : Event Fate Foreign) → Decidable (Heard a event)
  | .cycle _ (.unseen _) _ _ => inferInstanceAs (Decidable False)
  | .cycle _ .lost _ _ => inferInstanceAs (Decidable True)
  | .cycle _ (.reported _) _ _ => inferInstanceAs (Decidable True)
  | .add _ => inferInstanceAs (Decidable True)
  | .outside _ => inferInstanceAs (Decidable True)

/-- The contract has the batch, under its root and size. -/
def Submission.OnChain (s : Submission) (contract : LedgerAnchor) : Prop :=
  ∀ batchId, s.batchId = some batchId → ∃ root,
    AnchoringService.createMerkleRoot H s.fetched = .ok root ∧
      contract.Stores batchId root s.fetched.length

/-- The record is that of the submission. -/
structure AnchorRecord.Describes (record : AnchorRecord) (s : Submission) : Prop where
  id : record.id = s.recordId
  root : ∃ root, AnchoringService.createMerkleRoot H s.fetched = .ok root ∧
    record.merkleRoot = hex root
  count : record.entryCount = s.fetched.length

/-- No entry of the one is in the other. -/
def Submission.Apart (s t : Submission) : Prop :=
  ∀ e ∈ s.fetched, ∀ f ∈ t.fetched, e.id ≠ f.id

/-- Only what was not saved is submitted again, and the records are those of the
submissions that were saved. -/
structure Audited (a : Audit) : Prop where
  once : a.submissions.Pairwise fun earlier later => earlier.saved → earlier.Apart later
  records : List.Forall₂ (AnchorRecord.Describes H) a.world.db.anchors
    (a.submissions.filter Submission.saved)
  stored : ∀ s ∈ a.submissions, s.OnChain H a.world.chain.contract
  linked : ∀ s ∈ a.submissions, s.saved → ∀ e ∈ s.fetched,
    e.id ∈ a.world.db.entries.map CreditLedgerEntry.id ∧
      ∀ row ∈ a.world.db.entries, row.id = e.id → row.anchorId ≠ none

variable {hashOf H client batchSize}

instance (s t : Submission) : Decidable (s.Apart t) :=
  inferInstanceAs (Decidable (∀ _ ∈ _, ∀ _ ∈ _, _))

/-! ## One cycle -/

/-- What a cycle whose failed submissions are lost can do. -/
inductive Cycled (hashOf : ℕ → String) (H : Bytes → Bytes) (w : World Chain)
    (fetched : List CreditLedgerEntry) (recordId : UUID) (saves : Bool) :
    World Chain → List Submission → Prop
  | nothing : Cycled hashOf H w fetched recordId saves w []
  | reported {root : Bytes} {mined : Mined} {batchId : Option ℕ} {db : AnchorDb}
      (receipt : ChainReceipt)
      (built : AnchoringService.createMerkleRoot H fetched = .ok root)
      (batch : batchId = storedBatch w.chain (w.chain.mine hashOf root fetched.length mined).2)
      (after : db = if saves then
        w.db.saveAnchor ⟨recordId, hex root, receipt.txHash, receipt.blockNumber, fetched.length⟩
          (fetched.map CreditLedgerEntry.id) else w.db) :
      Cycled hashOf H w fetched recordId saves
        ⟨(w.chain.mine hashOf root fetched.length mined).2, db⟩
        [⟨batchId, fetched, recordId, saves⟩]

/-- A submission that fails without reaching the chain changes nothing. -/
theorem submitRoot_error (submits : client.Submits hashOf) {root : Bytes} (size : root.length = 32)
    {fate : Fate} {entryCount : ℕ} {chain chain' : Chain} {error : ChainError}
    (heard : ∀ mined, fate ≠ .unseen mined)
    (returned : client.submitRoot fate (hex root) entryCount chain = (.error error, chain')) :
    chain' = chain := by
  obtain sent | ⟨raised, before⟩ := submits root size fate entryCount chain
  · rw [sent] at returned
    cases fate with
    | lost => exact (Prod.mk.inj returned).2.symm
    | unseen mined => exact absurd rfl (heard mined)
    | reported mined => cases returned
  · rw [before] at returned
    exact (Prod.mk.inj returned).2.symm

theorem heard_fate {a : Audit} {fetched : List CreditLedgerEntry} {fate : Fate} {recordId : UUID}
    {saves : Bool} (heard : Heard a (.cycle fetched fate recordId saves)) :
    ∀ mined, fate ≠ .unseen mined := by
  rintro mined rfl
  exact heard.elim

/-- Every cycle that the world accepts is one of the two. -/
theorem cycled_of_heard (h32 : ∀ b, (H b).length = 32) (submits : client.Submits hashOf)
    {a : Audit} {fetched : List CreditLedgerEntry} {fate : Fate} {recordId : UUID} {saves : Bool}
    (fresh : recordId ∉ a.world.db.anchors.map AnchorRecord.id)
    (heard : Heard a (.cycle fetched fate recordId saves)) :
    Cycled hashOf H a.world fetched recordId saves
      (runOnce H client fetched fate recordId saves a.world).2
      (submitted a.world (runOnce H client fetched fate recordId saves a.world).2
        (.cycle fetched fate recordId saves)) := by
  have unlogged : submitted a.world a.world (.cycle fetched fate recordId saves) = [] := by
    cases fate with
    | reported mined => exact if_neg (lt_irrefl _)
    | lost => rfl
    | unseen mined => rfl
  rcases runOnce_cases H client fetched fate recordId saves a.world with
    ⟨chain, result, rfl | ⟨tree, answer, built, returned, unsaved⟩⟩ |
      ⟨rfl, tree, receipt, chain, ⟨built, returned⟩, result⟩
  · rw [result, unlogged]
    exact .nothing
  · rw [MerkleTree.rootHex] at returned
    cases answer with
    | error error =>
        obtain rfl := submitRoot_error submits (tree.root_length h32) (heard_fate heard) returned
        rw [result, unlogged]
        exact .nothing
    | ok receipt =>
        obtain rfl := unsaved rfl
        obtain ⟨mined, rfl, -, rfl⟩ := submits.ok (tree.root_length h32) returned
        have grown := a.world.chain.receipts_length_mine hashOf (tree.root H) fetched.length mined
        rw [result]
        simp only [submitted, if_pos grown, decide_eq_false fresh]
        exact .reported receipt (createMerkleRoot_of_new built) rfl rfl
  · rw [MerkleTree.rootHex] at returned
    obtain ⟨mined, rfl, -, rfl⟩ := submits.ok (tree.root_length h32) returned
    have grown := a.world.chain.receipts_length_mine hashOf (tree.root H) fetched.length mined
    have saved : recordId ∈ (a.world.db.saveAnchor (AnchorRecord.of H recordId tree receipt
        fetched.length) (fetched.map CreditLedgerEntry.id)).anchors.map AnchorRecord.id :=
      List.mem_map_of_mem (List.mem_append_right _ (List.mem_singleton_self _))
    rw [result]
    simp only [submitted, if_pos grown, decide_eq_true saved]
    exact .reported receipt (createMerkleRoot_of_new built) rfl rfl

/-- A batch that was stored is the last one. -/
theorem stores_storedBatch {chain : Chain} {root : Bytes} {entryCount batchId : ℕ} {mined : Mined}
    (stored : storedBatch chain (chain.mine hashOf root entryCount mined).2 = some batchId) :
    (chain.mine hashOf root entryCount mined).2.contract.Stores batchId root entryCount := by
  obtain ⟨more, ⟨⟩⟩ := Option.ite_none_right_eq_some.mp stored
  rcases chain.mine_cases hashOf root entryCount mined with
    ⟨_, contract, _⟩ | ⟨contract, event, anchored, next⟩
  · rw [contract] at more
    exact absurd more (lt_irrefl _)
  · obtain ⟨last, stores, rfl, _⟩ := LedgerAnchor.anchorRoot_eq_ok anchored
    rw [next]
    change contract.Stores contract.lastBatch root entryCount
    rw [last]
    exact stores

/-! ## Runs -/

theorem Audited.opening : Audited H ⟨⟨Chain.initial, ⟨[], []⟩⟩, []⟩ where
  once := .nil
  records := .nil
  stored := fun _ member => absurd member List.not_mem_nil
  linked := fun _ member => absurd member List.not_mem_nil

theorem Audited.outside {a : Audit} (h : Audited H a) (what : Foreign) :
    Audited H ⟨{ a.world with chain := foreign hashOf what a.world.chain }, a.submissions⟩ where
  once := h.once
  records := h.records
  stored := by
    intro s member batchId some
    obtain ⟨root, built, stores⟩ := h.stored s member batchId some
    exact ⟨root, built, Chain.stores_mine stores _ _ _⟩
  linked := h.linked

theorem Audited.add {a : Audit} (h : Audited H a) {e : CreditLedgerEntry}
    (fresh : e.id ∉ a.world.db.entries.map CreditLedgerEntry.id) :
    Audited H ⟨{ a.world with db := a.world.db.add e }, a.submissions⟩ where
  once := h.once
  records := h.records
  stored := h.stored
  linked := by
    intro s member saved old inside
    obtain ⟨known, linked⟩ := h.linked s member saved old inside
    constructor
    · exact List.map_subset _ (List.subset_append_left _ _) known
    · intro row found same
      rcases List.mem_append.mp found with before | new
      · exact linked row before same
      · rw [List.mem_singleton.mp new] at same
        rw [same] at fresh
        exact absurd known fresh

/-- A row of a saved submission is there and linked, and stays so. -/
theorem linked_saveAnchor {db : AnchorDb} {record : AnchorRecord} {entryIds : List ℤ} {id : ℤ}
    (known : id ∈ db.entries.map CreditLedgerEntry.id)
    (linked : id ∈ entryIds ∨ ∀ row ∈ db.entries, row.id = id → row.anchorId ≠ none) :
    id ∈ (db.saveAnchor record entryIds).entries.map CreditLedgerEntry.id ∧
      ∀ row ∈ (db.saveAnchor record entryIds).entries, row.id = id → row.anchorId ≠ none := by
  constructor
  · rwa [AnchorDb.ids_saveAnchor]
  · intro row member same
    obtain ⟨old, inside, rfl⟩ := List.mem_map.mp member
    rw [AnchorDb.link_id] at same
    unfold AnchorDb.link
    split
    · exact Option.some_ne_none _
    · rename_i outside
      rcases linked with picked | before
      · rw [same] at outside
        exact absurd picked outside
      · exact before old inside same

theorem Audited.cycle {a : Audit} (h : Audited H a) {fetched : List CreditLedgerEntry}
    {recordId : UUID} {saves : Bool} {w : World Chain} {log : List Submission}
    (free : ∀ e ∈ fetched, e ∈ a.world.db.entries ∧ e.anchorId = none)
    (cycled : Cycled hashOf H a.world fetched recordId saves w log) :
    Audited H ⟨w, a.submissions ++ log⟩ := by
  cases cycled with
  | nothing =>
      rw [List.append_nil]
      exact h
  | @reported root mined batchId db receipt built batch after =>
      constructor
      · apply List.pairwise_append.mpr
        refine ⟨h.once, List.pairwise_singleton _ _, ?_⟩
        intro earlier member new last saved e he f hf same
        rw [List.mem_singleton.mp last] at hf
        obtain ⟨inside, unanchored⟩ := free f hf
        exact (h.linked earlier member saved e he).2 f inside same.symm unanchored
      · rw [List.filter_append]
        cases saves with
        | false =>
            rw [after]
            simp only [List.filter_singleton, Bool.cond_false, List.append_nil]
            exact h.records
        | true =>
            rw [after]
            apply List.rel_append h.records
            exact .cons ⟨rfl, ⟨root, built, rfl⟩, rfl⟩ .nil
      · intro s member b some
        rcases List.mem_append.mp member with old | new
        · obtain ⟨root', built', stores⟩ := h.stored s old b some
          exact ⟨root', built', Chain.stores_mine stores _ _ _⟩
        · rw [List.mem_singleton.mp new] at some ⊢
          change batchId = Option.some b at some
          rw [batch] at some
          exact ⟨root, built, stores_storedBatch some⟩
      · intro s member saved e he
        rcases List.mem_append.mp member with old | new
        · obtain ⟨known, linked⟩ := h.linked s old saved e he
          cases saves with
          | false =>
              rw [after]
              exact ⟨known, linked⟩
          | true =>
              rw [after]
              exact linked_saveAnchor known (.inr linked)
        · rw [List.mem_singleton.mp new] at saved he
          change saves = true at saved
          change e ∈ fetched at he
          rw [after, saved]
          exact linked_saveAnchor (List.mem_map_of_mem (free e he).1)
            (.inl (List.mem_map_of_mem he))

theorem Audited.step (h32 : ∀ b, (H b).length = 32) (submits : client.Submits hashOf)
    {a a' : Audit} {event : Event Fate Foreign} (h : Audited H a) (heard : Heard a event)
    (moved : a.step hashOf H client batchSize event = some a') : Audited H a' := by
  obtain ⟨w, stepped, rfl⟩ := Option.map_eq_some_iff.mp moved
  obtain ⟨possible, rfl⟩ := step_eq_some stepped
  cases event with
  | add e =>
      simp only [submitted, List.append_nil]
      exact h.add possible.2
  | outside what =>
      simp only [submitted, List.append_nil]
      exact h.outside what
  | cycle fetched fate recordId saves =>
      obtain ⟨_, _, free, fresh⟩ := possible
      exact h.cycle free (cycled_of_heard h32 submits fresh heard)

/-- In every run in which a submission that fails has not reached the chain. -/
theorem audited_of_run (h32 : ∀ b, (H b).length = 32) (submits : client.Submits hashOf)
    {events : List (Event Fate Foreign)} {a : Audit}
    (run : Run (Audit.step hashOf H client batchSize) Heard
      ⟨⟨Chain.initial, ⟨[], []⟩⟩, []⟩ events a) : Audited H a :=
  Run.invariant (I := Audited H) (fun _ _ _ kept heard moved => kept.step h32 submits heard moved)
    run .opening

end Chains

abbrev auditStep (client : ChainClient Chain Fate) : Audit → Event Fate Foreign → Option Audit :=
  Audit.step txHash sha256 client 100

/-- The two entries, submitted and then submitted again: only the second save succeeds. -/
def savedLate : List (Event Fate Foreign) :=
  sampleBatch.map .add ++
    [.cycle sampleBatch (.reported ⟨1, 1714555800, true⟩) 7 false,
      .cycle sampleBatch (.reported ⟨2, 1714556100, true⟩) 8 true]

theorem audited_of_run_savedLate : ∃ a,
    Run (auditStep sendingClient) Heard ⟨⟨Chain.initial, ⟨[], []⟩⟩, []⟩ savedLate a ∧
      a.world.db.anchors ≠ [] ∧ Audited sha256 a := by
  have accepted : (exec (auditStep sendingClient) Heard ⟨⟨Chain.initial, ⟨[], []⟩⟩, []⟩
      savedLate).any (fun a => decide (a.world.db.anchors ≠ [])) := by decide +kernel
  obtain ⟨a, run, recorded⟩ := run_of_any accepted
  exact ⟨a, run, of_decide_eq_true recorded,
    audited_of_run length_sha256 sendingClient_sends.submits run⟩

/-- Both batches of the two entries are on chain. -/
theorem stored_twice : ¬ ∀ client : ChainClient Chain Fate, client.Submits txHash →
    ∀ (events : List (Event Fate Foreign)) (a : Audit),
      Run (auditStep client) Heard ⟨⟨Chain.initial, ⟨[], []⟩⟩, []⟩ events a →
        a.submissions.Pairwise fun s t => s.batchId ≠ none → t.batchId ≠ none → s.Apart t := by
  intro claim
  have accepted : (exec (auditStep sendingClient) Heard ⟨⟨Chain.initial, ⟨[], []⟩⟩, []⟩
      savedLate).any (fun a => decide (¬ a.submissions.Pairwise fun s t =>
        s.batchId ≠ none → t.batchId ≠ none → s.Apart t)) := by decide +kernel
  obtain ⟨a, run, ended⟩ := run_of_any accepted
  exact of_decide_eq_true ended (claim sendingClient sendingClient_sends.submits savedLate a run)

end RenderTrust.Anchor
