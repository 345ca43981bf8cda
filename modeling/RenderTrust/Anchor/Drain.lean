import RenderTrust.Anchor.Bookkeeping

/-!
# Draining the backlog

Consecutive cycles against a repository that enforces the schema of `anchor_records`: a record that
breaks a constraint is not saved, and the cycle fails.
-/
namespace RenderTrust.Anchor
open Lib.ByteString Lib.HashTree Lib.Keyed Lib.Sha256

namespace AnchorDb

/-- The primary key, `tx_hash UNIQUE`, and what the columns hold. -/
def Accepts (db : AnchorDb) (record : AnchorRecord) : Prop :=
  record.id ∉ db.anchors.map AnchorRecord.id ∧
    record.txHash ∉ db.anchors.map AnchorRecord.txHash ∧
    record.merkleRoot.length ≤ 66 ∧ record.txHash.length ≤ 66 ∧
    record.blockNumber < 2 ^ 31 ∧ record.entryCount < 2 ^ 31

instance (db : AnchorDb) (record : AnchorRecord) : Decidable (db.Accepts record) :=
  inferInstanceAs (Decidable (_ ∧ _))

/-- The keys of the two tables. -/
structure Schema (db : AnchorDb) : Prop where
  entryIds : DistinctKeys CreditLedgerEntry.id db.entries
  recordIds : DistinctKeys AnchorRecord.id db.anchors
  txHashes : DistinctKeys AnchorRecord.txHash db.anchors
  links : db.Linked

def backlog (db : AnchorDb) : ℕ := (db.entries.filter fun e => e.anchorId = none).length

/-- `fetch_unanchored`, with any order. -/
def Fetches (batchSize : ℕ) (db : AnchorDb) (fetched : List CreditLedgerEntry) : Prop :=
  fetched.length = min batchSize db.backlog ∧ (fetched.map CreditLedgerEntry.id).Nodup ∧
    ∀ e ∈ fetched, e ∈ db.entries ∧ e.anchorId = none

instance (batchSize : ℕ) (db : AnchorDb) (fetched : List CreditLedgerEntry) :
    Decidable (db.Fetches batchSize fetched) := inferInstanceAs (Decidable (_ ∧ _))

end AnchorDb

structure Cycle (φ : Type) where
  fetched : List CreditLedgerEntry
  fate : φ
  recordId : UUID

section Cycles
variable {σ φ : Type} (H : Bytes → Bytes) (client : ChainClient σ φ) (batchSize : ℕ)

def saves (w : World σ) (c : Cycle φ) : Bool :=
  match (AnchoringService.anchorBatch H client c.fate c.recordId c.fetched w.chain).1 with
  | .ok record => w.db.Accepts record
  | .error _ => false

def cycle (w : World σ) (c : Cycle φ) : Except AnchorError Unit × World σ :=
  runOnce H client c.fetched c.fate c.recordId (saves H client w c) w

def results : World σ → List (Cycle φ) → List (Except AnchorError Unit)
  | _, [] => []
  | w, c :: cycles => (cycle H client w c).1 :: results (cycle H client w c).2 cycles

def final (w : World σ) (cycles : List (Cycle φ)) : World σ :=
  cycles.foldl (fun w c => (cycle H client w c).2) w

/-- Each cycle is given what the repository returns, and an identifier that is not in use. -/
def Scheduled : World σ → List (Cycle φ) → Prop
  | _, [] => True
  | w, c :: cycles => w.db.Fetches batchSize c.fetched ∧
      c.recordId ∉ w.db.anchors.map AnchorRecord.id ∧ Scheduled (cycle H client w c).2 cycles

instance decidableScheduled : (w : World σ) → (cycles : List (Cycle φ)) →
    Decidable (Scheduled H client batchSize w cycles)
  | _, [] => inferInstanceAs (Decidable True)
  | w, c :: cycles =>
      let _ := decidableScheduled (cycle H client w c).2 cycles
      inferInstanceAs (Decidable (_ ∧ _ ∧ _))

structure Drained (w : World σ) (cycles : List (Cycle φ)) : Prop where
  succeeds : ∀ result ∈ results H client w cycles, result = .ok ()
  linked : ∀ e ∈ (final H client w cycles).db.entries,
    ∃! record, record ∈ (final H client w cycles).db.anchors ∧ e.anchorId = some record.id

end Cycles

/-! ## One cycle -/

namespace AnchorDb
variable {db : AnchorDb} {record : AnchorRecord} {fetched : List CreditLedgerEntry} {batchSize : ℕ}

theorem Schema.saveAnchor (schema : db.Schema) (accepted : db.Accepts record)
    (entryIds : List ℤ) : (db.saveAnchor record entryIds).Schema where
  entryIds := by
    rw [DistinctKeys, ids_saveAnchor]
    exact schema.entryIds
  recordIds := schema.recordIds.append_singleton accepted.1
  txHashes := schema.txHashes.append_singleton accepted.2.1
  links := schema.links.saveAnchor record entryIds

/-- What is saved leaves the backlog. -/
theorem backlog_saveAnchor (record : AnchorRecord) (schema : db.Schema)
    (fetches : db.Fetches batchSize fetched) :
    (db.saveAnchor record (fetched.map CreditLedgerEntry.id)).backlog =
      db.backlog - fetched.length := by
  obtain ⟨-, once, free⟩ := fetches
  have left : ∀ e : CreditLedgerEntry,
      decide ((link record.id (fetched.map CreditLedgerEntry.id) e).anchorId = none) =
        (!decide (e.id ∈ fetched.map CreditLedgerEntry.id) && decide (e.anchorId = none)) := by
    intro e
    unfold link
    by_cases picked : e.id ∈ fetched.map CreditLedgerEntry.id
    · rw [if_pos picked, decide_eq_true picked]
      rfl
    · rw [if_neg picked, decide_eq_false picked]
      rfl
  have waiting : ∀ e ∈ fetched, e ∈ db.entries.filter fun e => e.anchorId = none := by
    intro e member
    obtain ⟨inside, unanchored⟩ := free e member
    simp [inside, unanchored]
  have taken := (schema.entryIds.filter fun e => decide (e.anchorId = none)).picked_perm waiting
    (once.of_map _)
  have parts := List.length_eq_length_filter_add (l := db.entries.filter fun e => e.anchorId = none)
    fun e => decide (e.id ∈ fetched.map CreditLedgerEntry.id)
  rw [taken.length_eq] at parts
  have rest : (db.saveAnchor record (fetched.map CreditLedgerEntry.id)).backlog =
      ((db.entries.filter fun e => e.anchorId = none).filter
        fun e => !decide (e.id ∈ fetched.map CreditLedgerEntry.id)).length := by
    unfold backlog saveAnchor
    rw [List.filter_map, List.length_map, List.filter_filter]
    exact congrArg List.length (List.filter_congr fun e _ => left e)
  rw [rest, backlog]
  omega

/-- A record of a batch is refused for its transaction or for its size only. -/
theorem accepts_of_iff {H : Bytes → Bytes} (h32 : ∀ b, (H b).length = 32) {recordId : UUID}
    (fresh : recordId ∉ db.anchors.map AnchorRecord.id) (tree : MerkleTree)
    (receipt : ChainReceipt) (entryCount : ℕ) :
    db.Accepts (AnchorRecord.of H recordId tree receipt entryCount) ↔
      receipt.txHash ∉ db.anchors.map AnchorRecord.txHash ∧ receipt.txHash.length ≤ 66 ∧
        receipt.blockNumber < 2 ^ 31 ∧ entryCount < 2 ^ 31 := by
  have short : (tree.rootHex H).length ≤ 66 := by
    rw [MerkleTree.rootHex, length_hex, tree.root_length h32]
    decide
  simp only [Accepts, AnchorRecord.of, fresh, short, not_false_eq_true, true_and]

theorem Schema.linked (schema : db.Schema) (empty : db.backlog = 0) :
    ∀ e ∈ db.entries, ∃! record, record ∈ db.anchors ∧ e.anchorId = some record.id := by
  intro e member
  cases anchored : e.anchorId with
  | none =>
      have waiting : e ∈ db.entries.filter fun e => e.anchorId = none := by
        simp [member, anchored]
      have gone := List.length_eq_zero_iff.mp empty
      rw [gone] at waiting
      cases waiting
  | some recordId =>
      obtain ⟨record, inside, same⟩ := schema.links e member recordId anchored
      refine ⟨record, ⟨inside, congrArg some same.symm⟩, ?_⟩
      rintro other ⟨inside', same'⟩
      have ids : other.id = record.id := (Option.some.inj same').symm.trans same.symm
      exact List.inj_on_of_nodup_map schema.recordIds inside' inside ids

end AnchorDb

section Cycles
variable {σ φ : Type} {H : Bytes → Bytes} {client : ChainClient σ φ} {batchSize : ℕ} {w : World σ}
  {c : Cycle φ} {cycles : List (Cycle φ)}

/-- A cycle whose submission is answered. -/
theorem cycle_eq {tree : MerkleTree} {receipt : ChainReceipt} {chain : σ}
    (built : MerkleTree.new (leaves c.fetched) = .ok tree)
    (submitted : client.submitRoot c.fate (tree.rootHex H) c.fetched.length w.chain =
      (.ok receipt, chain)) :
    cycle H client w c =
      if w.db.Accepts (AnchorRecord.of H c.recordId tree receipt c.fetched.length) then
        (.ok (), ⟨chain, w.db.saveAnchor
          (AnchorRecord.of H c.recordId tree receipt c.fetched.length)
            (c.fetched.map CreditLedgerEntry.id)⟩)
      else (.error .repository, ⟨chain, w.db⟩) := by
  have some : c.fetched ≠ [] := by
    intro empty
    rw [empty] at built
    cases built
  have anchored : AnchoringService.anchorBatch H client c.fate c.recordId c.fetched w.chain =
      (.ok (AnchorRecord.of H c.recordId tree receipt c.fetched.length), chain) := by
    simp only [AnchoringService.anchorBatch, if_neg some, built, submitted]
    rfl
  simp only [cycle, runOnce, saves, if_neg some, anchored, decide_eq_true_eq]

theorem Drained.cons (first : (cycle H client w c).1 = .ok ())
    (rest : Drained H client (cycle H client w c).2 cycles) : Drained H client w (c :: cycles) where
  succeeds result member := by
    obtain rfl | later := List.mem_cons.mp member
    · exact first
    · exact rest.succeeds result later
  linked := rest.linked

theorem Drained.head (drained : Drained H client w (c :: cycles)) :
    (cycle H client w c).1 = .ok () :=
  drained.succeeds _ List.mem_cons_self

theorem Drained.tail (drained : Drained H client w (c :: cycles)) :
    Drained H client (cycle H client w c).2 cycles where
  succeeds result member := drained.succeeds result (List.mem_cons_of_mem _ member)
  linked := drained.linked

/-! ## Runs of cycles -/

/-- What one cycle of a run that drains does to a backlog: its batch is saved. -/
def Saves (H : Bytes → Bytes) (client : ChainClient σ φ) (w : World σ) (c : Cycle φ) : Prop :=
  ∃ chain record, w.db.Accepts record ∧ cycle H client w c =
    (.ok (), ⟨chain, w.db.saveAnchor record (c.fetched.map CreditLedgerEntry.id)⟩)

/-- The cycles that take a backlog of `n`. -/
def cyclesFor (batchSize n : ℕ) : ℕ := (n + batchSize - 1) / batchSize

theorem le_cyclesFor (positive : 0 < batchSize) (n : ℕ) :
    n ≤ cyclesFor batchSize n * batchSize := by
  have whole := Nat.div_add_mod (n + batchSize - 1) batchSize
  have rest := Nat.mod_lt (n + batchSize - 1) positive
  rw [Nat.mul_comm] at whole
  unfold cyclesFor
  omega

theorem lt_cyclesFor_iff (positive : 0 < batchSize) (k n : ℕ) :
    k < cyclesFor batchSize n ↔ k * batchSize < n := by
  rw [cyclesFor, Nat.lt_iff_add_one_le, Nat.le_div_iff_mul_le positive, Nat.succ_mul]
  omega

theorem lt_length_iff (positive : 0 < batchSize) {n : ℕ}
    (count : cycles.length = cyclesFor batchSize n) (k : ℕ) :
    k < cycles.length ↔ k * batchSize < n := by
  rw [count, lt_cyclesFor_iff positive]

/-- The first of the cycles, while anything is left. -/
theorem exists_first (positive : 0 < batchSize) {n : ℕ} (waiting : 0 < n)
    (count : cycles.length = cyclesFor batchSize n) : ∃ c rest, cycles = c :: rest := by
  refine List.exists_cons_of_length_pos ((lt_length_iff positive count 0).mpr ?_)
  rwa [Nat.zero_mul]

theorem cyclesFor_eq_succ (positive : 0 < batchSize) {n : ℕ} (waiting : 0 < n) :
    cyclesFor batchSize n = cyclesFor batchSize (n - min batchSize n) + 1 := by
  unfold cyclesFor
  obtain one | more := Nat.le_total n batchSize
  · have last : n - min batchSize n + batchSize - 1 < batchSize := by omega
    have first : n + batchSize - 1 = n - 1 + batchSize := by omega
    rw [Nat.div_eq_of_lt last, first, Nat.add_div_right _ positive, Nat.div_eq_of_lt (by omega)]
  · have first : n + batchSize - 1 = n - min batchSize n + batchSize - 1 + batchSize := by omega
    rw [first, Nat.add_div_right _ positive]

/-- If each cycle saves its batch, the cycles that the backlog takes drain it. -/
theorem drained_of_saves (positive : 0 < batchSize) (ready : World σ → Prop)
    (fits : Cycle φ → Prop)
    (step : ∀ w c, ready w → w.db.Schema → 0 < w.db.backlog → fits c →
      w.db.Fetches batchSize c.fetched → c.recordId ∉ w.db.anchors.map AnchorRecord.id →
        Saves H client w c ∧ ready (cycle H client w c).2)
    (scheduled : Scheduled H client batchSize w cycles) (start : ready w) (schema : w.db.Schema)
    (fit : ∀ c ∈ cycles, fits c) (count : cycles.length = cyclesFor batchSize w.db.backlog) :
    Drained H client w cycles := by
  induction cycles generalizing w with
  | nil =>
      have empty : w.db.backlog = 0 := by
        have bound := le_cyclesFor positive w.db.backlog
        rw [← count, List.length_nil, Nat.zero_mul] at bound
        omega
      exact ⟨fun _ member => absurd member List.not_mem_nil, schema.linked empty⟩
  | cons c cycles ih =>
      obtain ⟨fetches, fresh, rest⟩ := scheduled
      have waiting : 0 < w.db.backlog := by
        rw [← Nat.zero_mul batchSize, ← lt_length_iff positive count]
        exact Nat.succ_pos _
      obtain ⟨⟨chain, record, accepted, saved⟩, ready'⟩ :=
        step w c start schema waiting (fit c List.mem_cons_self) fetches fresh
      have left := AnchorDb.backlog_saveAnchor record schema fetches
      apply Drained.cons
      · rw [saved]
      · rw [saved] at rest ready' ⊢
        refine ih rest ready' (schema.saveAnchor accepted _)
          (fun c member => fit c (List.mem_cons_of_mem _ member)) ?_
        rw [List.length_cons, cyclesFor_eq_succ positive waiting, ← fetches.1, ← left] at count
        exact Nat.succ.inj count

theorem exists_tree (fetches : w.db.Fetches batchSize c.fetched)
    (positive : 0 < batchSize) (waiting : 0 < w.db.backlog) :
    ∃ tree, MerkleTree.new (leaves c.fetched) = .ok tree := by
  have some : leaves c.fetched ≠ [] := by
    intro empty
    have size := fetches.1
    rw [List.map_eq_nil_iff.mp empty, List.length_nil] at size
    omega
  exact ⟨_, new_of_ne_nil some⟩

end Cycles

/-! ## The client that does nothing -/

def zeroHash : String := "0x" ++ String.ofList (List.replicate 64 '0')

/-- The backlog is one batch at most, and no batch was saved before. -/
def OneBatch (batchSize : ℕ) (db : AnchorDb) : Prop :=
  db.backlog = 0 ∨
    db.backlog ≤ batchSize ∧ db.backlog < 2 ^ 31 ∧ zeroHash ∉ db.anchors.map AnchorRecord.txHash

instance (batchSize : ℕ) (db : AnchorDb) : Decidable (OneBatch batchSize db) :=
  inferInstanceAs (Decidable (_ ∨ _))

section NoOp
variable {σ : Type} {H : Bytes → Bytes} {batchSize : ℕ} {w : World σ} {c : Cycle Unit}
  {cycles : List (Cycle Unit)}

theorem cycle_noOp (h32 : ∀ b, (H b).length = 32) (positive : 0 < batchSize)
    (waiting : 0 < w.db.backlog) (fetches : w.db.Fetches batchSize c.fetched)
    (fresh : c.recordId ∉ w.db.anchors.map AnchorRecord.id) :
    ∃ record : AnchorRecord, record.txHash = zeroHash ∧
      (w.db.Accepts record ↔ zeroHash ∉ w.db.anchors.map AnchorRecord.txHash ∧
        min batchSize w.db.backlog < 2 ^ 31) ∧
      cycle H (NoOpChainClient.client σ) w c =
        if w.db.Accepts record then
          (.ok (), ⟨w.chain, w.db.saveAnchor record (c.fetched.map CreditLedgerEntry.id)⟩)
        else (.error .repository, w) := by
  obtain ⟨tree, built⟩ := exists_tree fetches positive waiting
  have submitted : (NoOpChainClient.client σ).submitRoot c.fate (tree.rootHex H) c.fetched.length
      w.chain = (.ok ⟨zeroHash, 0⟩, w.chain) := rfl
  refine ⟨_, rfl, ?_, cycle_eq built submitted⟩
  rw [AnchorDb.accepts_of_iff h32 fresh, fetches.1]
  have short : zeroHash.length ≤ 66 := by decide
  simp [short]

/-- A first cycle that succeeds has saved its batch under the hash of zeros. -/
theorem Drained.first_noOp (h32 : ∀ b, (H b).length = 32) (positive : 0 < batchSize)
    (waiting : 0 < w.db.backlog)
    (scheduled : Scheduled H (NoOpChainClient.client σ) batchSize w (c :: cycles))
    (drained : Drained H (NoOpChainClient.client σ) w (c :: cycles)) :
    zeroHash ∉ w.db.anchors.map AnchorRecord.txHash ∧ min batchSize w.db.backlog < 2 ^ 31 ∧
      ∃ record : AnchorRecord, record.txHash = zeroHash ∧ cycle H (NoOpChainClient.client σ) w c =
        (.ok (), ⟨w.chain, w.db.saveAnchor record (c.fetched.map CreditLedgerEntry.id)⟩) := by
  obtain ⟨fetches, fresh, -⟩ := scheduled
  obtain ⟨record, hash, accepts, result⟩ := cycle_noOp h32 positive waiting fetches fresh
  have accepted : w.db.Accepts record := by
    by_contra refused
    have first := drained.head
    rw [result, if_neg refused] at first
    cases first
  obtain ⟨unused, fits⟩ := accepts.mp accepted
  rw [if_pos accepted] at result
  exact ⟨unused, fits, record, hash, result⟩

/-- The second batch would have the hash of the first. -/
theorem Drained.le_noOp (h32 : ∀ b, (H b).length = 32) (positive : 0 < batchSize)
    (schema : w.db.Schema) (waiting : 0 < w.db.backlog)
    (count : (c :: cycles).length = cyclesFor batchSize w.db.backlog)
    (scheduled : Scheduled H (NoOpChainClient.client σ) batchSize w (c :: cycles))
    (drained : Drained H (NoOpChainClient.client σ) w (c :: cycles)) :
    w.db.backlog ≤ batchSize := by
  by_contra more
  have second : 0 < cycles.length := by
    have two : 1 < (c :: cycles).length := by
      rw [lt_length_iff positive count, Nat.one_mul]
      exact not_le.mp more
    exact Nat.lt_of_succ_lt_succ two
  obtain ⟨c', rest, rfl⟩ := List.exists_cons_of_length_pos second
  obtain ⟨-, -, record, hash, result⟩ := drained.first_noOp h32 positive waiting scheduled
  obtain ⟨fetches, -, later⟩ := scheduled
  have left := AnchorDb.backlog_saveAnchor record schema fetches
  have size := fetches.1
  have drained' := drained.tail
  rw [result] at later drained'
  obtain ⟨unused, -⟩ := drained'.first_noOp h32 positive (by dsimp only; omega) later
  refine unused (List.mem_map.mpr ⟨record, ?_, hash⟩)
  exact List.mem_append_right _ (List.mem_singleton_self record)

/-- A batch that is saved takes the hash that every other batch would have. -/
theorem drained_noOp_iff (h32 : ∀ b, (H b).length = 32) (positive : 0 < batchSize)
    (schema : w.db.Schema) (count : cycles.length = cyclesFor batchSize w.db.backlog)
    (scheduled : Scheduled H (NoOpChainClient.client σ) batchSize w cycles) :
    Drained H (NoOpChainClient.client σ) w cycles ↔ OneBatch batchSize w.db := by
  constructor
  · intro drained
    obtain none | waiting := Nat.eq_zero_or_pos w.db.backlog
    · exact .inl none
    obtain ⟨c, rest, rfl⟩ := exists_first positive waiting count
    have one := drained.le_noOp h32 positive schema waiting count scheduled
    obtain ⟨unused, fits, -⟩ := drained.first_noOp h32 positive waiting scheduled
    exact .inr ⟨one, by omega, unused⟩
  · intro one
    refine drained_of_saves positive (fun w => OneBatch batchSize w.db) (fun _ => True) ?_
      scheduled one schema (fun _ _ => trivial) count
    intro w c one schema waiting _ fetches fresh
    obtain empty | ⟨le, small, unused⟩ := one
    · omega
    obtain ⟨record, -, accepts, result⟩ := cycle_noOp h32 positive waiting fetches fresh
    have accepted := accepts.mpr ⟨unused, by omega⟩
    have left := AnchorDb.backlog_saveAnchor record schema fetches
    have size := fetches.1
    rw [if_pos accepted] at result
    refine ⟨⟨w.chain, record, accepted, result⟩, .inl ?_⟩
    rw [result]
    dsimp only
    omega

end NoOp

/-! ## The chain -/

/-- The hashes of the next `n` transactions. -/
structure FreshHashes (hashOf : ℕ → String) (w : World Chain) (n : ℕ) : Prop where
  distinct : ∀ j < n, ∀ i < j,
    hashOf (w.chain.receipts.length + i) ≠ hashOf (w.chain.receipts.length + j)
  unused : ∀ i < n, hashOf (w.chain.receipts.length + i) ∉ w.db.anchors.map AnchorRecord.txHash
  size : ∀ i < n, (hashOf (w.chain.receipts.length + i)).length ≤ 66

/-- The chain mines every transaction of the cycles, and reports it. -/
def MinedBy (c : Cycle Fate) : Prop :=
  ∃ mined : Mined, c.fate = .reported mined ∧ mined.blockNumber < 2 ^ 31

section Chains
variable {hashOf : ℕ → String} {H : Bytes → Bytes} {client : ChainClient Chain Fate}
  {batchSize : ℕ} {w : World Chain} {c : Cycle Fate} {cycles : List (Cycle Fate)}

theorem mine_receipt (hashOf : ℕ → String) (chain : Chain) (root : Bytes) (entryCount : ℕ)
    (mined : Mined) :
    (chain.mine hashOf root entryCount mined).1.transactionHash = hashOf chain.receipts.length ∧
      (chain.mine hashOf root entryCount mined).1.blockNumber = mined.blockNumber := by
  unfold Chain.mine
  split
  · exact ⟨rfl, rfl⟩
  · exact ⟨rfl, rfl⟩

theorem cycle_sent (h32 : ∀ b, (H b).length = 32) (sends : client.Sends hashOf)
    (positive : 0 < batchSize) (size : (hashOf w.chain.receipts.length).length ≤ 66)
    (mines : MinedBy c) (waiting : 0 < w.db.backlog) (fetches : w.db.Fetches batchSize c.fetched)
    (fresh : c.recordId ∉ w.db.anchors.map AnchorRecord.id) :
    ∃ (record : AnchorRecord) (chain : Chain), record.txHash = hashOf w.chain.receipts.length ∧
      chain.receipts.length = w.chain.receipts.length + 1 ∧
      (w.db.Accepts record ↔
        hashOf w.chain.receipts.length ∉ w.db.anchors.map AnchorRecord.txHash ∧
          min batchSize w.db.backlog < 2 ^ 31) ∧
      cycle H client w c =
        if w.db.Accepts record then
          (.ok (), ⟨chain, w.db.saveAnchor record (c.fetched.map CreditLedgerEntry.id)⟩)
        else (.error .repository, ⟨chain, w.db⟩) := by
  obtain ⟨mined, reported, block⟩ := mines
  obtain ⟨tree, built⟩ := exists_tree fetches positive waiting
  obtain ⟨hash, number⟩ := mine_receipt hashOf w.chain (tree.root H) c.fetched.length mined
  have receipts := Chain.receipts_mine hashOf w.chain (tree.root H) c.fetched.length mined
  have submitted : client.submitRoot c.fate (tree.rootHex H) c.fetched.length w.chain =
        (.ok ⟨hashOf w.chain.receipts.length, mined.blockNumber⟩,
          (w.chain.mine hashOf (tree.root H) c.fetched.length mined).2) := by
    rw [reported, MerkleTree.rootHex, ← hash, ← number]
    exact sends (tree.root H) (tree.root_length h32) (.reported mined) c.fetched.length w.chain
  refine ⟨_, _, rfl, ?_, ?_, cycle_eq built submitted⟩
  · rw [receipts, List.length_append, List.length_singleton]
  · rw [AnchorDb.accepts_of_iff h32 fresh, fetches.1]
    simp only [size, block, true_and]

/-- One more record, and one hash less. -/
theorem FreshHashes.next {n : ℕ} (fresh : FreshHashes hashOf w (n + 1)) {chain : Chain}
    {record : AnchorRecord} (hash : record.txHash = hashOf w.chain.receipts.length)
    (length : chain.receipts.length = w.chain.receipts.length + 1) (entryIds : List ℤ) :
    FreshHashes hashOf ⟨chain, w.db.saveAnchor record entryIds⟩ n := by
  have shift : ∀ i, chain.receipts.length + i = w.chain.receipts.length + (i + 1) := by omega
  constructor
  · intro j bound i less
    simp only [shift]
    exact fresh.distinct (j + 1) (Nat.succ_lt_succ bound) (i + 1) (Nat.succ_lt_succ less)
  · intro i bound
    have other := fresh.distinct (i + 1) (Nat.succ_lt_succ bound) 0 (Nat.succ_pos i)
    have before := fresh.unused (i + 1) (Nat.succ_lt_succ bound)
    simp only [shift, AnchorDb.saveAnchor, List.map_append, List.mem_append, List.map_singleton,
      List.mem_singleton, hash, not_or]
    exact ⟨before, other.symm⟩
  · intro i bound
    simp only [shift]
    exact fresh.size (i + 1) (Nat.succ_lt_succ bound)

/-- A chain with fresh hashes takes any number of batches. -/
theorem drained_sent_iff (h32 : ∀ b, (H b).length = 32) (sends : client.Sends hashOf)
    (positive : 0 < batchSize) (schema : w.db.Schema)
    (count : cycles.length = cyclesFor batchSize w.db.backlog)
    (fresh : FreshHashes hashOf w cycles.length) (mines : ∀ c ∈ cycles, MinedBy c)
    (scheduled : Scheduled H client batchSize w cycles) :
    Drained H client w cycles ↔ min batchSize w.db.backlog < 2 ^ 31 := by
  constructor
  · intro drained
    obtain none | waiting := Nat.eq_zero_or_pos w.db.backlog
    · omega
    obtain ⟨c, rest, rfl⟩ := exists_first positive waiting count
    obtain ⟨fetches, unused, -⟩ := scheduled
    obtain ⟨record, chain, -, -, accepts, result⟩ := cycle_sent h32 sends positive
      (fresh.size 0 (Nat.succ_pos _)) (mines c List.mem_cons_self) waiting fetches unused
    by_contra large
    have first := drained.head
    rw [result, if_neg fun accepted => large (accepts.mp accepted).2] at first
    cases first
  · intro small
    rw [count] at fresh
    refine drained_of_saves positive
      (fun w => min batchSize w.db.backlog < 2 ^ 31 ∧
        FreshHashes hashOf w (cyclesFor batchSize w.db.backlog)) MinedBy
      ?_ scheduled ⟨small, fresh⟩ schema mines count
    rintro w c ⟨small, fresh⟩ schema waiting mined fetches unused
    rw [cyclesFor_eq_succ positive waiting] at fresh
    obtain ⟨record, chain, hash, length, accepts, result⟩ := cycle_sent h32 sends positive
      (fresh.size 0 (Nat.succ_pos _)) mined waiting fetches unused
    have accepted := accepts.mpr ⟨fresh.unused 0 (Nat.succ_pos _), small⟩
    have left := AnchorDb.backlog_saveAnchor record schema fetches
    rw [if_pos accepted] at result
    refine ⟨⟨chain, record, accepted, result⟩, ?_⟩
    rw [result]
    dsimp only
    rw [left, fetches.1]
    exact ⟨by omega, fresh.next hash length _⟩

end Chains

/-- The cycles that a backlog takes drain it with any client that sends its roots to a chain with
fresh hashes, and with the client that does nothing if it is one batch and the first. (No batch is
too large for its column.) -/
theorem drained_iff (batchSize : ℕ) (positive : 0 < batchSize) (db : AnchorDb)
    (schema : db.Schema) :
    (∀ (σ : Type) (chain : σ) (cycles : List (Cycle Unit)),
      cycles.length = cyclesFor batchSize db.backlog →
      Scheduled sha256 (NoOpChainClient.client σ) batchSize ⟨chain, db⟩ cycles →
        (Drained sha256 (NoOpChainClient.client σ) ⟨chain, db⟩ cycles ↔ OneBatch batchSize db)) ∧
    ∀ (hashOf : ℕ → String) (client : ChainClient Chain Fate) (chain : Chain)
      (cycles : List (Cycle Fate)), client.Sends hashOf →
      cycles.length = cyclesFor batchSize db.backlog →
      FreshHashes hashOf ⟨chain, db⟩ cycles.length → (∀ c ∈ cycles, MinedBy c) →
      Scheduled sha256 client batchSize ⟨chain, db⟩ cycles →
        (Drained sha256 client ⟨chain, db⟩ cycles ↔ min batchSize db.backlog < 2 ^ 31) := by
  constructor
  · intro σ chain cycles count scheduled
    exact drained_noOp_iff length_sha256 positive schema count scheduled
  · intro hashOf client chain cycles sends count fresh mines scheduled
    exact drained_sent_iff length_sha256 sends positive schema count fresh mines scheduled

/-! ## Two entries, one at a time -/

def sampleDb : AnchorDb := ⟨sampleBatch, []⟩

def oneByOne {φ : Type} (fate : φ) : List (Cycle φ) :=
  sampleBatch.mapIdx fun i e => ⟨[e], fate, i⟩

theorem sample_schema : sampleDb.Schema where
  entryIds := by
    unfold DistinctKeys
    decide +kernel
  recordIds := List.nodup_nil
  txHashes := List.nodup_nil
  links := by
    intro e member recordId linked
    have none : ∀ e ∈ sampleDb.entries, e.anchorId = none := by decide +kernel
    rw [none e member] at linked
    cases linked

theorem drained_oneByOne :
    ¬ Drained sha256 (NoOpChainClient.client Unit) ⟨(), sampleDb⟩ (oneByOne ()) ∧
      Drained sha256 sendingClient ⟨Chain.initial, sampleDb⟩
        (oneByOne (.reported ⟨1, 0, true⟩)) := by
  obtain ⟨noOp, sent⟩ := drained_iff 1 (by decide) sampleDb sample_schema
  constructor
  · rw [noOp Unit () (oneByOne ()) (by decide) (by decide +kernel)]
    decide +kernel
  · have fresh : FreshHashes txHash ⟨Chain.initial, sampleDb⟩ 2 :=
      ⟨by decide +kernel, fun _ _ => List.not_mem_nil, by decide +kernel⟩
    have mines : ∀ c ∈ oneByOne (.reported ⟨1, 0, true⟩), MinedBy c := by
      intro c member
      obtain ⟨i, inside, rfl⟩ := List.mem_mapIdx.mp member
      exact ⟨⟨1, 0, true⟩, rfl, by decide⟩
    have scheduled : Scheduled sha256 sendingClient 1 ⟨Chain.initial, sampleDb⟩
        (oneByOne (.reported ⟨1, 0, true⟩)) := by
      decide +kernel
    rw [sent txHash sendingClient Chain.initial (oneByOne (.reported ⟨1, 0, true⟩))
      sendingClient_sends (by decide) fresh mines scheduled]
    decide +kernel

/-- The second cycle is refused, and so would every later one be. -/
theorem noOp_fails_twice :
    sampleDb.backlog = 2 ∧
      Scheduled sha256 (NoOpChainClient.client Unit) 1 ⟨(), sampleDb⟩ (oneByOne ()) ∧
      results sha256 (NoOpChainClient.client Unit) ⟨(), sampleDb⟩ (oneByOne ()) =
        [.ok (), .error .repository] := by
  decide +kernel

end RenderTrust.Anchor
