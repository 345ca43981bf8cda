import RenderTrust.Anchor.Bundler
import RenderTrust.Anchor.RollupProofs
import RenderTrust.Lib.Keyed
import RenderTrust.Lib.Tasks

/-!
# Bundlers of `rollup_anchor/bundler.py`

Any number of processes run `main` over one table and one contract. Rows are added meanwhile, anyone
may call the contract, and a process may end at any point and be started again. A log keeps what
each transaction was sent for.
-/
namespace RenderTrust.RollupAnchor
open Anchor (Chain ChainError Fate Foreign signedTransactionV6)
open Anchor.Web3ChainClient (toBytes toBytes_hex)
open Lib.ByteString Lib.HashTree Lib.Keyed Lib.Runs Lib.Sha256 Lib.Tasks

/-- A row of `ledger_entries`. -/
structure LedgerEntry where
  id : ℤ
  sha256 : String
  anchored : Bool
  anchorTx : Option String
  deriving DecidableEq, Repr

structure UnanchoredEntry where
  id : ℤ
  sha256 : String
  deriving DecidableEq, Repr

def getUnanchoredEntries (batchSize : ℕ) (rows : List LedgerEntry) : List UnanchoredEntry :=
  ((orderBy LedgerEntry.id (rows.filter fun row => row.anchored = false)).take batchSize).map
    fun row => ⟨row.id, row.sha256⟩

def mark (entryIds : List ℤ) (txHash : String) (row : LedgerEntry) : LedgerEntry :=
  if row.id ∈ entryIds then { row with anchored := true, anchorTx := some txHash } else row

def updateAnchoredEntries (entryIds : List ℤ) (txHash : String) (rows : List LedgerEntry) :
    List LedgerEntry :=
  rows.map (mark entryIds txHash)

/-- `fate` says how the transaction fares; the status of its receipt is not looked at. -/
def anchorToBlockchain (hashOf : ℕ → String) (signed : List String) (fate : Fate)
    (merkleRoot : String) (entryCount : ℕ) (chain : Chain) : Except ChainError String × Chain :=
  match toBytes merkleRoot with
  | none => (.error .invalidHex, chain)
  | some root =>
      if root.length ≠ 32 then (.error .invalidArgument, chain)
      else
        let (receipt, chain) := chain.sendSigned hashOf signed root entryCount fate
        (receipt.map Anchor.TxReceipt.transactionHash, chain)

/-- A transaction that was mined: its place on the chain, and what it was sent for. -/
structure Sent where
  position : ℕ
  merkleRoot : String
  entryCount : ℕ
  deriving DecidableEq, Repr

/-- The log of what was sent, if it was mined. -/
def logged (merkleRoot : String) (entryCount : ℕ) (before after : Chain) : List Sent :=
  if before.receipts.length < after.receipts.length then
    [⟨before.receipts.length, merkleRoot, entryCount⟩]
  else []

/-- The table, the chain, and the log of the transactions. -/
structure Shared where
  rows : List LedgerEntry
  chain : Chain
  sent : List Sent

/-- Where a process is in the body of the loop of `main`. -/
inductive Progress where
  | begun
  | fetched (entries : List UnanchoredEntry)
  | anchored (entries : List UnanchoredEntry) (txHash : String)
  deriving DecidableEq

inductive Action where
  | fetch
  | anchor (fate : Fate)
  | update
  -- an exception, or the end of the process
  | fail

def leavesOf (entries : List UnanchoredEntry) : List String := entries.map UnanchoredEntry.sha256

section Bundlers
variable (H : Bytes → Bytes) (hashOf : ℕ → String) (signed : List String) (batchSize : ℕ)

def main (s : Shared) : Action → Progress → Option (Shared × Progress)
  | .fetch, .begun =>
      let entries := getUnanchoredEntries batchSize s.rows
      some (s, if entries = [] then .begun else .fetched entries)
  | .anchor fate, .fetched entries =>
      let merkleRoot := (MerkleTree.new H (leavesOf entries)).getRoot H
      let (outcome, chain) :=
        anchorToBlockchain hashOf signed fate merkleRoot entries.length s.chain
      let sent := s.sent ++ logged merkleRoot entries.length s.chain chain
      match outcome with
      | .ok txHash => some ({ s with chain, sent }, .anchored entries txHash)
      | .error _ => some ({ s with chain, sent }, .begun)
  | .update, .anchored entries txHash =>
      let rows := updateAnchoredEntries (entries.map UnanchoredEntry.id) txHash s.rows
      some ({ s with rows }, .begun)
  | .fail, _ => some (s, .begun)
  | _, _ => none

/-- A new row, or a call of the contract by anyone else. -/
inductive Change where
  | add (id : ℤ) (sha256 : String)
  | call (what : Foreign)

def change (s : Shared) : Change → Option Shared
  | .add id sha256 =>
      if id ∈ s.rows.map LedgerEntry.id then none
      else some { s with rows := s.rows ++ [⟨id, sha256, false, none⟩] }
  | .call what =>
      some { s with chain := (s.chain.mine hashOf what.root what.entryCount what.mined).2 }

def bundlers (ι : Type) : Program ι Shared Progress Action Change where
  act _ action s progress := main H hashOf signed batchSize s action progress
  change what s := change hashOf s what

variable {H hashOf signed batchSize}

/-! ## What is kept -/

/-- The transaction was sent for these leaves and mined. Unless it failed, the contract has their
root and their number. -/
def Submitted (H : Bytes → Bytes) (s : Shared) (txHash : String) (leaves : List String) : Prop :=
  ∃ sent ∈ s.sent, sent.merkleRoot = (MerkleTree.new H leaves).getRoot H ∧
    sent.entryCount = leaves.length ∧ ∃ receipt, s.chain.receipts[sent.position]? = some receipt ∧
      receipt.transactionHash = txHash ∧
      (receipt.status ≠ 0 → ∃ root, hex root = sent.merkleRoot ∧
        s.chain.Stored txHash root leaves.length)

/-- The next transaction of the chain, mined for this root, with its entry in the log. -/
def Shared.mine (hashOf : ℕ → String) (s : Shared) (root : Bytes) (entryCount : ℕ)
    (mined : Anchor.Mined) (log : List Sent) : Shared :=
  { s with chain := (s.chain.mine hashOf root entryCount mined).2, sent := s.sent ++ log }

theorem Submitted.mine {s : Shared} {txHash : String} {leaves : List String}
    (h : Submitted H s txHash leaves) (root : Bytes) (entryCount : ℕ) (mined : Anchor.Mined)
    (log : List Sent) : Submitted H (s.mine hashOf root entryCount mined log) txHash leaves := by
  obtain ⟨sent, member, same, size, receipt, found, hash, stored⟩ := h
  refine ⟨sent, List.mem_append_left _ member, same, size, receipt, ?_, hash, ?_⟩
  · obtain ⟨bound, -⟩ := List.getElem?_eq_some_iff.mp found
    rw [Shared.mine, Chain.receipts_mine, List.getElem?_append_left bound]
    exact found
  · intro succeeded
    obtain ⟨root', same', before⟩ := stored succeeded
    exact ⟨root', same', before.mine root entryCount mined⟩

/-- What was mined for the leaves, and logged. -/
theorem submitted_mine (s : Shared) {root : Bytes} {leaves : List String} (mined : Anchor.Mined)
    (same : hex root = (MerkleTree.new H leaves).getRoot H) :
    Submitted H (s.mine hashOf root leaves.length mined
        [⟨s.chain.receipts.length, (MerkleTree.new H leaves).getRoot H, leaves.length⟩])
      (s.chain.mine hashOf root leaves.length mined).1.transactionHash leaves := by
  refine ⟨_, List.mem_append_right _ (List.mem_singleton_self _), rfl, rfl,
    (s.chain.mine hashOf root leaves.length mined).1, ?_, rfl, ?_⟩
  · rw [Shared.mine, Chain.receipts_mine]
    exact List.getElem?_concat_length
  · intro succeeded
    exact ⟨root, same, Chain.mine_stored succeeded⟩

/-- What a submission does: it raises before anything is sent, or it sends the root. -/
theorem anchorToBlockchain_cases (hashOf : ℕ → String) (signed : List String)
    (h : ∀ b, (H b).length = 32) {leaves : List String} (nonempty : leaves ≠ []) (fate : Fate)
    (chain : Chain) :
    (∃ error, anchorToBlockchain hashOf signed fate ((MerkleTree.new H leaves).getRoot H)
        leaves.length chain = (.error error, chain)) ∨
      "rawTransaction" ∈ signed ∧ ∃ root mined, hex root = (MerkleTree.new H leaves).getRoot H ∧
        ∃ outcome, anchorToBlockchain hashOf signed fate ((MerkleTree.new H leaves).getRoot H)
            leaves.length chain = (outcome, (chain.mine hashOf root leaves.length mined).2) ∧
          ∀ txHash, outcome = .ok txHash →
            txHash = (chain.mine hashOf root leaves.length mined).1.transactionHash := by
  obtain ⟨root, size, same⟩ := getRoot_bytes h nonempty
  rw [same, anchorToBlockchain, toBytes_hex]
  simp only [size, ne_eq, not_true_eq_false, if_false]
  unfold Chain.sendSigned
  by_cases available : "rawTransaction" ∈ signed
  · rw [if_pos available]
    cases fate with
    | lost => exact .inl ⟨_, rfl⟩
    | unseen mined => exact .inr ⟨available, root, mined, rfl, _, rfl, nofun⟩
    | reported mined =>
        refine .inr ⟨available, root, mined, rfl, _, rfl, ?_⟩
        intro txHash returned
        exact (Except.ok.inj returned).symm
  · rw [if_neg available]
    exact .inl ⟨_, rfl⟩

/-- The rows of the entries are in the table. -/
def Known (rows : List LedgerEntry) (entries : List UnanchoredEntry) : Prop :=
  ∀ entry ∈ entries, ∃ row ∈ rows, row.id = entry.id ∧ row.sha256 = entry.sha256

theorem mark_id (entryIds : List ℤ) (txHash : String) (row : LedgerEntry) :
    (mark entryIds txHash row).id = row.id := by
  unfold mark
  split <;> rfl

theorem mark_sha256 (entryIds : List ℤ) (txHash : String) (row : LedgerEntry) :
    (mark entryIds txHash row).sha256 = row.sha256 := by
  unfold mark
  split <;> rfl

theorem Known.update {rows : List LedgerEntry} {entries : List UnanchoredEntry}
    (h : Known rows entries) (entryIds : List ℤ) (txHash : String) :
    Known (updateAnchoredEntries entryIds txHash rows) entries := by
  intro entry member
  obtain ⟨row, inside, id, text⟩ := h entry member
  refine ⟨mark entryIds txHash row, List.mem_map_of_mem inside, ?_, ?_⟩
  · rw [mark_id, id]
  · rw [mark_sha256, text]

theorem Known.add {rows : List LedgerEntry} {entries : List UnanchoredEntry}
    (h : Known rows entries) (row : LedgerEntry) : Known (rows ++ [row]) entries := by
  intro entry member
  obtain ⟨old, inside, same⟩ := h entry member
  exact ⟨old, List.mem_append_left _ inside, same⟩

theorem known_getUnanchoredEntries (batchSize : ℕ) (rows : List LedgerEntry) :
    Known rows (getUnanchoredEntries batchSize rows) := by
  intro entry member
  obtain ⟨row, taken, rfl⟩ := List.mem_map.mp member
  have ordered := (orderBy_perm _).mem_iff.mp (List.mem_of_mem_take taken)
  exact ⟨row, (List.mem_filter.mp ordered).1, rfl, rfl⟩

/-- Each row that is marked names a transaction that was mined for it. -/
structure Marked (H : Bytes → Bytes) (signed : List String) (s : Shared) : Prop where
  ids : DistinctKeys LedgerEntry.id s.rows
  rows : ∀ row ∈ s.rows, row.anchored → "rawTransaction" ∈ signed ∧ ∃ txHash leaves,
    row.anchorTx = some txHash ∧ row.sha256 ∈ leaves ∧ Submitted H s txHash leaves

/-- What a process holds. -/
def Holding (H : Bytes → Bytes) (signed : List String) (s : Shared) : Progress → Prop
  | .begun => True
  | .fetched entries => entries ≠ [] ∧ Known s.rows entries
  | .anchored entries txHash =>
      "rawTransaction" ∈ signed ∧ Known s.rows entries ∧ Submitted H s txHash (leavesOf entries)

theorem Marked.mine {s : Shared} (h : Marked H signed s) (root : Bytes) (entryCount : ℕ)
    (mined : Anchor.Mined) (log : List Sent) :
    Marked H signed (s.mine hashOf root entryCount mined log) where
  ids := h.ids
  rows := by
    intro row member anchored
    obtain ⟨available, txHash, leaves, tx, inside, submitted⟩ := h.rows row member anchored
    exact ⟨available, txHash, leaves, tx, inside, submitted.mine root entryCount mined log⟩

theorem Holding.mine {s : Shared} {progress : Progress} (h : Holding H signed s progress)
    (root : Bytes) (entryCount : ℕ) (mined : Anchor.Mined) (log : List Sent) :
    Holding H signed (s.mine hashOf root entryCount mined log) progress := by
  cases progress with
  | begun => trivial
  | fetched entries => exact h
  | anchored entries txHash => exact ⟨h.1, h.2.1, h.2.2.mine root entryCount mined log⟩

theorem Marked.update {s : Shared} (h : Marked H signed s) {entries : List UnanchoredEntry}
    {txHash : String} (available : "rawTransaction" ∈ signed) (known : Known s.rows entries)
    (submitted : Submitted H s txHash (leavesOf entries)) :
    Marked H signed { s with
      rows := updateAnchoredEntries (entries.map UnanchoredEntry.id) txHash s.rows } where
  ids := by
    rw [DistinctKeys, updateAnchoredEntries, map_key (mark_id _ _)]
    exact h.ids
  rows := by
    intro row member anchored
    obtain ⟨old, inside, rfl⟩ := List.mem_map.mp member
    rw [mark_sha256]
    by_cases picked : old.id ∈ entries.map UnanchoredEntry.id
    · -- the row is the one that was fetched under its id
      obtain ⟨entry, fetched, id⟩ := List.mem_map.mp picked
      obtain ⟨row, found, sameId, text⟩ := known entry fetched
      obtain rfl : row = old := List.inj_on_of_nodup_map h.ids found inside (sameId.trans id)
      refine ⟨available, txHash, leavesOf entries, ?_, ?_, submitted⟩
      · rw [mark, if_pos picked]
      · rw [text]
        exact List.mem_map_of_mem fetched
    · rw [mark, if_neg picked] at anchored ⊢
      exact h.rows old inside anchored

theorem Holding.update {s : Shared} {progress : Progress} (h : Holding H signed s progress)
    (entryIds : List ℤ) (txHash : String) :
    Holding H signed { s with rows := updateAnchoredEntries entryIds txHash s.rows } progress := by
  cases progress with
  | begun => trivial
  | fetched entries => exact ⟨h.1, h.2.update entryIds txHash⟩
  | anchored entries tx => exact ⟨h.1, h.2.1.update entryIds txHash, h.2.2⟩

theorem Marked.add {s : Shared} (h : Marked H signed s) {id : ℤ}
    (fresh : id ∉ s.rows.map LedgerEntry.id) (text : String) :
    Marked H signed { s with rows := s.rows ++ [⟨id, text, false, none⟩] } where
  ids := h.ids.append_singleton fresh
  rows := by
    intro row member anchored
    rcases List.mem_append.mp member with before | new
    · exact h.rows row before anchored
    · obtain rfl := List.mem_singleton.mp new
      cases anchored

theorem Holding.add {s : Shared} {progress : Progress} (h : Holding H signed s progress)
    (row : LedgerEntry) : Holding H signed { s with rows := s.rows ++ [row] } progress := by
  cases progress with
  | begun => trivial
  | fetched entries => exact ⟨h.1, h.2.add row⟩
  | anchored entries txHash => exact ⟨h.1, h.2.1.add row, h.2.2⟩

/-! ## Steps and runs -/

/-- A process that submits what it fetched begins anew, or holds what it submitted. -/
theorem main_anchor (h : ∀ b, (H b).length = 32) {s s' : Shared} {fate : Fate}
    {entries : List UnanchoredEntry} {progress' : Progress} (nonempty : entries ≠ [])
    (known : Known s.rows entries)
    (moved : main H hashOf signed batchSize s (.anchor fate) (.fetched entries) =
      some (s', progress')) :
    (s' = s ∧ Holding H signed s progress') ∨
      ∃ root entryCount mined log,
        s' = s.mine hashOf root entryCount mined log ∧ Holding H signed s' progress' := by
  have leaves : leavesOf entries ≠ [] := by rwa [leavesOf, ne_eq, List.map_eq_nil_iff]
  have size : (leavesOf entries).length = entries.length := List.length_map _
  rcases anchorToBlockchain_cases hashOf signed h leaves fate s.chain with
    ⟨error, raised⟩ | ⟨available, root, mined, same, outcome, sent, hash⟩
  · rw [size] at raised
    simp only [main, raised, logged, lt_irrefl, if_false, List.append_nil] at moved
    obtain ⟨rfl, rfl⟩ := Prod.mk.inj (Option.some.inj moved)
    exact .inl ⟨rfl, trivial⟩
  · have grown := s.chain.receipts_length_mine hashOf root entries.length mined
    rw [size] at sent hash
    simp only [main, sent, logged, if_pos grown] at moved
    refine .inr ⟨root, entries.length, mined,
      [⟨s.chain.receipts.length, (MerkleTree.new H (leavesOf entries)).getRoot H,
        entries.length⟩], ?_⟩
    cases outcome with
    | error error =>
        obtain ⟨rfl, rfl⟩ := Prod.mk.inj (Option.some.inj moved)
        exact ⟨rfl, trivial⟩
    | ok txHash =>
        obtain ⟨rfl, rfl⟩ := Prod.mk.inj (Option.some.inj moved)
        refine ⟨rfl, available, known, ?_⟩
        rw [hash txHash rfl, ← size]
        exact submitted_mine s mined same

/-- A step of a process leaves everything as it is, mines a transaction or marks the rows it has
anchored. -/
theorem main_cases (h : ∀ b, (H b).length = 32) {s s' : Shared} {action : Action}
    {progress progress' : Progress} (holding : Holding H signed s progress)
    (moved : main H hashOf signed batchSize s action progress = some (s', progress')) :
    (s' = s ∧ Holding H signed s progress') ∨
    (∃ root entryCount mined log,
      s' = s.mine hashOf root entryCount mined log ∧ Holding H signed s' progress') ∨
    ∃ entries txHash, "rawTransaction" ∈ signed ∧ Known s.rows entries ∧
      Submitted H s txHash (leavesOf entries) ∧
      s' = { s with
        rows := updateAnchoredEntries (entries.map UnanchoredEntry.id) txHash s.rows } ∧
      progress' = .begun := by
  cases action with
  | fetch =>
      cases progress with
      | begun =>
          obtain ⟨rfl, rfl⟩ := Prod.mk.inj (Option.some.inj moved)
          refine .inl ⟨rfl, ?_⟩
          split
          · trivial
          · rename_i some
            exact ⟨some, known_getUnanchoredEntries batchSize s.rows⟩
      | fetched entries => cases moved
      | anchored entries txHash => cases moved
  | anchor fate =>
      cases progress with
      | begun => cases moved
      | fetched entries =>
          rcases main_anchor h holding.1 holding.2 moved with kept | sent
          · exact .inl kept
          · exact .inr (.inl sent)
      | anchored entries txHash => cases moved
  | update =>
      cases progress with
      | begun => cases moved
      | fetched entries => cases moved
      | anchored entries txHash =>
          obtain ⟨rfl, rfl⟩ := Prod.mk.inj (Option.some.inj moved)
          obtain ⟨available, known, submitted⟩ := holding
          exact .inr (.inr ⟨entries, txHash, available, known, submitted, rfl, rfl⟩)
  | fail =>
      obtain ⟨rfl, rfl⟩ := Prod.mk.inj (Option.some.inj moved)
      exact .inl ⟨rfl, trivial⟩

theorem stable_bundlers {ι : Type} [DecidableEq ι] (h : ∀ b, (H b).length = 32) :
    Stable (bundlers H hashOf signed batchSize ι) Always (Marked H signed)
      fun _ => Holding H signed where
  own := by
    intro s i action shared progress holds _ moved
    rcases main_cases h (holds.task i) moved with
      ⟨rfl, mine⟩ | ⟨root, entryCount, mined, log, rfl, mine⟩ |
        ⟨entries, txHash, available, known, submitted, rfl, rfl⟩
    · exact ⟨holds.shared, mine⟩
    · exact ⟨holds.shared.mine root entryCount mined log, mine⟩
    · exact ⟨holds.shared.update available known submitted, trivial⟩
  others := by
    intro s i action shared progress holds _ moved j _
    rcases main_cases h (holds.task i) moved with
      ⟨rfl, -⟩ | ⟨root, entryCount, mined, log, rfl, -⟩ | ⟨entries, txHash, -, -, -, rfl, -⟩
    · exact holds.task j
    · exact (holds.task j).mine root entryCount mined log
    · exact (holds.task j).update _ txHash
  environment := by
    intro s what shared holds _ moved
    cases what with
    | add id text =>
        obtain ⟨fresh, added⟩ := Option.ite_none_left_eq_some.mp moved
        obtain rfl := Option.some.inj added
        exact ⟨holds.shared.add fresh text, fun j => (holds.task j).add _⟩
    | call what =>
        have called : shared = s.shared.mine hashOf what.root what.entryCount what.mined [] := by
          rw [Shared.mine, List.append_nil]
          exact (Option.some.inj moved).symm
        rw [called]
        exact ⟨holds.shared.mine _ _ _ [], fun j => (holds.task j).mine _ _ _ []⟩

/-- The row is leaf `i` of these leaves, its transaction was mined for them, and among the entries
and proofs for that position only its own lead to their root, collisions apart. -/
structure Evidence (H : Bytes → Bytes) (s : Shared) (row : LedgerEntry) (txHash : String)
    (leaves : List String) (i : ℕ) : Prop where
  anchorTx : row.anchorTx = some txHash
  leaf : leaves[i]? = some row.sha256
  submitted : Submitted H s txHash leaves
  proof : rootFrom H row.sha256 i leaves.length ((MerkleTree.new H leaves).getProof H i) =
    some ((MerkleTree.new H leaves).getRoot H)
  binds : ∀ text proof, rootFrom H text i leaves.length proof =
      some ((MerkleTree.new H leaves).getRoot H) →
    (text = row.sha256 ∧ proof = (MerkleTree.new H leaves).getProof H i) ∨
      Collides H (climbedStrings H text i leaves.length proof ++ hashedStrings H leaves)

def start (ι : Type) : System ι Shared Progress := ⟨⟨[], Chain.initial, []⟩, fun _ => .begun⟩

/-- A row is marked only where signed transactions have the attribute that is read, and then there
is evidence for it. -/
theorem anchored_of_run {ι : Type} [DecidableEq ι] (h : ∀ b, (H b).length = 32)
    {moves : List (Move ι Action Change)} {s : System ι Shared Progress}
    (run : Run (bundlers H hashOf signed batchSize ι).step Always (start ι) moves s) :
    ∀ row ∈ s.shared.rows, row.anchored → "rawTransaction" ∈ signed ∧
      ∃ txHash leaves i, Evidence H s.shared row txHash leaves i := by
  have initial : Holds (Marked H signed) (fun _ => Holding H signed) (start ι) :=
    ⟨⟨List.nodup_nil, fun _ member => absurd member List.not_mem_nil⟩, fun _ => trivial⟩
  have holds := (stable_bundlers h).run run initial
  intro row member anchored
  obtain ⟨available, txHash, leaves, tx, inside, submitted⟩ :=
    holds.shared.rows row member anchored
  obtain ⟨i, bound, here⟩ := List.mem_iff_getElem.mp inside
  obtain ⟨complete, binds⟩ := getProof_binds h leaves i bound
  rw [here] at complete binds
  refine ⟨available, txHash, leaves, i, tx, ?_, submitted, complete, binds⟩
  rw [List.getElem?_eq_getElem bound, here]

end Bundlers

/-- Two processes fetch the same rows. The first transaction runs out of gas and marks them, the
second does not. -/
def twoBundlers : List (Move Bool Action Change) :=
  [.environment (.add 2 "b"), .environment (.add 1 "a"), .environment (.add 3 "c"),
    .task true .fetch, .task false .fetch, .task true (.anchor (.reported ⟨1, 1714555800, false⟩)),
    .task true .update, .environment (.call ⟨List.replicate 32 7, 1, ⟨2, 1714555860, true⟩⟩),
    .task false (.anchor (.reported ⟨3, 1714555920, true⟩)), .environment (.add 4 "d"),
    .task false .update, .task true .fetch, .task true .fail]

theorem anchored_twoBundlers : ∃ s,
    Run (bundlers sha256 Anchor.txHash signedTransactionV6 2 Bool).step Always (start Bool)
        twoBundlers s ∧
      s.shared.rows.map LedgerEntry.anchored = [true, true, false, false] ∧
      ∀ row ∈ s.shared.rows, row.anchored → "rawTransaction" ∈ signedTransactionV6 ∧
        ∃ txHash leaves i, Evidence sha256 s.shared row txHash leaves i := by
  have accepted : (exec (bundlers sha256 Anchor.txHash signedTransactionV6 2 Bool).step Always
      (start Bool) twoBundlers).any (fun s =>
        decide (s.shared.rows.map LedgerEntry.anchored = [true, true, false, false])) := by
    decide +kernel
  obtain ⟨s, run, ended⟩ := run_of_any accepted
  exact ⟨s, run, of_decide_eq_true ended, anchored_of_run length_sha256 run⟩

end RenderTrust.RollupAnchor
