import RenderTrust.Ledger.Concurrent
import RenderTrust.Ledger.Outcomes

/-!
# Calls with one key that run at the same time

Any number of transactions make the same kind of call with the same
`reference_id`. Their amounts have at most four decimals, so the entry a call
builds is the row it is stored as.
-/
namespace RenderTrust.Ledger
open Lib.Rounding Lib.Journal Lib.Runs

def Known (db : Database) (last : Option CreditLedgerEntry) : Prop := ∀ e ∈ last, e ∈ db.entries

/-- The entry is stored as it is. -/
theorem Prepared.exact {c : Call} {last : Option CreditLedgerEntry}
    {entry row : CreditLedgerEntry} (h : Prepared c last entry)
    (amount : Multiple 4 c.args.amount) (balance : Representable (currentBalance last))
    (stored : entry.stored = some row) : row = entry := by
  obtain ⟨newBalance, defaults, settled, rfl⟩ := h
  obtain ⟨stamount, balanceAfter, hamount, hbalance, rfl⟩ :=
    CreditLedgerEntry.stored_eq_some stored
  have same : stamount = c.args.amount := fixed_eq_self amount hamount
  have representable : Representable c.args.amount := by
    rw [← same]
    exact numeric_bound hamount
  obtain ⟨_, multiple⟩ := Call.settle_exact balance representable settled
  rw [same, fixed_eq_self multiple hbalance]
  rfl

section Race
variable {ι : Type} {calls : ι → Call} {c : Call} {s t : State ι} {i : ι}

/-- What a phase says of the database when nothing is rounded. -/
def Phase.Exact (c : Call) (db : Database) : Phase → Prop
  | .locked last => Known db last
  | .inserting last _ => Known db last
  | .flushed w => w.row = w.entry
  | .returned entry => entry ∈ db.entries ∧ entry.key = c.key
  | .committed entry => entry ∈ db.entries ∧ entry.key = c.key
  | _ => True

theorem Phase.Exact.append {db : Database} {p : Phase} (h : p.Exact c db)
    (row : CreditLedgerEntry) : p.Exact c (db.append row) := by
  have grows : ∀ e ∈ db.entries, e ∈ (db.append row).entries := fun _ member =>
    List.mem_append_left [row] member
  cases p with
  | locked last => exact fun e he => grows e (h e he)
  | inserting last entry => exact fun e he => grows e (h e he)
  | flushed w => exact h
  | returned entry => exact ⟨grows entry h.1, h.2⟩
  | committed entry => exact ⟨grows entry h.1, h.2⟩
  | start | checked | waiting | retry | raised | aborted => trivial

theorem exact_select (c : Call) (db : Database) : (select c db).Exact c db := by
  unfold select
  split
  · trivial
  · split
    · trivial
    · rename_i row found
      exact Call.mem_of_existing found
    · trivial

theorem exact_reselect (c : Call) (db : Database) : (reselect c db).Exact c db := by
  unfold reselect
  split
  · trivial
  · rename_i row found
    exact Call.mem_of_reselected found

theorem known_lastEntry (db : Database) (userId : UUID) : Known db (db.lastEntry userId) := by
  intro e he
  exact (ledgerView.latest_mem he).1

theorem known_byId (db : Database) (id : UUID) : Known db (db.byId id) := by
  intro e he
  exact List.mem_of_find?_eq_some he

/-- What every interleaving of calls with such amounts keeps. -/
structure Settled (calls : ι → Call) (s : State ι) : Prop where
  orderly : Orderly calls s
  valid : s.db.Valid
  exacts : ∀ i, (s.phase i).Exact (calls i) s.db

variable [DecidableEq ι]

theorem Settled.set {p : Phase} (h : Settled calls s) (enters : Enters (calls i) s i p)
    (exact : p.Exact (calls i) s.db) : Settled calls (s.set i p) where
  orderly := h.orderly.set enters
  valid := h.valid
  exacts := by
    intro j
    by_cases same : j = i
    · subst same
      rw [State.set_phase_self]
      exact exact
    · rw [State.set_phase_of_ne s same]
      exact h.exacts j

theorem Settled.commit {w : Insertion} (h : Settled calls s) (flushed : s.phase i = .flushed w) :
    Settled calls ({ s with db := s.db.append w.row }.set i (.committed w.entry)) where
  orderly := h.orderly.commit flushed
  valid := by
    have inserted := h.orderly.valid flushed
    exact h.valid.append (CreditLedgerEntry.stored_stored inserted.stored) inserted.checks
      inserted.unique
  exacts := by
    intro j
    by_cases same : j = i
    · subst same
      rw [State.set_phase_self]
      have row : w.row = w.entry := by
        have exact := h.exacts j
        rwa [flushed] at exact
      obtain ⟨newBalance, defaults, _, built⟩ := (h.orderly.valid flushed).prepared
      refine ⟨?_, ?_⟩
      · rw [← row]
        exact List.mem_append_right _ (List.mem_singleton_self _)
      · rw [built]
        rfl
    · rw [State.set_phase_of_ne _ same]
      exact (h.exacts j).append w.row

variable [Fintype ι]

theorem exact_lockOrWait {last : Option CreditLedgerEntry} (known : Known s.db last) :
    (s.lockOrWait i last).Exact c s.db := by
  unfold State.lockOrWait
  split
  · split
    · trivial
    · exact known
  · exact known

theorem exact_flush {last : Option CreditLedgerEntry} {entry : CreditLedgerEntry}
    (valid : s.db.Valid) (amount : Multiple 4 c.args.amount) (known : Known s.db last)
    (prepared : Prepared c last entry) : (s.flush i last entry).Exact c s.db := by
  unfold State.flush
  split
  · trivial
  · rename_i row stored
    split
    · split
      · exact known
      · exact prepared.exact amount
          (representable_currentBalance fun e read => valid.representable (known e read)) stored
    · trivial

theorem exact_insert {last : Option CreditLedgerEntry} (valid : s.db.Valid)
    (amount : Multiple 4 c.args.amount) (known : Known s.db last) (defaults : Defaults) :
    (s.insert c i last defaults).Exact c s.db := by
  unfold State.insert
  split
  · trivial
  · rename_i newBalance settled
    exact exact_flush valid amount known ⟨newBalance, defaults, settled, rfl⟩

theorem Settled.act {a : Action} (h : Settled calls s) (amount : Multiple 4 (calls i).args.amount)
    (moved : act calls s i a = some t) : Settled calls t := by
  have now := h.exacts i
  unfold Ledger.act at moved
  split at moved
  · obtain rfl := Option.some.inj moved
    exact h.set enters_select (exact_select _ _)
  · obtain rfl := Option.some.inj moved
    exact h.set (enters_lockOrWait _) (exact_lockOrWait (known_lastEntry _ _))
  · obtain rfl := Option.some.inj moved
    exact h.set (enters_lockOrWait _) (exact_lockOrWait (known_byId _ _))
  · rename_i last defaults phase
    obtain rfl := Option.some.inj moved
    rw [phase] at now
    exact h.set (enters_insert _ _) (exact_insert h.valid amount now defaults)
  · rename_i last entry phase
    obtain rfl := Option.some.inj moved
    rw [phase] at now
    have prepared := h.orderly.waiters i last entry phase
    exact h.set (enters_flush prepared) (exact_flush h.valid amount now prepared)
  · obtain rfl := Option.some.inj moved
    exact h.set enters_reselect (exact_reselect _ _)
  · rename_i entry phase
    obtain rfl := Option.some.inj moved
    rw [phase] at now
    exact h.set trivial now
  · rename_i w flushed
    obtain rfl := Option.some.inj moved
    exact h.commit flushed
  · split at moved
    · cases moved
    · obtain rfl := Option.some.inj moved
      exact h.set trivial trivial
  · cases moved

theorem Settled.run {db : Database} {events : List (ι × Action)} (valid : db.Valid)
    (amounts : ∀ i, Multiple 4 (calls i).args.amount)
    (run : Run (step calls) Always (State.begin db) events s) : Settled calls s := by
  refine Run.invariant (I := Settled calls) ?_ run ⟨Orderly.begin db, valid, fun _ => trivial⟩
  intro s event t settled _ moved
  exact settled.act (amounts event.1) moved

/-- At most one entry has the key, and a call that returned and committed returned it. -/
structure ExactlyOnce (key : String × TransactionDirection) (s : State ι) : Prop where
  atMost : (s.db.entries.filter (fun e => e.key = key)).length ≤ 1
  committed : ∀ i entry, s.phase i = .committed entry →
    s.db.entries.filter (fun e => e.key = key) = [entry]

theorem exactlyOnce_of_run {db : Database} {events : List (ι × Action)}
    {key : String × TransactionDirection} (valid : db.Valid) (same : ∀ i, (calls i).key = key)
    (amounts : ∀ i, Multiple 4 (calls i).args.amount)
    (run : Run (step calls) Always (State.begin db) events s) : ExactlyOnce key s := by
  have settled := Settled.run valid amounts run
  refine ⟨?_, ?_⟩
  · exact settled.valid.keys.length_group_le key
  · intro i entry committed
    have exact := settled.exacts i
    rw [committed] at exact
    rw [← same i, ← exact.2]
    exact settled.valid.keys.filter_key exact.1

end Race

def sameInvoice : Fin 3 → Call
  | 0 => ⟨.CREDIT, ⟨1, 100, .STRIPE, "in_1", none⟩⟩
  | 1 => ⟨.CREDIT, ⟨2, 50, .STRIPE, "in_1", none⟩⟩
  | 2 => ⟨.CREDIT, ⟨1, 100, .STRIPE, "in_1", none⟩⟩

/-- All three find no entry; two wait for the INSERT of the first, which aborts. -/
def invoiceRace {ι : Type} (i j k : ι) : List (ι × Action) :=
  [(i, .select), (j, .select), (k, .select), (i, .selectForUpdate), (j, .selectForUpdate),
   (k, .selectForUpdate), (i, .insert ⟨11, 1⟩), (j, .insert ⟨12, 2⟩), (k, .insert ⟨13, 3⟩),
   (i, .abort), (j, .wake), (j, .commit), (k, .wake), (k, .reselect), (k, .commit)]

theorem exactlyOnce_of_run_invoice : ∃ s : State (Fin 3),
    Run (step sameInvoice) Always (State.begin ⟨[1, 2], []⟩) (invoiceRace 0 1 2) s ∧
      ExactlyOnce ("in_1", .CREDIT) s := by
  have accepted : (exec (step sameInvoice) Always (State.begin ⟨[1, 2], []⟩)
      (invoiceRace 0 1 2)).isSome := by decide +kernel
  obtain ⟨s, run⟩ := run_of_isSome accepted
  refine ⟨s, run, ?_⟩
  refine exactlyOnce_of_run (Database.Valid.nil [1, 2]) ?_ ?_ run
  · decide +kernel
  · decide +kernel

end RenderTrust.Ledger
