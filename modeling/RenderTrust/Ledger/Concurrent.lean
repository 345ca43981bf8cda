import Mathlib.Data.Fintype.Defs
import Mathlib.Logic.Function.Basic
import RenderTrust.Ledger.Invariant

/-!
# Concurrent transactions on the ledger

READ COMMITTED: a statement reads what is committed when it starts. `FOR UPDATE`
locks the row that snapshot selected, and a waiter reads that same row again. An
INSERT waits for an uncommitted row with an equal unique key.
-/
namespace RenderTrust.Ledger
open Lib.Journal Lib.Runs

/-- An INSERT that went through: the row read before it, the entry flushed and the row
it is stored as. -/
structure Insertion where
  last : Option CreditLedgerEntry
  entry : CreditLedgerEntry
  row : CreditLedgerEntry
  deriving DecidableEq

inductive Phase where
  | start
  | checked
  | waiting (last : CreditLedgerEntry)
  | locked (last : Option CreditLedgerEntry)
  | inserting (last : Option CreditLedgerEntry) (entry : CreditLedgerEntry)
  | flushed (insertion : Insertion)
  | retry
  | returned (entry : CreditLedgerEntry)
  | raised (last : Option CreditLedgerEntry) (error : LedgerError)
  | committed (entry : CreditLedgerEntry)
  | aborted
  deriving DecidableEq

inductive Action where
  | select
  | selectForUpdate
  | wake
  | insert (defaults : Defaults)
  | reselect
  | commit
  | abort
  deriving DecidableEq

namespace Phase

/-- The row whose lock is held until the transaction ends. -/
def lock : Phase → Option CreditLedgerEntry
  | .locked last => last
  | .inserting last _ => last
  | .flushed insertion => insertion.last
  | .raised last _ => last
  | _ => none

def pending : Phase → Option Insertion
  | .flushed insertion => some insertion
  | _ => none

def finished : Phase → Bool
  | .committed _ => true
  | .aborted => true
  | _ => false

theorem pending_eq_some {p : Phase} {w : Insertion} (h : w ∈ p.pending) : p = .flushed w := by
  cases p with
  | flushed insertion =>
      obtain rfl := Option.some.inj h
      rfl
  | start | checked | waiting | locked | inserting | retry | returned | raised | committed
  | aborted => cases h

end Phase

structure State (ι : Type) where
  db : Database
  phase : ι → Phase

namespace State
variable {ι : Type}

def begin (db : Database) : State ι := ⟨db, fun _ => .start⟩

variable [DecidableEq ι]

def set (s : State ι) (i : ι) (p : Phase) : State ι :=
  { s with phase := Function.update s.phase i p }

@[simp] theorem set_db (s : State ι) (i : ι) (p : Phase) : (s.set i p).db = s.db := rfl

@[simp] theorem set_phase_self (s : State ι) (i : ι) (p : Phase) : (s.set i p).phase i = p := by
  simp only [set, Function.update_self]

theorem set_phase_of_ne (s : State ι) {i j : ι} (h : j ≠ i) (p : Phase) :
    (s.set i p).phase j = s.phase j := by
  rw [set]
  exact Function.update_of_ne h p s.phase

/-- Another transaction holds the lock on `row`. -/
def Locked (s : State ι) (i : ι) (row : CreditLedgerEntry) : Prop :=
  ∃ j, j ≠ i ∧ ∃ held ∈ (s.phase j).lock, held.id = row.id

/-- Another transaction has flushed a row with a unique key of `row`. -/
def Blocked (s : State ι) (i : ι) (row : CreditLedgerEntry) : Prop :=
  ∃ j, j ≠ i ∧ ∃ w ∈ (s.phase j).pending, w.row.id = row.id ∨ w.row.key = row.key

variable [Fintype ι]

instance (s : State ι) (i : ι) (row : CreditLedgerEntry) : Decidable (s.Locked i row) :=
  inferInstanceAs (Decidable (∃ _, _))

instance (s : State ι) (i : ι) (row : CreditLedgerEntry) : Decidable (s.Blocked i row) :=
  inferInstanceAs (Decidable (∃ _, _))

def lockOrWait (s : State ι) (i : ι) : Option CreditLedgerEntry → Phase
  | some last => if s.Locked i last then .waiting last else .locked (some last)
  | none => .locked none

def flush (s : State ι) (i : ι) (last : Option CreditLedgerEntry) (entry : CreditLedgerEntry) :
    Phase :=
  match entry.stored with
  | none => .raised none .dataError
  | some row =>
      if s.db.Checks row ∧ s.db.Unique row then
        if s.Blocked i row then .inserting last entry else .flushed ⟨last, entry, row⟩
      else .retry

def insert (s : State ι) (c : Call) (i : ι) (last : Option CreditLedgerEntry)
    (defaults : Defaults) : Phase :=
  match c.settle (currentBalance last) with
  | .error e => .raised last e
  | .ok newBalance => s.flush i last (newEntry c.direction c.args defaults newBalance)

end State

def select (c : Call) (db : Database) : Phase :=
  if c.args.amount ≤ 0 then .raised none (.valueError c.notPositive)
  else match (db.byReference c.args.referenceId c.direction).bind scalarOneOrNone with
    | .error e => .raised none e
    | .ok (some row) => .returned row
    | .ok none => .checked

def reselect (c : Call) (db : Database) : Phase :=
  match (db.byReference c.args.referenceId c.direction).bind scalarOne with
  | .error e => .raised none e
  | .ok row => .returned row

def Database.byId (db : Database) (id : UUID) : Option CreditLedgerEntry :=
  db.entries.find? (fun e => e.id = id)

section Step
variable {ι : Type} [DecidableEq ι] [Fintype ι]

/-- One statement of transaction `i`. A raised exception, like an abort, ends in a
rollback. -/
def act (calls : ι → Call) (s : State ι) (i : ι) (a : Action) : Option (State ι) :=
  match s.phase i, a with
  | .start, .select => some (s.set i (select (calls i) s.db))
  | .checked, .selectForUpdate =>
      some (s.set i (s.lockOrWait i (s.db.lastEntry (calls i).args.userId)))
  | .waiting last, .wake => some (s.set i (s.lockOrWait i (s.db.byId last.id)))
  | .locked last, .insert defaults => some (s.set i (s.insert (calls i) i last defaults))
  | .inserting last entry, .wake => some (s.set i (s.flush i last entry))
  | .retry, .reselect => some (s.set i (reselect (calls i) s.db))
  | .returned entry, .commit => some (s.set i (.committed entry))
  | .flushed w, .commit => some ({ s with db := s.db.append w.row }.set i (.committed w.entry))
  | p, .abort => if p.finished then none else some (s.set i .aborted)
  | _, _ => none

def step (calls : ι → Call) (s : State ι) (event : ι × Action) : Option (State ι) :=
  act calls s event.1 event.2

end Step

/-! ## What is known of a transaction -/

section Knowledge
variable {ι : Type} {calls : ι → Call} {c : Call} {s t : State ι} {i : ι}

def Prepared (c : Call) (last : Option CreditLedgerEntry) (entry : CreditLedgerEntry) : Prop :=
  ∃ newBalance defaults, c.settle (currentBalance last) = .ok newBalance ∧
    entry = newEntry c.direction c.args defaults newBalance

structure Insertion.Valid (w : Insertion) (c : Call) (db : Database) : Prop where
  prepared : Prepared c w.last w.entry
  stored : w.entry.stored = some w.row
  checks : db.Checks w.row
  unique : db.Unique w.row

/-- What is known of a phase when a transaction enters it. -/
def Enters (c : Call) (s : State ι) (i : ι) : Phase → Prop
  | .inserting last entry => Prepared c last entry
  | .flushed w => w.Valid c s.db ∧ ¬ s.Blocked i w.row
  | _ => True

theorem enters_select : Enters c s i (select c s.db) := by
  unfold select
  split
  · trivial
  · split <;> trivial

theorem enters_reselect : Enters c s i (reselect c s.db) := by
  unfold reselect
  split <;> trivial

theorem Insertion.Valid.row_user {w : Insertion} {db : Database} (h : w.Valid c db) :
    w.row.userId = c.args.userId ∧ Representable w.row.balanceAfter := by
  obtain ⟨newBalance, defaults, _, built⟩ := h.prepared
  obtain ⟨amount, balanceAfter, _, hbalance, eq⟩ := CreditLedgerEntry.stored_eq_some h.stored
  rw [eq]
  refine ⟨?_, numeric_bound hbalance⟩
  rw [built]
  rfl

theorem Insertion.Valid.append {w : Insertion} {db : Database} {row : CreditLedgerEntry}
    (h : w.Valid c db) (id : w.row.id ≠ row.id) (key : w.row.key ≠ row.key) :
    w.Valid c (db.append row) where
  prepared := h.prepared
  stored := h.stored
  checks := h.checks
  unique := by
    refine ⟨?_, ?_⟩
    · rw [Database.append_entries, List.map_append, List.mem_append, List.map_singleton,
        List.mem_singleton]
      exact not_or.mpr ⟨h.unique.1, id⟩
    · rw [Database.append_entries, List.map_append, List.mem_append, List.map_singleton,
        List.mem_singleton]
      exact not_or.mpr ⟨h.unique.2, key⟩

def Waiters (calls : ι → Call) (s : State ι) : Prop :=
  ∀ i last entry, s.phase i = .inserting last entry → Prepared (calls i) last entry

/-- What is known of a phase while the other transactions go on. -/
def Phase.Kept (c : Call) (db : Database) : Phase → Prop
  | .inserting last entry => Prepared c last entry
  | .flushed w => w.Valid c db
  | _ => True

structure Consistent (calls : ι → Call) (s : State ι) : Prop where
  sound : Sound s.db.entries
  phases : ∀ i, (s.phase i).Kept (calls i) s.db
  apart : ∀ i w, s.phase i = .flushed w → ¬ s.Blocked i w.row

/-- The part of `Consistent` that every interleaving keeps. -/
structure Orderly (calls : ι → Call) (s : State ι) : Prop where
  phases : ∀ i, (s.phase i).Kept (calls i) s.db
  apart : ∀ i w, s.phase i = .flushed w → ¬ s.Blocked i w.row

theorem Consistent.orderly (h : Consistent calls s) : Orderly calls s := ⟨h.phases, h.apart⟩

theorem Orderly.waiters (h : Orderly calls s) : Waiters calls s := by
  intro i last entry inserting
  have kept := h.phases i
  rw [inserting] at kept
  exact kept

theorem Orderly.valid (h : Orderly calls s) {w : Insertion}
    (flushed : s.phase i = .flushed w) : w.Valid (calls i) s.db := by
  have kept := h.phases i
  rw [flushed] at kept
  exact kept

theorem Orderly.begin (db : Database) : Orderly calls (State.begin db) where
  phases := fun _ => trivial
  apart := by
    intro i w flushed
    cases flushed

theorem Consistent.begin {db : Database} (h : Sound db.entries) :
    Consistent calls (State.begin db) := by
  have start : Orderly calls (State.begin db) := .begin db
  exact ⟨h, start.phases, start.apart⟩

theorem Enters.kept {p : Phase} (h : Enters c s i p) : p.Kept c s.db := by
  cases p with
  | inserting last entry => exact h
  | flushed w => exact h.1
  | start | checked | waiting | locked | retry | returned | raised | committed | aborted => trivial

/-- The balance the transaction has read is the user's balance still, its row is the
newest of the user, and its amount and its new balance round alike. -/
def Fresh (calls : ι → Call) (s : State ι) (event : ι × Action) : Prop :=
  event.2 = .commit → ∀ w ∈ (s.phase event.1).pending,
    currentBalance w.last = currentBalance (s.db.lastEntry w.row.userId) ∧
      ledgerView.Newer s.db.entries w.row ∧ (calls event.1).RoundsAlike (currentBalance w.last)

instance (calls : ι → Call) (s : State ι) (event : ι × Action) :
    Decidable (Fresh calls s event) :=
  inferInstanceAs (Decidable (_ → _))

/-- A row may be committed when no other transaction has flushed one of its keys. -/
theorem Orderly.append {row : CreditLedgerEntry} (h : Orderly calls s)
    (free : ∀ j w, s.phase j = .flushed w → w.row.id ≠ row.id ∧ w.row.key ≠ row.key) :
    Orderly calls { s with db := s.db.append row } where
  phases := by
    intro j
    have kept := h.phases j
    cases now : s.phase j with
    | inserting last entry =>
        rw [now] at kept
        exact kept
    | flushed w => exact (h.valid now).append (free j w now).1 (free j w now).2
    | start | checked | waiting | locked | retry | returned | raised | committed | aborted =>
        trivial
  apart := h.apart

variable [DecidableEq ι]

/-- A transaction may move when what it flushes then is not blocked by another. -/
theorem Orderly.set {p : Phase} (h : Orderly calls s) (enters : Enters (calls i) s i p) :
    Orderly calls (s.set i p) where
  phases := by
    intro j
    by_cases same : j = i
    · subst same
      rw [State.set_phase_self]
      exact enters.kept
    · rw [State.set_phase_of_ne s same]
      exact h.phases j
  apart := by
    intro j w flushed
    rintro ⟨k, other, v, pending, clash⟩
    by_cases same : j = i
    · subst same
      rw [State.set_phase_self] at flushed
      subst flushed
      rw [State.set_phase_of_ne s other] at pending
      exact enters.2 ⟨k, other, v, pending, clash⟩
    · rw [State.set_phase_of_ne s same] at flushed
      by_cases moved : k = i
      · subst moved
        rw [State.set_phase_self] at pending
        obtain rfl := Phase.pending_eq_some pending
        refine enters.2 ⟨j, same, w, ?_, ?_⟩
        · rw [flushed]
          exact rfl
        · exact clash.imp Eq.symm Eq.symm
      · rw [State.set_phase_of_ne s moved] at pending
        exact h.apart j w flushed ⟨k, other, v, pending, clash⟩

theorem Orderly.commit {w : Insertion} (h : Orderly calls s) (flushed : s.phase i = .flushed w) :
    Orderly calls ({ s with db := s.db.append w.row }.set i (.committed w.entry)) := by
  have pending : w ∈ (s.phase i).pending := by
    rw [flushed]
    exact rfl
  have ended : Orderly calls (s.set i (.committed w.entry)) := h.set trivial
  refine ended.append ?_
  intro j v now
  by_cases same : j = i
  · subst same
    rw [State.set_phase_self] at now
    cases now
  · rw [State.set_phase_of_ne s same] at now
    have apart := h.apart j v now
    constructor
    · intro id
      exact apart ⟨i, Ne.symm same, w, pending, .inl id.symm⟩
    · intro key
      exact apart ⟨i, Ne.symm same, w, pending, .inr key.symm⟩

theorem Consistent.set {p : Phase} (h : Consistent calls s) (enters : Enters (calls i) s i p) :
    Consistent calls (s.set i p) :=
  ⟨h.sound, (h.orderly.set enters).phases, (h.orderly.set enters).apart⟩

theorem Consistent.commit {w : Insertion} (h : Consistent calls s)
    (flushed : s.phase i = .flushed w) (fresh : Fresh calls s (i, .commit)) :
    Consistent calls ({ s with db := s.db.append w.row }.set i (.committed w.entry)) := by
  have valid := h.orderly.valid flushed
  have pending : w ∈ (s.phase i).pending := by
    rw [flushed]
    exact rfl
  obtain ⟨current, newer, alike⟩ := fresh rfl w pending
  obtain ⟨newBalance, defaults, settled, built⟩ := valid.prepared
  have stored := valid.stored
  rw [built] at stored
  have moved := alike.stored settled stored
  rw [current] at moved
  have ended := h.orderly.commit flushed
  exact ⟨h.sound.concat newer moved valid.checks.1 valid.row_user.2 valid.unique.2,
    ended.phases, ended.apart⟩

variable [Fintype ι]

theorem enters_lockOrWait (last : Option CreditLedgerEntry) :
    Enters c s i (s.lockOrWait i last) := by
  unfold State.lockOrWait
  split
  · split <;> trivial
  · trivial

theorem enters_flush {last : Option CreditLedgerEntry} {entry : CreditLedgerEntry}
    (prepared : Prepared c last entry) : Enters c s i (s.flush i last entry) := by
  unfold State.flush
  split
  · trivial
  · rename_i row stored
    split
    · rename_i admitted
      split
      · exact prepared
      · rename_i free
        exact ⟨⟨prepared, stored, admitted.1, admitted.2⟩, free⟩
    · trivial

theorem enters_insert (last : Option CreditLedgerEntry) (defaults : Defaults) :
    Enters c s i (s.insert c i last defaults) := by
  unfold State.insert
  split
  · trivial
  · rename_i newBalance settled
    exact enters_flush ⟨newBalance, defaults, settled, rfl⟩

theorem act_cases {a : Action} (waiters : Waiters calls s) (h : act calls s i a = some t) :
    (∃ p, Enters (calls i) s i p ∧ t = s.set i p) ∨
      ∃ w, s.phase i = .flushed w ∧ a = .commit ∧
        t = { s with db := s.db.append w.row }.set i (.committed w.entry) := by
  unfold act at h
  split at h
  · exact .inl ⟨_, enters_select, (Option.some.inj h).symm⟩
  · exact .inl ⟨_, enters_lockOrWait _, (Option.some.inj h).symm⟩
  · exact .inl ⟨_, enters_lockOrWait _, (Option.some.inj h).symm⟩
  · exact .inl ⟨_, enters_insert _ _, (Option.some.inj h).symm⟩
  · rename_i last entry inserting
    exact .inl ⟨_, enters_flush (waiters i last entry inserting), (Option.some.inj h).symm⟩
  · exact .inl ⟨_, enters_reselect, (Option.some.inj h).symm⟩
  · refine .inl ⟨_, ?_, (Option.some.inj h).symm⟩
    trivial
  · rename_i w flushed
    exact .inr ⟨w, flushed, rfl, (Option.some.inj h).symm⟩
  · split at h
    · cases h
    · refine .inl ⟨_, ?_, (Option.some.inj h).symm⟩
      trivial
  · cases h

/-- The balance of a user is the sum of what is committed for him, and not negative. -/
def Accounted (db : Database) (userId : UUID) : Prop :=
  (getBalance userId).run (Session.begin db) =
      .ok (signedSum userId db.entries) (Session.begin db) ∧
    0 ≤ signedSum userId db.entries

theorem Consistent.step {event : ι × Action} (h : Consistent calls s)
    (fresh : Fresh calls s event) (moved : step calls s event = some t) : Consistent calls t := by
  rcases act_cases h.orderly.waiters moved with ⟨p, enters, rfl⟩ | ⟨w, flushed, committing, rfl⟩
  · exact h.set enters
  · obtain ⟨i, a⟩ := event
    subst committing
    exact h.commit flushed fresh

theorem Orderly.step {event : ι × Action} (h : Orderly calls s)
    (moved : step calls s event = some t) : Orderly calls t := by
  rcases act_cases h.waiters moved with ⟨p, enters, rfl⟩ | ⟨w, flushed, _, rfl⟩
  · exact h.set enters
  · exact h.commit flushed

theorem Consistent.run {events : List (ι × Action)} (h : Consistent calls s)
    (run : Run (RenderTrust.Ledger.step calls) (Fresh calls) s events t) : Consistent calls t :=
  Run.invariant (I := Consistent calls) (fun _ _ _ kept fresh moved => kept.step fresh moved) run h

theorem accounted_of_run {db : Database} {events : List (ι × Action)} (sound : Sound db.entries)
    (run : Run (RenderTrust.Ledger.step calls) (Fresh calls) (State.begin db) events s)
    (userId : UUID) : Accounted s.db userId := by
  have final := (Consistent.begin sound).run run
  refine ⟨final.sound.ledgerInvariant.balance userId, ?_⟩
  rw [← final.sound.currentBalance_eq userId]
  exact final.sound.currentBalance_nonneg userId

end Knowledge

/-! ## A transaction alone

Between its first statement and its end no other transaction runs: it does to the
database what a call of its own transaction does.
-/

section Alone
variable {ι : Type} {calls : ι → Call} {s t : State ι} {i : ι}

def Alone (s : State ι) (i : ι) : Prop :=
  ∀ j, j ≠ i → (s.phase j).lock = none ∧ (s.phase j).pending = none

theorem Alone.not_locked (h : Alone s i) (row : CreditLedgerEntry) : ¬ s.Locked i row := by
  rintro ⟨j, other, held, locked, _⟩
  rw [(h j other).1] at locked
  cases locked

theorem Alone.not_blocked (h : Alone s i) (row : CreditLedgerEntry) : ¬ s.Blocked i row := by
  rintro ⟨j, other, held, pending, _⟩
  rw [(h j other).2] at pending
  cases pending

variable [DecidableEq ι]

theorem Alone.set (h : Alone s i) (p : Phase) : Alone (s.set i p) i := by
  intro j other
  rw [s.set_phase_of_ne other]
  exact h j other

variable [Fintype ι]

def Ends (calls : ι → Call) (s : State ι) (i : ι) (db : Database) : Prop :=
  ∃ (actions : List Action) (t : State ι),
    Run (step calls) Always s (actions.map (fun a => (i, a))) t ∧ (t.phase i).finished ∧ t.db = db

theorem Ends.of_act {a : Action} {db : Database} (h : Ends calls t i db)
    (moved : act calls s i a = some t) : Ends calls s i db := by
  obtain ⟨actions, u, run, finished, left⟩ := h
  exact ⟨a :: actions, u, .cons trivial moved run, finished, left⟩

theorem ends_finished (finished : (s.phase i).finished) : Ends calls s i s.db :=
  ⟨[], s, .nil s, finished, rfl⟩

theorem ends_raised {last : Option CreditLedgerEntry} {e : LedgerError}
    (now : s.phase i = .raised last e) : Ends calls s i s.db := by
  refine Ends.of_act (t := s.set i .aborted) (a := .abort) (ends_finished ?_) ?_
  · rw [State.set_phase_self]
    rfl
  · unfold act
    rw [now]
    rfl

theorem ends_returned {entry : CreditLedgerEntry} (now : s.phase i = .returned entry) :
    Ends calls s i s.db := by
  refine Ends.of_act (t := s.set i (.committed entry)) (a := .commit) (ends_finished ?_) ?_
  · rw [State.set_phase_self]
    rfl
  · unfold act
    rw [now]

theorem ends_flushed {w : Insertion} (now : s.phase i = .flushed w) :
    Ends calls s i (s.db.append w.row) := by
  refine Ends.of_act (t := { s with db := s.db.append w.row }.set i (.committed w.entry))
    (a := .commit) (ends_finished ?_) ?_
  · rw [State.set_phase_self]
    rfl
  · unfold act
    rw [now]

theorem ends_retry (now : s.phase i = .retry) : Ends calls s i s.db := by
  refine Ends.of_act (t := s.set i (reselect (calls i) s.db)) (a := .reselect) ?_ ?_
  · unfold reselect
    split
    · exact ends_raised (State.set_phase_self s i _)
    · exact ends_returned (State.set_phase_self s i _)
  · unfold act
    rw [now]

theorem ends_flush (alone : Alone s i) {last : Option CreditLedgerEntry}
    {entry : CreditLedgerEntry} :
    Ends calls (s.set i (s.flush i last entry)) i
      (match s.db.insert entry with
        | .ok db => db
        | .error _ => s.db) := by
  unfold State.flush Database.insert
  cases entry.stored with
  | none => exact ends_raised (State.set_phase_self s i _)
  | some row =>
      by_cases admitted : s.db.Checks row ∧ s.db.Unique row
      · simp only [if_pos admitted, if_neg (alone.not_blocked row)]
        exact ends_flushed (State.set_phase_self s i _)
      · simp only [if_neg admitted]
        exact ends_retry (State.set_phase_self s i _)

theorem ends_insert (alone : Alone s i) {last : Option CreditLedgerEntry} (defaults : Defaults)
    (now : s.phase i = .locked last) :
    Ends calls s i
      (match (calls i).settle (currentBalance last) with
        | .error _ => s.db
        | .ok newBalance =>
            match s.db.insert (newEntry (calls i).direction (calls i).args defaults newBalance) with
            | .ok db => db
            | .error _ => s.db) := by
  refine Ends.of_act (t := s.set i (s.insert (calls i) i last defaults)) (a := .insert defaults)
    ?_ ?_
  · unfold State.insert
    cases (calls i).settle (currentBalance last) with
    | error e => exact ends_raised (State.set_phase_self s i _)
    | ok newBalance => exact ends_flush alone
  · unfold act
    rw [now]

theorem Alone.lockOrWait (h : Alone s i) (last : Option CreditLedgerEntry) :
    s.lockOrWait i last = .locked last := by
  cases last with
  | none => rfl
  | some last => exact if_neg (h.not_locked last)

theorem ends_checked (alone : Alone s i) (defaults : Defaults) (now : s.phase i = .checked) :
    Ends calls s i
      (match (calls i).settle (currentBalance (s.db.lastEntry (calls i).args.userId)) with
        | .error _ => s.db
        | .ok newBalance =>
            match s.db.insert (newEntry (calls i).direction (calls i).args defaults newBalance) with
            | .ok db => db
            | .error _ => s.db) := by
  refine Ends.of_act (a := .selectForUpdate)
    (ends_insert (alone.set _) defaults (State.set_phase_self s i _)) ?_
  unfold act
  rw [now, alone.lockOrWait]

theorem ends_start (alone : Alone s i) (defaults : Defaults) (now : s.phase i = .start) :
    Ends calls s i (transact s.db ⟨calls i, defaults⟩) := by
  refine Ends.of_act (t := s.set i (select (calls i) s.db)) (a := .select) ?_
    (by unfold act; rw [now])
  have checked : Ends calls (s.set i .checked) i _ := ends_checked (alone.set .checked) defaults
    (State.set_phase_self s i .checked)
  have all := (calls i).run_posting defaults (Session.begin s.db)
  unfold select
  rw [transact_eq]
  generalize ((calls i).run defaults).run (Session.begin s.db) = r at all ⊢
  cases all with
  | rejected small =>
      rw [if_pos small]
      exact ends_raised (State.set_phase_self s i _)
  | unreadable positive existing =>
      simp only [Session.begin] at existing
      simp only [if_neg (not_le.mpr positive), existing]
      exact ends_raised (State.set_phase_self s i _)
  | replayed positive existing =>
      simp only [Session.begin] at existing
      simp only [if_neg (not_le.mpr positive), existing]
      exact ends_returned (State.set_phase_self s i _)
  | refused positive existing settled =>
      simp only [Session.begin] at existing settled
      simp only [State.set_db, settled] at checked
      simp only [if_neg (not_le.mpr positive), existing]
      exact checked
  | posted positive existing settled inserted =>
      simp only [Session.begin] at existing settled inserted
      simp only [State.set_db, settled, inserted] at checked
      simp only [if_neg (not_le.mpr positive), existing]
      exact checked
  | unstorable positive existing settled inserted =>
      simp only [Session.begin] at existing settled inserted
      simp only [State.set_db, settled, inserted] at checked
      simp only [if_neg (not_le.mpr positive), existing]
      exact checked
  | conflicting positive existing settled inserted =>
      simp only [Session.begin] at existing settled inserted
      simp only [State.set_db, settled, inserted] at checked
      simp only [if_neg (not_le.mpr positive), existing]
      cases ((Session.begin s.db).committed.byReference (calls i).args.referenceId
        (calls i).direction).bind scalarOne <;> exact checked

end Alone

def raceCalls : Fin 3 → Call
  | 0 => ⟨.CREDIT, ⟨1, 100, .STRIPE, "in_1", none⟩⟩
  | 1 => ⟨.DEBIT, ⟨1, 60, .USAGE, "job_1", none⟩⟩
  | 2 => ⟨.DEBIT, ⟨1, 60, .USAGE, "job_2", none⟩⟩

/-- Both debits select the row of the credit; the second waits for the first. -/
def overlap : List (Fin 3 × Action) :=
  [(0, .select), (0, .selectForUpdate), (0, .insert ⟨11, 1⟩), (0, .commit),
   (1, .select), (2, .select), (1, .selectForUpdate), (2, .selectForUpdate),
   (1, .insert ⟨12, 2⟩)]

def waiterWrites : List (Fin 3 × Action) := [(2, .wake), (2, .insert ⟨13, 3⟩), (2, .commit)]

theorem accounted_of_run_aborted : ∃ s : State (Fin 3),
    Run (step raceCalls) (Fresh raceCalls) (State.begin ⟨[1], []⟩)
      (overlap ++ (1, .abort) :: waiterWrites) s ∧ Accounted s.db 1 := by
  have accepted : (exec (step raceCalls) (Fresh raceCalls) (State.begin ⟨[1], []⟩)
      (overlap ++ (1, .abort) :: waiterWrites)).isSome := by decide +kernel
  obtain ⟨s, run⟩ := run_of_isSome accepted
  exact ⟨s, run, accounted_of_run Sound.nil run 1⟩

/-- When the first debit commits, the waiter charges a balance that is spent. -/
theorem lost_update :
    (Function.Injective fun i => (raceCalls i).args.referenceId) ∧
      ¬ ∀ (events : List (Fin 3 × Action)) (s : State (Fin 3)),
        Run (step raceCalls) Always (State.begin ⟨[1], []⟩) events s →
          (∀ i, (s.phase i).finished) → Accounted s.db 1 := by
  refine ⟨by decide +kernel, ?_⟩
  intro claim
  have accepted : (exec (step raceCalls) Always (State.begin ⟨[1], []⟩)
      (overlap ++ (1, .commit) :: waiterWrites)).any
        (fun s => decide ((∀ i, (s.phase i).finished) ∧ signedSum 1 s.db.entries = -20)) := by
    decide +kernel
  obtain ⟨s, run, ended⟩ := run_of_any accepted
  obtain ⟨finished, spent⟩ := of_decide_eq_true ended
  have nonneg := (claim _ s run finished).2
  rw [spent] at nonneg
  norm_num at nonneg

end RenderTrust.Ledger
