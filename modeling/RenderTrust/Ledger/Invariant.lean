import RenderTrust.Ledger.Service
import RenderTrust.Lib.Runs

/-!
# The ledger over sequential runs

Every call runs in a transaction of its own: committed when it returns, rolled
back when it raises. `Sound` is what a run keeps; what the service promises its
callers, `LedgerInvariant`, is read off it.
-/
namespace RenderTrust.Ledger
open Lib.Rounding Lib.Journal Lib.Runs

/-- `x` is a value of a `Numeric(12, 4)` column. -/
def Representable (x : Decimal) : Prop := Multiple 4 x ∧ |x| < 10 ^ 8

instance (x : Decimal) : Decidable (Representable x) := inferInstanceAs (Decidable (_ ∧ _))

/-- The balance after an entry, or zero. -/
theorem representable_currentBalance {last : Option CreditLedgerEntry}
    (rows : ∀ e ∈ last, Representable e.balanceAfter) : Representable (currentBalance last) := by
  cases last with
  | none => exact ⟨Multiple.zero 4, by norm_num [currentBalance]⟩
  | some e => exact rows e rfl

/-- What is left of a column value is one. -/
theorem Representable.sub {x y : Decimal} (hx : Representable x) (hy : Representable y)
    (nonneg : 0 ≤ y) (le : y ≤ x) : Representable (x + -y) := by
  rw [← sub_eq_add_neg]
  refine ⟨hx.1.sub hy.1, ?_⟩
  rw [abs_of_nonneg (sub_nonneg.mpr le)]
  linarith [(abs_lt.mp hx.2).2]

theorem Representable.numeric {x : Decimal} (h : Representable x) : numeric x = some x :=
  fixed_multiple h.1 (by linarith [h.2])

structure Sound (entries : List CreditLedgerEntry) : Prop where
  kept : ledgerView.Kept entries
  nonneg : ∀ e ∈ entries, 0 ≤ e.balanceAfter
  representable : ∀ e ∈ entries, Representable e.balanceAfter
  keys : (entries.map CreditLedgerEntry.key).Nodup

theorem Sound.nil : Sound [] where
  kept := View.Kept.nil ledgerView
  nonneg := by simp only [List.not_mem_nil, false_implies, implies_true]
  representable := by simp only [List.not_mem_nil, false_implies, implies_true]
  keys := List.nodup_nil

theorem Sound.currentBalance_eq {entries : List CreditLedgerEntry} (h : Sound entries)
    (userId : UUID) :
    currentBalance (ledgerView.latest userId entries) = signedSum userId entries :=
  h.kept.carried_latest userId

theorem Sound.currentBalance_nonneg {entries : List CreditLedgerEntry} (h : Sound entries)
    (userId : UUID) : 0 ≤ currentBalance (ledgerView.latest userId entries) := by
  cases latest : ledgerView.latest userId entries with
  | none => exact le_rfl
  | some e => exact h.nonneg e (ledgerView.latest_mem latest).1

theorem Sound.currentBalance_representable {entries : List CreditLedgerEntry} (h : Sound entries)
    (userId : UUID) : Representable (currentBalance (ledgerView.latest userId entries)) :=
  representable_currentBalance fun e latest => h.representable e (ledgerView.latest_mem latest).1

/-- The one way a ledger grows. -/
theorem Sound.concat {entries : List CreditLedgerEntry} {row : CreditLedgerEntry}
    (h : Sound entries) (newer : ledgerView.Newer entries row)
    (moved : row.balanceAfter =
      currentBalance (ledgerView.latest row.userId entries) + row.signed)
    (nonneg : 0 ≤ row.balanceAfter) (representable : Representable row.balanceAfter)
    (fresh : row.key ∉ entries.map CreditLedgerEntry.key) : Sound (entries ++ [row]) where
  kept := h.kept.concat newer moved
  nonneg := by
    intro e he
    rcases List.mem_append.mp he with old | new
    · exact h.nonneg e old
    · rwa [List.mem_singleton.mp new]
  representable := by
    intro e he
    rcases List.mem_append.mp he with old | new
    · exact h.representable e old
    · rwa [List.mem_singleton.mp new]
  keys := by
    rw [List.map_append, List.map_singleton, ← List.concat_eq_append]
    exact h.keys.concat fresh

/-- Rounding the amount for its column and rounding the new balance come to the same. -/
def Call.RoundsAlike (c : Call) (current : Decimal) : Prop :=
  match c.settle current with
  | .error _ => True
  | .ok newBalance =>
      match numeric c.args.amount, numeric newBalance with
      | some amount, some balanceAfter => balanceAfter = current + signedAmount c.direction amount
      | _, _ => True

instance (c : Call) (current : Decimal) : Decidable (c.RoundsAlike current) :=
  match h : c.settle current with
  | .error _ => isTrue (by rw [Call.RoundsAlike, h]; trivial)
  | .ok newBalance =>
      match ha : numeric c.args.amount, hb : numeric newBalance with
      | some amount, some balanceAfter =>
          decidable_of_iff (balanceAfter = current + signedAmount c.direction amount)
            (by rw [Call.RoundsAlike, h, ha]; simp only [hb])
      | none, _ => isTrue (by rw [Call.RoundsAlike, h, ha]; trivial)
      | some _, none => isTrue (by rw [Call.RoundsAlike, h, ha]; simp only [hb])

theorem Call.RoundsAlike.stored {c : Call} {current newBalance : Decimal} {defaults : Defaults}
    {row : CreditLedgerEntry} (h : c.RoundsAlike current)
    (settled : c.settle current = .ok newBalance)
    (stored : (newEntry c.direction c.args defaults newBalance).stored = some row) :
    row.balanceAfter = current + row.signed := by
  obtain ⟨amount, balanceAfter, ha, hb, rfl⟩ := CreditLedgerEntry.stored_eq_some stored
  rw [RoundsAlike, settled] at h
  simp only [newEntry] at ha hb
  simp only [ha, hb] at h
  exact h

theorem Call.settle_exact {c : Call} {current newBalance : Decimal}
    (hcurrent : Representable current) (hamount : Representable c.args.amount)
    (settled : c.settle current = .ok newBalance) :
    newBalance = current + signedAmount c.direction c.args.amount ∧ Multiple 4 newBalance := by
  obtain ⟨multiple, size⟩ := hcurrent
  obtain ⟨multiple', size'⟩ := hamount
  rw [abs_lt] at size size'
  cases c with
  | mk direction args =>
      cases direction with
      | CREDIT =>
          have exact := decimalAdd_exact (multiple.add multiple')
            (by rw [abs_lt]; constructor <;> linarith [size.1, size.2, size'.1, size'.2])
          obtain rfl : decimalAdd current args.amount = newBalance := Except.ok.inj settled
          rw [exact]
          exact ⟨rfl, multiple.add multiple'⟩
      | DEBIT =>
          have exact := decimalSub_exact (multiple.sub multiple')
            (by rw [abs_lt]; constructor <;> linarith [size.1, size.2, size'.1, size'.2])
          obtain ⟨difference, -⟩ := debitSettle_ok_iff.mp settled
          rw [exact] at difference
          rw [← difference]
          exact ⟨sub_eq_add_neg current args.amount, multiple.sub multiple'⟩

/-- Amounts that are column values round alike: nothing is rounded. -/
theorem Call.roundsAlike_of_representable {c : Call} {current : Decimal}
    (hcurrent : Representable current) (hamount : Representable c.args.amount) :
    c.RoundsAlike current := by
  unfold RoundsAlike
  split
  · trivial
  · rename_i newBalance settled
    obtain ⟨moved, multiple⟩ := c.settle_exact hcurrent hamount settled
    split
    · rename_i amount balanceAfter ha hb
      rw [fixed_eq_self multiple hb, fixed_eq_self hamount.1 ha, moved]
    · trivial

/-! ## One call, one transaction -/

structure Event where
  call : Call
  defaults : Defaults
  deriving DecidableEq, Repr

def transact (db : Database) (event : Event) : Database :=
  match (event.call.run event.defaults).run (Session.begin db) with
  | .ok _ s => s.commit.committed
  | .error _ s => s.rollback.committed

theorem transact_eq (db : Database) (event : Event) :
    transact db event = match (event.call.run event.defaults).run (Session.begin db) with
      | .ok _ s => s.working
      | .error _ s => s.committed := rfl

/-- What a call that writes has found and checked. -/
structure Writes (db : Database) (event : Event) (row : CreditLedgerEntry) : Prop where
  positive : 0 < event.call.args.amount
  settled : ∃ newBalance,
    event.call.settle (currentBalance (db.lastEntry event.call.args.userId)) = .ok newBalance ∧
      (newEntry event.call.direction event.call.args event.defaults newBalance).stored = some row
  checks : db.Checks row
  unique : db.Unique row

theorem transact_cases (db : Database) (event : Event) :
    transact db event = db ∨ ∃ row, Writes db event row ∧ transact db event = db.append row := by
  have all := event.call.run_posting event.defaults (Session.begin db)
  unfold transact
  generalize (event.call.run event.defaults).run (Session.begin db) = r at all ⊢
  cases all with
  | rejected => exact .inl rfl
  | unreadable => exact .inl rfl
  | replayed => exact .inl rfl
  | refused => exact .inl rfl
  | unstorable => exact .inl rfl
  | conflicting =>
      left
      cases ((Session.begin db).committed.byReference event.call.args.referenceId
        event.call.direction).bind scalarOne <;> rfl
  | posted positive _ settled inserted =>
      obtain ⟨row, stored, checks, unique, rfl⟩ := Database.insert_eq_ok inserted
      exact .inr ⟨row, ⟨positive, ⟨_, settled, stored⟩, checks, unique⟩, rfl⟩

def Admissible (db : Database) (event : Event) : Prop :=
  Representable event.call.args.amount ∧
    ∀ e ∈ db.entries, e.userId = event.call.args.userId → e.createdAt < event.defaults.createdAt

instance (db : Database) (event : Event) : Decidable (Admissible db event) :=
  inferInstanceAs (Decidable (_ ∧ _))

theorem Writes.row_eq {db : Database} {event : Event} {row : CreditLedgerEntry}
    (h : Writes db event row) :
    row.userId = event.call.args.userId ∧ row.createdAt = event.defaults.createdAt ∧
      Representable row.balanceAfter := by
  obtain ⟨_, ⟨newBalance, _, stored⟩, _, _⟩ := h
  obtain ⟨amount, balanceAfter, _, hbalance, rfl⟩ := CreditLedgerEntry.stored_eq_some stored
  exact ⟨rfl, rfl, numeric_bound hbalance⟩

theorem Sound.writes {db : Database} {event : Event} {row : CreditLedgerEntry}
    (h : Sound db.entries) (writes : Writes db event row)
    (newer : ∀ e ∈ db.entries, e.userId = event.call.args.userId →
      e.createdAt < event.defaults.createdAt)
    (alike : event.call.RoundsAlike (currentBalance (db.lastEntry event.call.args.userId))) :
    Sound (db.append row).entries := by
  obtain ⟨sameUser, sameTime, representable⟩ := writes.row_eq
  obtain ⟨newBalance, settled, stored⟩ := writes.settled
  have moved := alike.stored settled stored
  rw [Database.lastEntry, ← sameUser] at moved
  refine h.concat ?_ moved writes.checks.1 representable writes.unique.2
  intro e he same
  change e.createdAt < row.createdAt
  rw [sameTime]
  exact newer e he (same.trans sameUser)

theorem transact_sound {db : Database} {event : Event} (h : Sound db.entries)
    (admissible : Admissible db event) : Sound (transact db event).entries := by
  rcases transact_cases db event with same | ⟨row, writes, same⟩
  · rw [same]
    exact h
  · rw [same]
    exact h.writes writes admissible.2
      (Call.roundsAlike_of_representable (h.currentBalance_representable _) admissible.1)

/-- The exceptions by which a call declines a request. -/
def LedgerError.refusal : LedgerError → Bool
  | .valueError _ => true
  | .insufficientCredits _ _ _ => true
  | _ => false

theorem scalarOneOrNone_error {rows : List CreditLedgerEntry} {e : LedgerError}
    (h : scalarOneOrNone rows = .error e) : e.refusal = false := by
  cases rows with
  | nil => cases h
  | cons row rest => cases rest <;> cases h; rfl

theorem scalarOne_error {rows : List CreditLedgerEntry} {e : LedgerError}
    (h : scalarOne rows = .error e) : e.refusal = false := by
  cases rows with
  | nil => cases h; rfl
  | cons row rest => cases rest <;> cases h; rfl

/-- Looking for an entry declines nothing. -/
theorem Database.lookup_error {α : Type} {f : List CreditLedgerEntry → Except LedgerError α}
    (single : ∀ {rows e}, f rows = .error e → e.refusal = false) {db : Database}
    {referenceId : String} {direction : TransactionDirection} {e : LedgerError}
    (h : (db.byReference referenceId direction).bind f = .error e) : e.refusal = false := by
  unfold byReference at h
  split at h
  · exact single h
  · cases h
    rfl

theorem Call.run_refusal {c : Call} {defaults : Defaults} {s t : Session} {e : LedgerError}
    (h : (c.run defaults).run s = .error e t) (refusal : e.refusal) : t = s := by
  have all := c.run_posting defaults s
  rw [h] at all
  generalize hr : EStateM.Result.error e t = r at all
  cases all with
  | rejected => cases hr; rfl
  | unreadable => cases hr; rfl
  | replayed => cases hr
  | refused => cases hr; rfl
  | posted => cases hr
  | unstorable => cases hr; cases refusal
  | conflicting =>
      revert hr
      cases again : (s.committed.byReference c.args.referenceId c.direction).bind scalarOne with
      | error e =>
          intro hr
          cases hr
          rw [Database.lookup_error scalarOne_error again] at refusal
          cases refusal
      | ok row =>
          intro hr
          cases hr

structure LedgerInvariant (db : Database) : Prop where
  running : ∀ pre e post, db.entries = pre ++ e :: post →
    e.balanceAfter = signedSum e.userId (pre ++ [e])
  balance : ∀ userId, (getBalance userId).run (Session.begin db) =
    .ok (signedSum userId db.entries) (Session.begin db)
  nonneg : ∀ e ∈ db.entries, 0 ≤ e.balanceAfter
  keys : (db.entries.map CreditLedgerEntry.key).Nodup
  refusals : ∀ (event : Event) (e : LedgerError) (s : Session),
    (event.call.run event.defaults).run (Session.begin db) = .error e s → e.refusal →
      s.working = db ∧ transact db event = db

theorem Sound.ledgerInvariant {db : Database} (h : Sound db.entries) : LedgerInvariant db where
  running := h.kept.running
  balance := by
    intro userId
    rw [← h.currentBalance_eq userId]
    rfl
  nonneg := h.nonneg
  keys := h.keys
  refusals := by
    intro event e s raised refusal
    have same := Call.run_refusal raised refusal
    subst same
    refine ⟨rfl, ?_⟩
    rw [transact, raised]
    rfl

theorem ledgerInvariant_of_run {users : List UUID} {events : List Event} {db : Database}
    (h : Run (fun db event => some (transact db event)) Admissible ⟨users, []⟩ events db) :
    LedgerInvariant db := by
  have sound : Sound db.entries := by
    refine Run.invariant (I := fun db => Sound db.entries) ?_ h Sound.nil
    intro db event db' sound admissible accepted
    obtain rfl := Option.some.inj accepted
    exact transact_sound sound admissible
  exact sound.ledgerInvariant

def sampleEvents : List Event :=
  [⟨⟨.CREDIT, ⟨1, 100, .STRIPE, "in_1", none⟩⟩, ⟨11, 1⟩⟩,
   ⟨⟨.CREDIT, ⟨2, 1 / 10000, .STRIPE, "in_2", none⟩⟩, ⟨12, 2⟩⟩,
   ⟨⟨.DEBIT, ⟨1, 401 / 4, .USAGE, "job_1", none⟩⟩, ⟨13, 3⟩⟩,
   ⟨⟨.DEBIT, ⟨1, 60, .USAGE, "job_1", none⟩⟩, ⟨14, 4⟩⟩,
   ⟨⟨.CREDIT, ⟨1, 100, .STRIPE, "in_1", none⟩⟩, ⟨15, 5⟩⟩]

def sampleLedger : Database where
  users := [1, 2]
  entries :=
    [⟨11, 1, 100, .CREDIT, .STRIPE, "in_1", 100, none, 1⟩,
     ⟨12, 2, 1 / 10000, .CREDIT, .STRIPE, "in_2", 1 / 10000, none, 2⟩,
     ⟨14, 1, 60, .DEBIT, .USAGE, "job_1", 40, none, 4⟩]

theorem ledgerInvariant_sampleLedger : LedgerInvariant sampleLedger := by
  have final : exec (fun db event => some (transact db event)) Admissible ⟨[1, 2], []⟩
      sampleEvents = some sampleLedger := by decide +kernel
  exact ledgerInvariant_of_run (exec_eq_some.mp final)

end RenderTrust.Ledger
