import RenderTrust.Billing.Usage
import RenderTrust.Ledger.Api
import RenderTrust.Lib.NonInterference

/-!
# What one user's calls do to the others

Allocations, charges for jobs and `POST /credits/deduct`, each made on behalf of a user
and served in its own transaction. The view of all users but one is the ledger without
that user's entries.
-/
namespace RenderTrust.Billing
open Ledger Scheduler Lib.Hoare Lib.Journal Lib.NonInterference Lib.Runs

inductive Request (τ : Type) where
  | allocate (args : Args) (defaults : Defaults)
  | completion (job : JobDispatch τ) (userId : UUID) (defaults : Defaults)
  | deduct (userId : UUID) (payload : DeductRequest) (defaults : Defaults)
  deriving DecidableEq, Repr

namespace Request
variable {τ : Type}

def user : Request τ → UUID
  | .allocate args _ => args.userId
  | .completion _ userId _ => userId
  | .deduct userId _ _ => userId

def defaults : Request τ → Defaults
  | .allocate _ defaults => defaults
  | .completion _ _ defaults => defaults
  | .deduct _ _ defaults => defaults

def key : Request τ → String × TransactionDirection
  | .allocate args _ => (args.referenceId, .CREDIT)
  | .completion job _ _ => ("job-" ++ job.id.str, .DEBIT)
  | .deduct _ payload _ => (payload.referenceId, .DEBIT)

end Request

def committed (db : Database) (x : LedgerM CreditLedgerEntry) : Reply × Database :=
  match x.run (Session.begin db) with
  | .ok entry s => (.entry entry, s.commit.committed)
  | .error e s => (.raised e, s.rollback.committed)

section Serving
variable {τ : Type} (pricing : List JobPricing) (decimal : String → Option DecimalValue)

def serve (db : Database) : Request τ → Reply × Database
  | .allocate args defaults => committed db (allocateCredits args defaults)
  | .completion job userId defaults =>
      committed db (deductOnCompletion pricing job userId defaults)
  | .deduct userId payload defaults => creditDeduct decimal db userId payload defaults

def service : System Database (Request τ) Reply where
  step db r := (serve pricing decimal db r).2
  reply db r := (serve pricing decimal db r).1

end Serving

/-! ## The ledger without a user's entries -/

section View
variable {db : Database} {A B : UUID} {event : Event} {row : CreditLedgerEntry}

def without (A : UUID) (db : Database) : Database :=
  { db with entries := db.entries.filter fun e => e.userId ≠ A }

theorem rows_without (other : B ≠ A) :
    ledgerView.rows B (without A db).entries = ledgerView.rows B db.entries := by
  simp only [View.rows, without, List.filter_filter]
  apply List.filter_congr
  intro e _
  by_cases mine : e.userId = B
  · simp only [ledgerView, mine, decide_true, other, ne_eq, not_false_eq_true, Bool.and_self]
  · simp only [ledgerView, mine, decide_false, Bool.false_and]

theorem lastEntry_without (other : B ≠ A) : (without A db).lastEntry B = db.lastEntry B := by
  unfold Database.lastEntry View.latest
  rw [rows_without other]

theorem append_without_self (same : row.userId = A) : without A (db.append row) = without A db := by
  simp only [without, Database.append, List.filter_append, List.filter_cons, List.filter_nil, same,
    ne_eq, not_true_eq_false, decide_false, Bool.false_eq_true, if_false, List.append_nil]

theorem append_without_other (other : row.userId ≠ A) :
    without A (db.append row) = (without A db).append row := by
  simp only [without, Database.append, List.filter_append, List.filter_cons, List.filter_nil,
    ne_eq, other, not_false_eq_true, decide_true, if_true]

/-- No entry of `A` has the key or the id. -/
def Unclaimed (A : UUID) (db : Database) (key : String × TransactionDirection) (id : UUID) : Prop :=
  ∀ e ∈ db.entries, e.userId = A → e.key ≠ key ∧ e.id ≠ id

instance (A : UUID) (db : Database) (key : String × TransactionDirection) (id : UUID) :
    Decidable (Unclaimed A db key id) :=
  inferInstanceAs (Decidable (∀ e ∈ db.entries, e.userId = A → _ ∧ _))

theorem byReference_without {referenceId : String} {direction : TransactionDirection} {id : UUID}
    (unclaimed : Unclaimed A db (referenceId, direction) id) :
    (without A db).byReference referenceId direction = db.byReference referenceId direction := by
  unfold Database.byReference without
  simp only [List.filter_filter]
  congr 2
  apply List.filter_congr
  intro e member
  by_cases mine : e.userId = A
  · simp only [(unclaimed e member mine).1, decide_false, Bool.false_and]
  · simp only [mine, ne_eq, not_false_eq_true, decide_true, Bool.and_true]

theorem unique_without (unclaimed : Unclaimed A db row.key row.id) :
    (without A db).Unique row ↔ db.Unique row := by
  have keeps : ∀ {α : Type} (f : CreditLedgerEntry → α) (a : α),
      (∀ e ∈ db.entries, e.userId = A → f e ≠ a) →
      (a ∈ (without A db).entries.map f ↔ a ∈ db.entries.map f) := by
    intro α f a apart
    simp only [without, List.mem_map, List.mem_filter, ne_eq, decide_eq_true_eq]
    constructor
    · rintro ⟨e, ⟨member, _⟩, same⟩
      exact ⟨e, member, same⟩
    · rintro ⟨e, member, same⟩
      exact ⟨e, ⟨member, fun mine => apart e member mine same⟩, same⟩
  unfold Database.Unique
  rw [keeps CreditLedgerEntry.id row.id fun e member mine => (unclaimed e member mine).2,
    keeps CreditLedgerEntry.key row.key fun e member mine => (unclaimed e member mine).1]

theorem insert_without {e : CreditLedgerEntry} (unclaimed : Unclaimed A db e.key e.id)
    (other : e.userId ≠ A) : (without A db).insert e = (db.insert e).map (without A) := by
  unfold Database.insert
  cases stored : e.stored with
  | none => rfl
  | some row =>
      obtain ⟨key, user, id⟩ := CreditLedgerEntry.stored_key stored
      have same : (without A db).Checks row ∧ (without A db).Unique row ↔
          db.Checks row ∧ db.Unique row := by
        rw [unique_without (by rwa [key, id])]
        exact Iff.rfl
      simp only [same]
      split
      · rw [Except.map, append_without_other (by rwa [user])]
      · rfl

theorem answer_without (unclaimed : Unclaimed A db event.call.key event.defaults.id)
    (other : event.call.args.userId ≠ A) :
    answer (without A db) event = ((answer db event).1, without A (answer db event).2) := by
  have read : (without A db).byReference event.call.args.referenceId event.call.direction =
      db.byReference event.call.args.referenceId event.call.direction :=
    byReference_without unclaimed
  unfold answer
  simp only [read, lastEntry_without other]
  split
  · rfl
  · cases (db.byReference event.call.args.referenceId event.call.direction).bind
        scalarOneOrNone with
    | error e => rfl
    | ok found =>
        cases found with
        | some row => rfl
        | none =>
            dsimp only
            cases event.call.settle (currentBalance (db.lastEntry event.call.args.userId)) with
            | error e => rfl
            | ok newBalance =>
                dsimp only
                rw [insert_without (e := newEntry event.call.direction event.call.args
                  event.defaults newBalance) unclaimed other]
                cases db.insert _ with
                | ok written => rfl
                | error e => cases e <;> rfl

/-- A call for `A` writes at most an entry of `A`. -/
theorem transact_hidden (mine : event.call.args.userId = A) :
    without A (transact db event) = without A db := by
  rcases transact_cases db event with same | ⟨row, writes, same⟩
  · rw [same]
  · rw [same, append_without_self]
    rw [writes.row_eq.1, mine]

end View

/-! ## Requests -/

section Serving
variable {τ : Type} {pricing : List JobPricing} {decimal : String → Option DecimalValue}
  {db : Database} {A B : UUID} {r : Request τ}

theorem committed_eq (db : Database) (event : Event) :
    committed db (event.call.run event.defaults) =
      (replyTo (outcome db event), transact db event) := by
  unfold committed outcome transact
  cases (event.call.run event.defaults).run (Session.begin db) <;> rfl

theorem completion_eq (db : Database) (job : JobDispatch τ) (userId : UUID) (defaults : Defaults) :
    committed db (deductOnCompletion pricing job userId defaults) =
      match getJobPrice pricing job.jobType with
      | .error e => (.raised e, db)
      | .ok cost =>
          (replyTo (outcome db ⟨⟨.DEBIT, usageCharge job userId cost⟩, defaults⟩),
            transact db ⟨⟨.DEBIT, usageCharge job userId cost⟩, defaults⟩) := by
  cases price : getJobPrice pricing job.jobType with
  | error e =>
      unfold committed deductOnCompletion
      rw [run_bind_error (run_lift_error price _)]
      rfl
  | ok cost =>
      dsimp only
      rw [← committed_eq]
      unfold committed deductOnCompletion
      rw [run_bind_ok (run_lift_ok price _)]
      rfl

theorem serve_hidden (mine : r.user = A) :
    without A (serve pricing decimal db r).2 = without A db := by
  cases r with
  | allocate args defaults =>
      have all := committed_eq db ⟨⟨.CREDIT, args⟩, defaults⟩
      exact (congrArg (fun x => without A x.2) all).trans (transact_hidden mine)
  | completion job userId defaults =>
      change without A (committed db _).2 = _
      rw [completion_eq]
      cases getJobPrice pricing job.jobType with
      | error e => rfl
      | ok cost => exact transact_hidden mine
  | deduct userId payload defaults =>
      change without A (creditDeduct decimal db userId payload defaults).2 = _
      unfold creditDeduct
      split
      · rfl
      · rfl
      · rfl
      · rfl
      · rfl
      · rfl
      · split
        · rfl
        · dsimp only
          split
          · exact transact_hidden mine
          · rfl
          · rfl

theorem outcome_without (event : Event)
    (unclaimed : Unclaimed A db event.call.key event.defaults.id)
    (other : event.call.args.userId ≠ A) :
    outcome (without A db) event = outcome db event ∧
      transact (without A db) event = without A (transact db event) := by
  have both := answer_without unclaimed other
  rw [answer_eq, answer_eq] at both
  exact Prod.mk.inj both

theorem unpayable_without {referenceId : String} {id : UUID} {refusal : Decimal → Reply}
    (unclaimed : Unclaimed A db (referenceId, .DEBIT) id) (other : B ≠ A) :
    unpayable (without A db) B referenceId refusal = unpayable db B referenceId refusal := by
  unfold unpayable
  rw [byReference_without unclaimed, lastEntry_without other]

theorem serve_seen (other : r.user ≠ A) (unclaimed : Unclaimed A db r.key r.defaults.id) :
    serve pricing decimal (without A db) r =
      ((serve pricing decimal db r).1, without A (serve pricing decimal db r).2) := by
  cases r with
  | allocate args defaults =>
      obtain ⟨answered, left⟩ := outcome_without ⟨⟨.CREDIT, args⟩, defaults⟩ unclaimed other
      have here := committed_eq db ⟨⟨.CREDIT, args⟩, defaults⟩
      have there := committed_eq (without A db) ⟨⟨.CREDIT, args⟩, defaults⟩
      rw [answered, left] at there
      exact there.trans (congrArg (fun x => (x.1, without A x.2)) here.symm)
  | completion job userId defaults =>
      simp only [serve, completion_eq]
      cases getJobPrice pricing job.jobType with
      | error e => rfl
      | ok cost =>
          obtain ⟨answered, left⟩ :=
            outcome_without ⟨⟨.DEBIT, usageCharge job userId cost⟩, defaults⟩ unclaimed other
          simp only [answered, left]
  | deduct userId payload defaults =>
      have replayed : ∀ refusal, unpayable (without A db) userId payload.referenceId refusal =
          unpayable db userId payload.referenceId refusal := by
        intro refusal
        exact unpayable_without unclaimed other
      simp only [serve, creditDeduct]
      cases decimal payload.amount with
      | none => rfl
      | some value =>
          cases value with
          | nan => rfl
          | huge negative =>
              cases negative with
              | true => rfl
              | false => simp only [replayed]
          | infinity negative =>
              cases negative with
              | true => rfl
              | false => simp only [replayed]
          | finite amount =>
              obtain ⟨answered, left⟩ :=
                outcome_without ⟨payload.call userId amount, defaults⟩ unclaimed other
              simp only [answered, left]
              split
              · rfl
              · split <;> rfl

/-- The guard on a run: no call for another user meets an entry of `A` with its key. -/
def Guarded (A : UUID) (db : Database) (r : Request τ) : Prop :=
  r.user ≠ A → Unclaimed A db r.key r.defaults.id

instance (A : UUID) (db : Database) (r : Request τ) : Decidable (Guarded A db r) :=
  inferInstanceAs (Decidable (_ → _))

theorem unwinding (A : UUID) (pricing : List JobPricing) (decimal : String → Option DecimalValue) :
    Unwinding (service pricing decimal (τ := τ)) (fun r => r.user ≠ A) (without A)
      (Guarded A) where
  hidden := by
    intro db r mine
    exact serve_hidden (not_not.mp (of_decide_eq_false mine))
  step := by
    intro db r other guarded
    have other := of_decide_eq_true other
    exact (congrArg Prod.snd (serve_seen other (guarded other))).symm
  reply := by
    intro db r other guarded
    have other := of_decide_eq_true other
    exact (congrArg Prod.fst (serve_seen other (guarded other))).symm

def reading {α : Type} (x : LedgerM α) (db : Database) : Except LedgerError α :=
  match x.run (Session.begin db) with
  | .ok a _ => .ok a
  | .error e _ => .error e

/-- Two runs that differ in the calls for `A`: every other call gets the same reply, and
every other user has the same balance and the same history. -/
theorem noninterference {left right : Database} {run run' : List (Request τ)}
    (same : run.filter (fun r => r.user ≠ A) = run'.filter (fun r => r.user ≠ A))
    (ran : Run (service pricing decimal).next (Guarded A) db run left)
    (ran' : Run (service pricing decimal).next (Guarded A) db run' right) :
    (service pricing decimal).replies (fun r => r.user ≠ A) db run =
        (service pricing decimal).replies (fun r => r.user ≠ A) db run' ∧
      ∀ B, B ≠ A → reading (getBalance B) left = reading (getBalance B) right ∧
        ∀ limit offset,
          reading (getHistory B limit offset) left = reading (getHistory B limit offset) right := by
  obtain ⟨views, replies⟩ := (unwinding A pricing decimal).agree ran ran' same
  refine ⟨replies, ?_⟩
  intro B other
  have last : left.lastEntry B = right.lastEntry B := by
    rw [← lastEntry_without other, views, lastEntry_without other]
  have rows : ledgerView.rows B left.entries = ledgerView.rows B right.entries := by
    rw [← rows_without other, views, rows_without other]
  refine ⟨?_, ?_⟩
  · change Except.ok (currentBalance (left.lastEntry B)) = .ok (currentBalance (right.lastEntry B))
    rw [last]
  · intro limit offset
    change Except.ok ((ledgerView.newestFirst (ledgerView.rows B left.entries)).drop offset |>.take
      (min limit 100)) = .ok ((ledgerView.newestFirst (ledgerView.rows B right.entries)).drop offset
        |>.take (min limit 100))
    rw [rows]

end Serving

def ofOne (text : String) : Option DecimalValue := if text = "1" then some (.finite 1) else none

def renderJob : JobDispatch ℕ where
  id := 7
  nodeId := 3
  jobType := "render"
  payloadRef := "s3://scene"
  status := .COMPLETED
  queuedAt := 0
  dispatchedAt := some 0
  completedAt := some 1
  resultRef := none
  errorMessage := none
  retryCount := 0

def topUpFor (userId : UUID) (referenceId : String) (id : UUID) : Request ℕ :=
  .allocate ⟨userId, 100, .STRIPE, referenceId, none⟩ ⟨id, id⟩

def spend (userId : UUID) (referenceId : String) (id : UUID) : Request ℕ :=
  .deduct userId ⟨"1", referenceId, none⟩ ⟨id, id⟩

theorem noninterference_render :
    (service [] ofOne).replies (fun r => r.user ≠ 1) ⟨[1, 2], []⟩
        [topUpFor 2 "in_2" 11, .completion renderJob 2 ⟨14, 14⟩] =
      (service [] ofOne).replies (fun r => r.user ≠ 1) ⟨[1, 2], []⟩
        [topUpFor 2 "in_2" 11, topUpFor 1 "in_1" 12, spend 1 "mine" 13,
          .completion renderJob 2 ⟨14, 14⟩] := by
  have accepted : (exec (service [] ofOne).next (Guarded 1) ⟨[1, 2], []⟩
      [topUpFor 2 "in_2" 11, .completion renderJob 2 ⟨14, 14⟩]).isSome := by decide +kernel
  have accepted' : (exec (service [] ofOne).next (Guarded 1) ⟨[1, 2], []⟩
      [topUpFor 2 "in_2" 11, topUpFor 1 "in_1" 12, spend 1 "mine" 13,
        .completion renderJob 2 ⟨14, 14⟩]).isSome := by decide +kernel
  obtain ⟨left, run⟩ := run_of_isSome accepted
  obtain ⟨right, run'⟩ := run_of_isSome accepted'
  exact (noninterference (by decide +kernel) run run').1

/-- User 1 spends under the reference of a job of user 2, whose charge then goes through
with no credits at all. -/
theorem interference :
    ¬ ∀ run run' : List (Request ℕ),
      run.filter (fun r => r.user ≠ 1) = run'.filter (fun r => r.user ≠ 1) →
        (service [] ofOne).replies (fun r => r.user ≠ 1) ⟨[1, 2], []⟩ run =
          (service [] ofOne).replies (fun r => r.user ≠ 1) ⟨[1, 2], []⟩ run' := by
  intro claim
  have same := claim [.completion renderJob 2 ⟨14, 14⟩]
    [topUpFor 1 "in_1" 12, spend 1 ("job-" ++ renderJob.id.str) 13,
      .completion renderJob 2 ⟨14, 14⟩] (by decide +kernel)
  revert same
  decide +kernel

end RenderTrust.Billing
