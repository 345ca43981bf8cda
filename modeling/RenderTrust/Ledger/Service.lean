import RenderTrust.Ledger.Models
import RenderTrust.Lib.Hoare

/-!
# `core/ledger/service.py`

A session reads and writes its own transaction, `working`, over the data
committed so far. The identifier and the timestamp of a new row are Python
defaults taken at flush time, and are arguments here.
-/
namespace RenderTrust.Ledger
open Lib.Hoare

inductive LedgerError where
  | valueError (message : String)
  | insufficientCredits (userId : UUID) (requested available : Decimal)
  | integrityError
  | dataError
  | noResultFound
  | multipleResultsFound
  deriving DecidableEq, Repr

structure Session where
  committed : Database
  working : Database

def Session.begin (db : Database) : Session := ⟨db, db⟩

def Session.rollback (s : Session) : Session := { s with working := s.committed }

def Session.commit (s : Session) : Session := { s with committed := s.working }

abbrev LedgerM := EStateM LedgerError Session

instance : MonadLift (Except LedgerError) LedgerM where
  monadLift
    | .ok a => pure a
    | .error e => throw e

structure Args where
  userId : UUID
  amount : Decimal
  source : TransactionSource
  referenceId : String
  description : Option String
  deriving DecidableEq, Repr

structure Defaults where
  id : UUID
  createdAt : ℕ
  deriving DecidableEq, Repr

def scalarOneOrNone : List CreditLedgerEntry → Except LedgerError (Option CreditLedgerEntry)
  | [] => .ok none
  | [row] => .ok (some row)
  | _ :: _ :: _ => .error .multipleResultsFound

def scalarOne : List CreditLedgerEntry → Except LedgerError CreditLedgerEntry
  | [] => .error .noResultFound
  | [row] => .ok row
  | _ :: _ :: _ => .error .multipleResultsFound

/-- `SELECT … WHERE reference_id = … AND direction = …`; the driver refuses a NUL. -/
def Database.byReference (db : Database) (referenceId : String)
    (direction : TransactionDirection) : Except LedgerError (List CreditLedgerEntry) :=
  if bindable referenceId then .ok (db.entries.filter (fun e => e.key = (referenceId, direction)))
  else .error .dataError

/-- `SELECT … WHERE user_id = … ORDER BY created_at DESC LIMIT 1`. -/
def Database.lastEntry (db : Database) (userId : UUID) : Option CreditLedgerEntry :=
  ledgerView.latest userId db.entries

/-- `last_entry.balance_after if last_entry else Decimal("0.0000")`. -/
def currentBalance (lastEntry : Option CreditLedgerEntry) : Decimal := ledgerView.carried lastEntry

def newEntry (direction : TransactionDirection) (args : Args) (defaults : Defaults)
    (newBalance : Decimal) : CreditLedgerEntry where
  id := defaults.id
  userId := args.userId
  amount := args.amount
  direction := direction
  source := args.source
  referenceId := args.referenceId
  balanceAfter := newBalance
  description := args.description
  createdAt := defaults.createdAt

/-- A failed flush has already rolled the transaction back. -/
def flush (entry : CreditLedgerEntry) : LedgerM Unit := do
  match (← get).working.insert entry with
  | .ok db => modify fun s => { s with working := db }
  | .error .integrityError =>
      modify Session.rollback
      throw .integrityError
  | .error .dataError =>
      modify Session.rollback
      throw .dataError

/-- The common body of the two functions. They differ in the direction, the text of
the ValueError and the step from the current to the new balance. -/
def postEntry (direction : TransactionDirection) (notPositive : String)
    (settle : Decimal → Except LedgerError Decimal) (args : Args) (defaults : Defaults) :
    LedgerM CreditLedgerEntry := do
  if args.amount ≤ 0 then throw (.valueError notPositive)
  let existing ← (← get).working.byReference args.referenceId direction
  match ← scalarOneOrNone existing with
  | some existingEntry => pure existingEntry
  | none =>
    let lastEntry := (← get).working.lastEntry args.userId
    let newBalance ← settle (currentBalance lastEntry)
    let entry := newEntry direction args defaults newBalance
    try
      flush entry
      pure entry
    catch
      | .integrityError =>
        modify Session.rollback
        let existing ← (← get).working.byReference args.referenceId direction
        scalarOne existing
      | error => throw error

/-! ## Between the statements

Other transactions commit while a call runs, and its next statement reads what they
committed. A row that this session's uncommitted rows refuse has to wait. -/

structure Meanwhile where
  select : List CreditLedgerEntry
  lock : List CreditLedgerEntry
  flush : List CreditLedgerEntry
  reselect : List CreditLedgerEntry
  deriving DecidableEq, Repr

def Meanwhile.quiet : Meanwhile := ⟨[], [], [], []⟩

def Session.receive (s : Session) (e : CreditLedgerEntry) : Session :=
  match e.stored with
  | none => s
  | some row =>
      if s.working.Checks row ∧ s.working.Unique row then
        ⟨s.committed.append row, s.working.append row⟩
      else s

def Session.meet (s : Session) (others : List CreditLedgerEntry) : Session :=
  others.foldl Session.receive s

def postEntryAmid (others : Meanwhile) (direction : TransactionDirection) (notPositive : String)
    (settle : Decimal → Except LedgerError Decimal) (args : Args) (defaults : Defaults) :
    LedgerM CreditLedgerEntry := do
  if args.amount ≤ 0 then throw (.valueError notPositive)
  modify fun s => s.meet others.select
  let existing ← (← get).working.byReference args.referenceId direction
  match ← scalarOneOrNone existing with
  | some existingEntry => pure existingEntry
  | none =>
    modify fun s => s.meet others.lock
    let lastEntry := (← get).working.lastEntry args.userId
    let newBalance ← settle (currentBalance lastEntry)
    let entry := newEntry direction args defaults newBalance
    modify fun s => s.meet others.flush
    try
      flush entry
      pure entry
    catch
      | .integrityError =>
        modify fun s => s.rollback.meet others.reselect
        let existing ← (← get).working.byReference args.referenceId direction
        scalarOne existing
      | error => throw error

theorem postEntry_eq (direction : TransactionDirection) (notPositive : String)
    (settle : Decimal → Except LedgerError Decimal) (args : Args) (defaults : Defaults) :
    postEntry direction notPositive settle args defaults =
      postEntryAmid .quiet direction notPositive settle args defaults := rfl

def creditSettle (amount current : Decimal) : Except LedgerError Decimal :=
  .ok (decimalAdd current amount)

def debitSettle (userId : UUID) (amount current : Decimal) : Except LedgerError Decimal :=
  let newBalance := decimalSub current amount
  if newBalance < 0 then .error (.insufficientCredits userId amount current) else .ok newBalance

theorem debitSettle_ok_iff {userId : UUID} {amount current newBalance : Decimal} :
    debitSettle userId amount current = .ok newBalance ↔
      decimalSub current amount = newBalance ∧ 0 ≤ newBalance := by
  unfold debitSettle
  by_cases short : decimalSub current amount < 0
  · rw [if_pos short]
    refine iff_of_false nofun ?_
    rintro ⟨rfl, nonneg⟩
    exact absurd short (not_lt.mpr nonneg)
  · rw [if_neg short, Except.ok.injEq, iff_self_and]
    rintro rfl
    exact not_lt.mp short

theorem debitSettle_error_iff {userId : UUID} {amount current : Decimal} {e : LedgerError} :
    debitSettle userId amount current = .error e ↔
      decimalSub current amount < 0 ∧ .insufficientCredits userId amount current = e := by
  unfold debitSettle
  by_cases short : decimalSub current amount < 0
  · rw [if_pos short, Except.error.injEq, and_iff_right short]
  · rw [if_neg short]
    exact iff_of_false nofun fun both => short both.1

def allocateCredits (args : Args) (defaults : Defaults) : LedgerM CreditLedgerEntry :=
  postEntry .CREDIT "Credit amount must be positive" (creditSettle args.amount) args defaults

def deductCredits (args : Args) (defaults : Defaults) : LedgerM CreditLedgerEntry :=
  postEntry .DEBIT "Debit amount must be positive" (debitSettle args.userId args.amount) args
    defaults

def getBalance (userId : UUID) : LedgerM Decimal := do
  return currentBalance ((← get).working.lastEntry userId)

def getHistory (userId : UUID) (limit offset : ℕ) : LedgerM (List CreditLedgerEntry) := do
  let clampedLimit := min limit 100
  let rows := ledgerView.newestFirst (ledgerView.rows userId (← get).working.entries)
  return (rows.drop offset).take clampedLimit

/-! ## What a call can do -/

/-- The result of a step that leaves the session as it is. -/
def atSession {α : Type} (x : Except LedgerError α) (s : Session) :
    EStateM.Result LedgerError Session α :=
  match x with
  | .ok a => .ok a s
  | .error e => .error e s

theorem run_throw {α : Type} (e : LedgerError) (s : Session) :
    (throw e : LedgerM α).run s = .error e s := rfl

theorem run_lift_ok {α : Type} {x : Except LedgerError α} {a : α} (h : x = .ok a) (s : Session) :
    (liftM x : LedgerM α).run s = .ok a s := by
  subst h
  rfl

theorem run_lift_error {α : Type} {x : Except LedgerError α} {e : LedgerError} (h : x = .error e)
    (s : Session) : (liftM x : LedgerM α).run s = .error e s := by
  subst h
  rfl

theorem run_lift_bind {α β : Type} (x : Except LedgerError α)
    (f : α → Except LedgerError β) (s : Session) :
    (do let a ← (liftM x : LedgerM α); liftM (f a) : LedgerM β).run s = atSession (x.bind f) s := by
  cases x with
  | error e => rfl
  | ok a =>
      change (liftM (f a) : LedgerM β).run s = atSession (f a) s
      cases f a <;> rfl

theorem run_tryCatch {α : Type} (x : LedgerM α) (handle : LedgerError → LedgerM α)
    (s : Session) :
    (tryCatch x handle : LedgerM α).run s = match x.run s with
      | .ok a s => .ok a s
      | .error e s => (handle e).run s := by
  simp only [tryCatch, tryCatchThe, MonadExceptOf.tryCatch, EStateM.tryCatch, EStateM.run]
  cases x s <;> rfl

theorem run_flush_ok {entry : CreditLedgerEntry} {s : Session} {db : Database}
    (h : s.working.insert entry = .ok db) :
    (flush entry).run s = .ok () { s with working := db } := by
  simp only [flush, EStateM.run_bind, EStateM.run_get, h, EStateM.run_modify]

theorem run_flush_integrity {entry : CreditLedgerEntry} {s : Session} 
    (h : s.working.insert entry = .error .integrityError) :
    (flush entry).run s = .error .integrityError s.rollback := by
  simp only [flush, EStateM.run_bind, EStateM.run_get, h, EStateM.run_modify, run_throw]

theorem run_flush_data {entry : CreditLedgerEntry} {s : Session} 
    (h : s.working.insert entry = .error .dataError) :
    (flush entry).run s = .error .dataError s.rollback := by
  simp only [flush, EStateM.run_bind, EStateM.run_get, h, EStateM.run_modify, run_throw]

section Passage
variable (others : Meanwhile) (direction : TransactionDirection) (notPositive : String)
  (settle : Decimal → Except LedgerError Decimal) (args : Args) (defaults : Defaults)

/-- Everything `postEntryAmid` can do from session `s`: `t` is the session at the first
SELECT, `u` that at the second, `v` that at the flush and `w` that at the last SELECT. -/
inductive Passage (s : Session) : EStateM.Result LedgerError Session CreditLedgerEntry → Prop
  | rejected : args.amount ≤ 0 → Passage s (.error (.valueError notPositive) s)
  | unreadable {e t} : 0 < args.amount → t = s.meet others.select →
      (t.working.byReference args.referenceId direction).bind scalarOneOrNone = .error e →
      Passage s (.error e t)
  | replayed {row t} : 0 < args.amount → t = s.meet others.select →
      (t.working.byReference args.referenceId direction).bind scalarOneOrNone = .ok (some row) →
      Passage s (.ok row t)
  | refused {e t u} : 0 < args.amount → t = s.meet others.select → u = t.meet others.lock →
      (t.working.byReference args.referenceId direction).bind scalarOneOrNone = .ok none →
      settle (currentBalance (u.working.lastEntry args.userId)) = .error e →
      Passage s (.error e u)
  | posted {newBalance db t u v} : 0 < args.amount → t = s.meet others.select →
      u = t.meet others.lock → v = u.meet others.flush →
      (t.working.byReference args.referenceId direction).bind scalarOneOrNone = .ok none →
      settle (currentBalance (u.working.lastEntry args.userId)) = .ok newBalance →
      v.working.insert (newEntry direction args defaults newBalance) = .ok db →
      Passage s (.ok (newEntry direction args defaults newBalance) { v with working := db })
  | unstorable {newBalance t u v} : 0 < args.amount → t = s.meet others.select →
      u = t.meet others.lock → v = u.meet others.flush →
      (t.working.byReference args.referenceId direction).bind scalarOneOrNone = .ok none →
      settle (currentBalance (u.working.lastEntry args.userId)) = .ok newBalance →
      v.working.insert (newEntry direction args defaults newBalance) = .error .dataError →
      Passage s (.error .dataError v.rollback)
  | conflicting {newBalance t u v w} : 0 < args.amount → t = s.meet others.select →
      u = t.meet others.lock → v = u.meet others.flush → w = v.rollback.meet others.reselect →
      (t.working.byReference args.referenceId direction).bind scalarOneOrNone = .ok none →
      settle (currentBalance (u.working.lastEntry args.userId)) = .ok newBalance →
      v.working.insert (newEntry direction args defaults newBalance) = .error .integrityError →
      Passage s (atSession ((w.working.byReference args.referenceId direction).bind scalarOne) w)

variable {others direction notPositive settle args defaults}

theorem postEntryAmid_passage (s : Session) :
    Passage others direction notPositive settle args defaults s
      ((postEntryAmid others direction notPositive settle args defaults).run s) := by
  unfold postEntryAmid
  split
  · rename_i small
    exact .rejected small
  · rename_i positive
    rw [not_le] at positive
    rw [run_bind_ok (EStateM.run_modify _ s)]
    generalize ht : s.meet others.select = t
    rw [run_bind_ok (EStateM.run_get t)]
    cases hrows : t.working.byReference args.referenceId direction with
    | error e =>
        rw [run_bind_error (run_lift_error rfl t)]
        exact .unreadable positive ht.symm (by rw [hrows]; rfl)
    | ok rows =>
        rw [run_bind_ok (run_lift_ok rfl t)]
        cases hfound : scalarOneOrNone rows with
        | error e =>
            rw [run_bind_error (run_lift_error rfl t)]
            exact .unreadable positive ht.symm (by rw [hrows]; exact hfound)
        | ok found =>
            have existing :
                (t.working.byReference args.referenceId direction).bind scalarOneOrNone =
                  .ok found := by
              rw [hrows]
              exact hfound
            rw [run_bind_ok (run_lift_ok rfl t)]
            cases found with
            | some row => exact .replayed positive ht.symm existing
            | none =>
                dsimp only
                rw [run_bind_ok (EStateM.run_modify _ t)]
                generalize hu : t.meet others.lock = u
                rw [run_bind_ok (EStateM.run_get u)]
                cases settled : settle (currentBalance (u.working.lastEntry args.userId)) with
                | error e =>
                    rw [run_bind_error (run_lift_error rfl u)]
                    exact .refused positive ht.symm hu.symm existing settled
                | ok newBalance =>
                    rw [run_bind_ok (run_lift_ok rfl u),
                      run_bind_ok (EStateM.run_modify _ u), run_tryCatch]
                    generalize hv : u.meet others.flush = v
                    cases inserted :
                        v.working.insert (newEntry direction args defaults newBalance) with
                    | ok db =>
                        rw [run_bind_ok (run_flush_ok inserted)]
                        exact .posted positive ht.symm hu.symm hv.symm existing settled inserted
                    | error e =>
                        cases e with
                        | dataError =>
                            rw [run_bind_error (run_flush_data inserted)]
                            exact .unstorable positive ht.symm hu.symm hv.symm existing settled
                              inserted
                        | integrityError =>
                            rw [run_bind_error (run_flush_integrity inserted)]
                            have again : Passage others direction notPositive settle args defaults s
                                (atSession _ (v.rollback.meet others.reselect)) :=
                              .conflicting positive ht.symm hu.symm hv.symm rfl existing settled
                                inserted
                            rw [← run_lift_bind] at again
                            exact again

end Passage

section Posting
variable (direction : TransactionDirection) (notPositive : String)
  (settle : Decimal → Except LedgerError Decimal) (args : Args) (defaults : Defaults)

/-- Everything `postEntry` can do from session `s`. -/
inductive Posting (s : Session) : EStateM.Result LedgerError Session CreditLedgerEntry → Prop
  | rejected : args.amount ≤ 0 → Posting s (.error (.valueError notPositive) s)
  | unreadable {e} : 0 < args.amount →
      (s.working.byReference args.referenceId direction).bind scalarOneOrNone = .error e →
      Posting s (.error e s)
  | replayed {row} : 0 < args.amount →
      (s.working.byReference args.referenceId direction).bind scalarOneOrNone = .ok (some row) →
      Posting s (.ok row s)
  | refused {e} : 0 < args.amount →
      (s.working.byReference args.referenceId direction).bind scalarOneOrNone = .ok none →
      settle (currentBalance (s.working.lastEntry args.userId)) = .error e →
      Posting s (.error e s)
  | posted {newBalance db} : 0 < args.amount →
      (s.working.byReference args.referenceId direction).bind scalarOneOrNone = .ok none →
      settle (currentBalance (s.working.lastEntry args.userId)) = .ok newBalance →
      s.working.insert (newEntry direction args defaults newBalance) = .ok db →
      Posting s (.ok (newEntry direction args defaults newBalance) { s with working := db })
  | unstorable {newBalance} : 0 < args.amount →
      (s.working.byReference args.referenceId direction).bind scalarOneOrNone = .ok none →
      settle (currentBalance (s.working.lastEntry args.userId)) = .ok newBalance →
      s.working.insert (newEntry direction args defaults newBalance) = .error .dataError →
      Posting s (.error .dataError s.rollback)
  | conflicting {newBalance} : 0 < args.amount →
      (s.working.byReference args.referenceId direction).bind scalarOneOrNone = .ok none →
      settle (currentBalance (s.working.lastEntry args.userId)) = .ok newBalance →
      s.working.insert (newEntry direction args defaults newBalance) = .error .integrityError →
      Posting s (atSession
        ((s.committed.byReference args.referenceId direction).bind scalarOne) s.rollback)

variable {direction notPositive settle args defaults}

theorem postEntry_posting (s : Session) :
    Posting direction notPositive settle args defaults s
      ((postEntry direction notPositive settle args defaults).run s) := by
  rw [postEntry_eq]
  have all : Passage .quiet direction notPositive settle args defaults s _ :=
    postEntryAmid_passage s
  generalize (postEntryAmid .quiet direction notPositive settle args defaults).run s = r at all ⊢
  cases all with
  | rejected small => exact .rejected small
  | unreadable positive ht existing =>
      subst ht
      exact .unreadable positive existing
  | replayed positive ht existing =>
      subst ht
      exact .replayed positive existing
  | refused positive ht hu existing settled =>
      subst ht hu
      exact .refused positive existing settled
  | posted positive ht hu hv existing settled inserted =>
      subst ht hu hv
      exact .posted positive existing settled inserted
  | unstorable positive ht hu hv existing settled inserted =>
      subst ht hu hv
      exact .unstorable positive existing settled inserted
  | conflicting positive ht hu hv hw existing settled inserted =>
      subst ht hu hv hw
      exact .conflicting positive existing settled inserted

end Posting

/-- A call of `allocate_credits` (CREDIT) or `deduct_credits` (DEBIT). -/
structure Call where
  direction : TransactionDirection
  args : Args
  deriving DecidableEq, Repr

def Call.run (c : Call) (defaults : Defaults) : LedgerM CreditLedgerEntry :=
  match c.direction with
  | .CREDIT => allocateCredits c.args defaults
  | .DEBIT => deductCredits c.args defaults

def Call.notPositive (c : Call) : String :=
  match c.direction with
  | .CREDIT => "Credit amount must be positive"
  | .DEBIT => "Debit amount must be positive"

def Call.settle (c : Call) : Decimal → Except LedgerError Decimal :=
  match c.direction with
  | .CREDIT => creditSettle c.args.amount
  | .DEBIT => debitSettle c.args.userId c.args.amount

theorem Call.run_posting (c : Call) (defaults : Defaults) (s : Session) :
    Posting c.direction c.notPositive c.settle c.args defaults s ((c.run defaults).run s) := by
  cases c with
  | mk direction args => cases direction <;> exact postEntry_posting s

def Call.runAmid (c : Call) (defaults : Defaults) (others : Meanwhile) :
    LedgerM CreditLedgerEntry :=
  postEntryAmid others c.direction c.notPositive c.settle c.args defaults

theorem Call.run_eq (c : Call) (defaults : Defaults) :
    c.run defaults = c.runAmid defaults .quiet := by
  cases c with
  | mk direction args => cases direction <;> rfl

/-- A call that raises has written nothing; only a failed flush touches the session,
and what it does is roll it back. -/
theorem Call.run_error {c : Call} {defaults : Defaults} {s t : Session} {e : LedgerError}
    (h : (c.run defaults).run s = .error e t) : t = s ∨ t = s.rollback := by
  have all := c.run_posting defaults s
  rw [h] at all
  generalize hr : EStateM.Result.error e t = r at all
  cases all with
  | rejected => cases hr; exact .inl rfl
  | unreadable => cases hr; exact .inl rfl
  | replayed => cases hr
  | refused => cases hr; exact .inl rfl
  | posted => cases hr
  | unstorable => cases hr; exact .inr rfl
  | conflicting =>
      revert hr
      cases (s.committed.byReference c.args.referenceId c.direction).bind scalarOne with
      | error e => intro hr; cases hr; exact .inr rfl
      | ok row => intro hr; cases hr

end RenderTrust.Ledger
