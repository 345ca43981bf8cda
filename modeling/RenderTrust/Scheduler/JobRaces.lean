import Mathlib.Data.List.Chain
import RenderTrust.Lib.Hoare
import RenderTrust.Lib.Tasks
import RenderTrust.Scheduler.JobService

/-!
# Concurrent calls on one job

Any number of `update_job_status` and `cancel_job` on one job at READ COMMITTED. A
transaction checks the status it has read; its UPDATE waits for the lock of the row and
then sets the columns of the call, whatever was committed in between.
-/
namespace RenderTrust.Scheduler
open Lib Lib.Hoare Lib.Tasks Lib.Runs

variable {ι τ L : Type}

inductive JobChange where
  | update (newStatus : JobStatus) (resultRef errorMessage : Option String)
  | cancel

namespace JobChange

def target : JobChange → JobStatus
  | .update newStatus _ _ => newStatus
  | .cancel => .FAILED

/-- What the call makes of the row that it read. -/
def write (now : τ) (job : JobDispatch τ) : JobChange → Except SchedulerError (JobDispatch τ)
  | .update newStatus resultRef errorMessage =>
      if newStatus ∉ VALID_TRANSITIONS job.status then
        .error (.valueError (invalidTransition job.status newStatus))
      else .ok (job.updated now newStatus resultRef errorMessage)
  | .cancel =>
      if job.status ≠ .QUEUED ∧ job.status ≠ .DISPATCHED then
        .error (.valueError (cannotCancel job.status))
      else .ok (job.cancelled now)

def call (now : τ) (jobId : Uuid) : JobChange → SchedulerM τ L (JobDispatch τ)
  | .update newStatus resultRef errorMessage =>
      updateJobStatus now jobId newStatus resultRef errorMessage
  | .cancel => cancelJob now jobId

theorem call_run (now : τ) (jobId : Uuid) (change : JobChange) (s : Store τ L) :
    (change.call now jobId).run s =
      match s.jobById jobId with
      | none => .error (.valueError (jobNotFound jobId)) s
      | some job =>
          match change.write now job with
          | .error e => .error e s
          | .ok written => (flushJob written).run s := by
  cases change with
  | update newStatus resultRef errorMessage =>
      simp only [call, updateJobStatus, write, EStateM.run_bind, EStateM.run_get]
      cases s.jobById jobId with
      | none => rfl
      | some job =>
          simp only
          split <;> rfl
  | cancel =>
      simp only [call, cancelJob, write, EStateM.run_bind, EStateM.run_get]
      cases s.jobById jobId with
      | none => rfl
      | some job =>
          simp only
          split <;> rfl

/-- What is written is the target of the call, allowed after what was read. -/
theorem write_ok {now : τ} {job written : JobDispatch τ} {change : JobChange}
    (h : change.write now job = .ok written) :
    written.status = change.target ∧ change.target ∈ VALID_TRANSITIONS job.status := by
  cases change with
  | update newStatus resultRef errorMessage =>
      simp only [write] at h
      split at h
      · cases h
      · rename_i allowed
        cases h
        exact ⟨rfl, not_not.mp allowed⟩
  | cancel =>
      simp only [write] at h
      split at h
      · cases h
      · rename_i cancellable
        cases h
        refine ⟨rfl, ?_⟩
        cases read : job.status <;> simp_all [target, VALID_TRANSITIONS]

end JobChange

theorem not_mem_VALID_TRANSITIONS_self (status : JobStatus) :
    status ∉ VALID_TRANSITIONS status := by
  cases status <;> decide

/-- The `UPDATE` of a row that was `read` and then `written`: it sets the columns that
differ, in the row as it is `committed`. -/
def JobDispatch.merge [DecidableEq τ] (read written committed : JobDispatch τ) : JobDispatch τ :=
  { committed with
    status := if written.status = read.status then committed.status else written.status
    dispatchedAt :=
      if written.dispatchedAt = read.dispatchedAt then committed.dispatchedAt
      else written.dispatchedAt
    completedAt :=
      if written.completedAt = read.completedAt then committed.completedAt
      else written.completedAt
    resultRef :=
      if written.resultRef = read.resultRef then committed.resultRef else written.resultRef
    errorMessage :=
      if written.errorMessage = read.errorMessage then committed.errorMessage
      else written.errorMessage
    retryCount :=
      if written.retryCount = read.retryCount then committed.retryCount else written.retryCount }

/-! ## The transactions -/

/-- The committed row, the statuses committed so far with their transactions, newest first,
and the transaction that holds the lock of the row. -/
structure JobRow (ι : Type) where
  job : JobDispatch ℕ
  log : List (ι × JobStatus)
  lock : Option ι

inductive JobTransaction where
  | begun
  | selected (read written : JobDispatch ℕ)
  | updated (row : JobDispatch ℕ)
  | committed (row : JobDispatch ℕ)
  | raised (error : SchedulerError)

inductive JobStep where
  | select (now : ℕ)
  | update
  | commit

variable {change : ι → JobChange} {first : JobDispatch ℕ}

def JobTransaction.advance (change : JobChange) (i : ι) (s : JobRow ι) :
    JobStep → JobTransaction → Option (JobRow ι × JobTransaction)
  | .select now, .begun =>
      match change.write now s.job with
      | .error e => some (s, .raised e)
      | .ok written => some (s, .selected s.job written)
  | .update, .selected read written =>
      if s.lock = none then
        if written.storable then
          some ({ s with lock := some i }, .updated (read.merge written s.job))
        else some (s, .raised .dataError)
      else none
  | .commit, .updated row =>
      some (⟨row, (i, row.status) :: s.log, none⟩, .committed row)
  | _, _ => none

def jobTransactions (change : ι → JobChange) :
    Program ι (JobRow ι) JobTransaction JobStep Empty where
  act i step s l := l.advance (change i) i s step
  change e _ := e.elim

def jobOpening (ι : Type) (first : JobDispatch ℕ) : System ι (JobRow ι) JobTransaction :=
  ⟨⟨first, [], none⟩, fun _ => .begun⟩

theorem JobDispatch.merge_status {read written committed : JobDispatch ℕ}
    (changed : written.status ≠ read.status) :
    (read.merge written committed).status = written.status :=
  if_neg changed

theorem JobDispatch.merge_self (read written : JobDispatch ℕ) : read.merge written read =
    { read with
      status := written.status
      dispatchedAt := written.dispatchedAt
      completedAt := written.completedAt
      resultRef := written.resultRef
      errorMessage := written.errorMessage
      retryCount := written.retryCount } := by
  have set {α : Type} [DecidableEq α] (new old : α) : (if new = old then old else new) = new := by
    split
    · rename_i same
      exact same.symm
    · rfl
  simp only [merge, set]

/-- The calls change no other column. -/
theorem JobDispatch.merge_write {now : ℕ} {read written : JobDispatch ℕ} {change : JobChange}
    (h : change.write now read = .ok written) : read.merge written read = written := by
  rw [merge_self]
  cases change with
  | update newStatus resultRef errorMessage =>
      simp only [JobChange.write] at h
      split at h
      · cases h
      · cases h
        rfl
  | cancel =>
      simp only [JobChange.write] at h
      split at h
      · cases h
      · cases h
        rfl

/-! ## A transaction that is alone -/

section Alone
variable {i : ι} {now : ℕ} {s : JobRow ι}

theorem alone_refused {e : SchedulerError} (refused : (change i).write now s.job = .error e) :
    JobTransaction.begun.advance (change i) i s (.select now) = some (s, .raised e) := by
  simp only [JobTransaction.advance, refused]

/-- The three steps in a row write what the call writes. -/
theorem alone_written {written : JobDispatch ℕ} (free : s.lock = none)
    (accepted : (change i).write now s.job = .ok written) (fits : written.storable) :
    JobTransaction.begun.advance (change i) i s (.select now) =
        some (s, .selected s.job written) ∧
      (JobTransaction.selected s.job written).advance (change i) i s .update =
        some ({ s with lock := some i }, .updated written) ∧
      (JobTransaction.updated written).advance (change i) i { s with lock := some i } .commit =
        some (⟨written, (i, written.status) :: s.log, none⟩, .committed written) := by
  refine ⟨?_, ?_, rfl⟩
  · simp only [JobTransaction.advance, accepted]
  · simp only [JobTransaction.advance, if_pos free, if_pos fits, JobDispatch.merge_write accepted]

end Alone

/-! ## What the transactions keep -/

/-- At its `UPDATE`, what the transaction has read is still the status of the job, or the
status that it writes is allowed after the newer one. -/
def JobTransaction.Current (target status : JobStatus) : JobStep → JobTransaction → Prop
  | .update, .selected read _ => read.status = status ∨ target ∈ VALID_TRANSITIONS status
  | _, _ => True

instance (target status : JobStatus) (step : JobStep) (l : JobTransaction) :
    Decidable (l.Current target status step) := by
  unfold JobTransaction.Current
  split <;> infer_instance

/-- The step of a transaction that overwrites no newer status. -/
def Current (change : ι → JobChange) (s : System ι (JobRow ι) JobTransaction) :
    Move ι JobStep Empty → Prop
  | .task i step => (s.task i).Current (change i).target s.shared.job.status step
  | .environment e => e.elim

instance (s : System ι (JobRow ι) JobTransaction) (m : Move ι JobStep Empty) :
    Decidable (Current change s m) := by
  cases m with
  | task i step => exact inferInstanceAs (Decidable (JobTransaction.Current _ _ _ _))
  | environment e => exact e.elim

namespace JobRow

/-- The statuses that were committed, newest first, the `first` at the end. -/
def statuses (first : JobDispatch ℕ) (s : JobRow ι) : List JobStatus :=
  s.log.map Prod.snd ++ [first.status]

structure Logged (change : ι → JobChange) (first : JobDispatch ℕ) (s : JobRow ι) : Prop where
  moves : (s.statuses first).IsChain fun later earlier => later ∈ VALID_TRANSITIONS earlier
  newest : (s.statuses first).head? = some s.job.status
  targets : ∀ entry ∈ s.log, entry.2 = (change entry.1).target

/-- What is known of one transaction. -/
def Knows (change : ι → JobChange) (i : ι) (s : JobRow ι) : JobTransaction → Prop
  | .selected read written => s.lock ≠ some i ∧ written.status = (change i).target ∧
      (change i).target ∈ VALID_TRANSITIONS read.status
  | .updated row => s.lock = some i ∧ row.status = (change i).target ∧
      (change i).target ∈ VALID_TRANSITIONS s.job.status
  | .begun | .committed _ | .raised _ => s.lock ≠ some i

end JobRow

/-- A transaction reads, raises, takes the lock, or commits. -/
inductive JobTransaction.Advances (change : JobChange) (i : ι) (s : JobRow ι) :
    JobStep → JobTransaction → JobRow ι → JobTransaction → Prop
  | raises {step : JobStep} {l : JobTransaction} {e : SchedulerError}
      (unwritten : ∀ row, l ≠ .updated row) : Advances change i s step l s (.raised e)
  | selects {now : ℕ} {written : JobDispatch ℕ} (target : written.status = change.target)
      (allowed : change.target ∈ VALID_TRANSITIONS s.job.status) :
      Advances change i s (.select now) .begun s (.selected s.job written)
  | updates {read written : JobDispatch ℕ} (free : s.lock = none) :
      Advances change i s .update (.selected read written) { s with lock := some i }
        (.updated (read.merge written s.job))
  | commits {row : JobDispatch ℕ} :
      Advances change i s .commit (.updated row) ⟨row, (i, row.status) :: s.log, none⟩
        (.committed row)

theorem JobTransaction.advances_of_advance {change : JobChange} {i : ι} {s s' : JobRow ι}
    {step : JobStep} {l l' : JobTransaction} (moved : l.advance change i s step = some (s', l')) :
    l.Advances change i s step s' l' := by
  unfold advance at moved
  split at moved
  · rename_i now
    cases wrote : change.write now s.job with
    | error e =>
        simp only [wrote] at moved
        cases moved
        exact .raises fun _ same => by cases same
    | ok written =>
        simp only [wrote] at moved
        cases moved
        obtain ⟨target, allowed⟩ := JobChange.write_ok wrote
        exact .selects target allowed
  · split at moved
    · rename_i free
      split at moved
      · cases moved
        exact .updates free
      · cases moved
        exact .raises fun _ same => by cases same
    · cases moved
  · cases moved
    exact .commits
  · cases moved

section Steps
variable {i : ι} {s s' : JobRow ι} {step : JobStep} {l l' : JobTransaction}

/-- A transaction that is not the last to write holds no lock. -/
theorem JobRow.Knows.unlocked (h : s.Knows change i l) (unwritten : ∀ row, l ≠ .updated row) :
    s.lock ≠ some i := by
  cases l with
  | begun | committed _ | raised _ => exact h
  | selected _ _ => exact h.1
  | updated row => exact absurd rfl (unwritten row)

theorem JobRow.statuses_cons {job : JobDispatch ℕ} {status : JobStatus} {lock : Option ι} :
    statuses first ⟨job, (i, status) :: s.log, lock⟩ = status :: s.statuses first := rfl

theorem JobRow.Knows.merged {read written : JobDispatch ℕ}
    (h : s.Knows change i (.selected read written)) :
    (read.merge written s.job).status = (change i).target := by
  obtain ⟨-, target, allowed⟩ := h
  rw [JobDispatch.merge_status, target]
  intro same
  rw [← target, same] at allowed
  exact not_mem_VALID_TRANSITIONS_self _ allowed

/-- The condition is exact: what is written is allowed after the last committed status if
and only if it is met. -/
theorem JobRow.Knows.current_iff {read written : JobDispatch ℕ}
    (h : s.Knows change i (.selected read written)) :
    (JobTransaction.selected read written).Current (change i).target s.job.status .update ↔
      (read.merge written s.job).status ∈ VALID_TRANSITIONS s.job.status := by
  rw [h.merged]
  constructor
  · rintro (same | later)
    · rw [← same]
      exact h.2.2
    · exact later
  · exact .inr

theorem own_step (logged : s.Logged change first) (knows : s.Knows change i l)
    (current : l.Current (change i).target s.job.status step)
    (moved : l.Advances (change i) i s step s' l') :
    s'.Logged change first ∧ s'.Knows change i l' := by
  cases moved with
  | raises unwritten => exact ⟨logged, knows.unlocked unwritten⟩
  | selects target allowed => exact ⟨logged, knows, target, allowed⟩
  | updates free =>
      have allowed := knows.current_iff.mp current
      rw [knows.merged] at allowed
      exact ⟨⟨logged.moves, logged.newest, logged.targets⟩, rfl, knows.merged, allowed⟩
  | commits =>
      rename_i row
      obtain ⟨-, target, allowed⟩ := knows
      refine ⟨⟨?_, rfl, ?_⟩, fun held => by cases held⟩
      · rw [JobRow.statuses_cons]
        apply logged.moves.cons
        intro earlier newest
        rw [logged.newest] at newest
        cases newest
        rw [target]
        exact allowed
      · intro entry member
        rcases List.mem_cons.mp member with rfl | older
        · exact target
        · exact logged.targets entry older

theorem others_step {j : ι} {other : JobTransaction} (differs : j ≠ i) (knows : s.Knows change i l)
    (known : s.Knows change j other) (moved : l.Advances (change i) i s step s' l') :
    s'.Knows change j other := by
  cases moved with
  | raises _ | selects _ _ => exact known
  | updates free =>
      have mine : (some i : Option ι) ≠ some j := fun same => differs (Option.some.inj same).symm
      cases other with
      | begun | committed _ | raised _ => exact mine
      | selected _ _ => exact ⟨mine, known.2⟩
      | updated _ =>
          have held := known.1
          rw [free] at held
          cases held
  | commits =>
      have released : (none : Option ι) ≠ some j := (Option.some_ne_none j).symm
      cases other with
      | begun | committed _ | raised _ => exact released
      | selected _ _ => exact ⟨released, known.2⟩
      | updated _ =>
          have same := knows.1.symm.trans known.1
          exact absurd (Option.some.inj same).symm differs

end Steps

theorem stable_jobTransactions (change : ι → JobChange) (first : JobDispatch ℕ) :
    Stable (jobTransactions change) (Current change) (JobRow.Logged change first)
      (fun i s l => s.Knows change i l) where
  own _ i _ _ _ holds current moved :=
    own_step holds.shared (holds.task i) current (JobTransaction.advances_of_advance moved)
  others _ i _ _ _ holds _ moved j differs :=
    others_step differs (holds.task i) (holds.task j) (JobTransaction.advances_of_advance moved)
  environment _ e := e.elim

theorem holds_jobOpening : Holds (JobRow.Logged change first) (fun i s l => s.Knows change i l)
    (jobOpening ι first) := by
  refine ⟨⟨List.isChain_singleton _, rfl, ?_⟩, fun i held => by cases held⟩
  intro entry member
  cases member

/-! ## The runs -/

/-- The statuses move along `VALID_TRANSITIONS`: nothing comes after COMPLETED, and after a
cancellation nothing but a retry. -/
structure JobRow.Lawful (change : ι → JobChange) (first : JobDispatch ℕ) (s : JobRow ι) : Prop where
  moves : (s.statuses first).IsChain fun later earlier => later ∈ VALID_TRANSITIONS earlier
  completed : .COMPLETED ∉ (s.statuses first).tail
  cancelled : ∀ i j old new, [(j, new), (i, old)] <:+: s.log → change i = .cancel → new = .QUEUED

theorem completed_final {statuses : List JobStatus}
    (h : statuses.IsChain fun later earlier => later ∈ VALID_TRANSITIONS earlier) :
    .COMPLETED ∉ statuses.tail := by
  induction statuses with
  | nil => exact List.not_mem_nil
  | cons later rest ih =>
      cases rest with
      | nil => exact List.not_mem_nil
      | cons earlier rest =>
          obtain ⟨allowed, older⟩ := List.isChain_cons_cons.mp h
          intro member
          rcases List.mem_cons.mp member with rfl | deeper
          · cases allowed
          · exact ih older deeper

theorem JobRow.Logged.lawful {s : JobRow ι} (h : s.Logged change first) :
    s.Lawful change first := by
  refine ⟨h.moves, completed_final h.moves, ?_⟩
  rintro i j old new ⟨newer, older, logged⟩ cancels
  have target := h.targets (i, old) (logged ▸ by simp)
  rw [cancels] at target
  have chain := h.moves
  rw [JobRow.statuses, ← logged] at chain
  simp only [List.map_append, List.map_cons, List.append_assoc, List.cons_append,
    List.nil_append] at chain
  have link := (List.isChain_append_cons_cons.mp chain).2.1
  simp only at target
  rw [target] at link
  exact List.mem_singleton.mp link

theorem lawful_of_run [DecidableEq ι] {steps : List (Move ι JobStep Empty)}
    {t : System ι (JobRow ι) JobTransaction}
    (run : Run (jobTransactions change).step (Current change) (jobOpening ι first) steps t) :
    t.shared.Lawful change first :=
  ((stable_jobTransactions change first).run run holds_jobOpening).shared.lawful

/-! ## Two races -/

def dispatchedJob : JobDispatch ℕ :=
  ⟨1, 2, "render", "s3://scene", .DISPATCHED, 0, some 5, none, none, none, 0⟩

/-- One node starts the job while a user cancels it. -/
def startOrCancel : Fin 2 → JobChange
  | 0 => .cancel
  | 1 => .update .RUNNING none none

/-- The start is committed first, and RUNNING allows FAILED. -/
theorem lawful_of_run_started : ∃ t, Run (jobTransactions startOrCancel).step
      (Current startOrCancel) (jobOpening (Fin 2) dispatchedJob)
      [.task 0 (.select 10), .task 1 (.select 11), .task 1 .update, .task 1 .commit,
        .task 0 .update, .task 0 .commit] t ∧
    t.shared.statuses dispatchedJob = [.FAILED, .RUNNING, .DISPATCHED] ∧
    t.shared.Lawful startOrCancel dispatchedJob := by
  have accepted : (exec (jobTransactions startOrCancel).step (Current startOrCancel)
      (jobOpening (Fin 2) dispatchedJob)
      [.task 0 (.select 10), .task 1 (.select 11), .task 1 .update, .task 1 .commit,
        .task 0 .update, .task 0 .commit]).any fun t =>
      t.shared.statuses dispatchedJob = [.FAILED, .RUNNING, .DISPATCHED] := by decide +kernel
  obtain ⟨t, run, statuses⟩ := run_of_any accepted
  exact ⟨t, run, of_decide_eq_true statuses, lawful_of_run run⟩

/-- The cancellation is committed first, and the start overwrites it. -/
theorem cancellation_overwritten : ∃ t, Run (jobTransactions startOrCancel).step Always
      (jobOpening (Fin 2) dispatchedJob)
      [.task 0 (.select 10), .task 1 (.select 11), .task 0 .update, .task 0 .commit,
        .task 1 .update, .task 1 .commit] t ∧
    t.shared.statuses dispatchedJob = [.RUNNING, .FAILED, .DISPATCHED] ∧
    ¬ t.shared.Lawful startOrCancel dispatchedJob := by
  have accepted : (exec (jobTransactions startOrCancel).step Always
      (jobOpening (Fin 2) dispatchedJob)
      [.task 0 (.select 10), .task 1 (.select 11), .task 0 .update, .task 0 .commit,
        .task 1 .update, .task 1 .commit]).any fun t =>
      t.shared.statuses dispatchedJob = [.RUNNING, .FAILED, .DISPATCHED] := by decide +kernel
  obtain ⟨t, run, statuses⟩ := run_of_any accepted
  refine ⟨t, run, of_decide_eq_true statuses, fun lawful => ?_⟩
  have moves := lawful.moves
  rw [of_decide_eq_true statuses] at moves
  exact absurd (List.isChain_cons_cons.mp moves).1 (by decide)

end RenderTrust.Scheduler
