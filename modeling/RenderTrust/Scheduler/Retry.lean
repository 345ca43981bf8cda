import RenderTrust.Scheduler.Dispatch
import RenderTrust.Scheduler.JobService

/-!
# `core/scheduler/retry.py`

A failed job is queued again, or archived when its retries are used up. The clock is
read twice, `now` and `later`.
-/
namespace RenderTrust.Scheduler
open Lib

variable {τ L : Type}

def MAX_RETRIES : ℕ := 3

def shouldRetry (job : JobDispatch τ) : Bool := job.retryCount < MAX_RETRIES

/-- `[job.error_message]` if it is there, not empty and another text, then the new one. -/
def errorHistory (job : JobDispatch τ) (errorMessage : String) : List String :=
  match job.errorMessage with
  | none => [errorMessage]
  | some old => if old ≠ "" ∧ old ≠ errorMessage then [old, errorMessage] else [errorMessage]

/-- Before a retry: the job is set to FAILED unless it is already. -/
def ensureFailed (now : τ) (job : JobDispatch τ) (errorMessage : String) :
    SchedulerM τ L (JobDispatch τ) :=
  if job.status ≠ .FAILED then updateJobStatus now job.id .FAILED none (some errorMessage)
  else return job

/-- Before the archive: a job that is FAILED already takes the new message as well. -/
def ensureFailedWith (now : τ) (job : JobDispatch τ) (errorMessage : String) :
    SchedulerM τ L (JobDispatch τ) :=
  if job.status ≠ .FAILED then updateJobStatus now job.id .FAILED none (some errorMessage)
  else flushJob { job with errorMessage := some errorMessage }

def moveToDlq (now later : τ) (job : JobDispatch τ) (errorMessage : String) :
    SchedulerM τ L (DeadLetterEntry τ) := do
  let failed ← ensureFailedWith now job errorMessage
  let entry : DeadLetterEntry τ :=
    ⟨failed.id, failed.payloadRef, errorHistory job errorMessage, later, failed.retryCount⟩
  modify fun s => { s with deadLetters := s.deadLetters ++ [entry] }
  return entry

def redispatch [LinearOrder L] (redis : Bool) (job : JobDispatch τ) :
    SchedulerM τ L (JobDispatch τ) := do
  match findBestNode (← get) job.jobType with
  | none => return job
  | some bestNode =>
    let job ← flushJob { job with nodeId := bestNode.id }
    let _ ← pushToQueue redis bestNode.id job
    return job

def scheduleRetry [LinearOrder L] (redis : Bool) (now later : τ) (job : JobDispatch τ)
    (errorMessage : String) : SchedulerM τ L (JobDispatch τ ⊕ DeadLetterEntry τ) := do
  if shouldRetry job then
    let failed ← ensureFailed now job errorMessage
    let queued ← updateJobStatus later failed.id .QUEUED none none
    return .inl (← redispatch redis queued)
  else return .inr (← moveToDlq now later job errorMessage)

end RenderTrust.Scheduler
