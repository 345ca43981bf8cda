import Mathlib.Data.List.Sort
import RenderTrust.Scheduler.Models

/-!
# `core/scheduler/job_service.py`

The state machine of a job, and its cancellation.
-/
namespace RenderTrust.Scheduler
open Lib

variable {τ L : Type}

def VALID_TRANSITIONS : JobStatus → List JobStatus
  | .QUEUED => [.DISPATCHED, .FAILED]
  | .DISPATCHED => [.RUNNING, .FAILED, .QUEUED]
  | .RUNNING => [.COMPLETED, .FAILED]
  | .COMPLETED => []
  | .FAILED => [.QUEUED]

/-- `sorted(s.value for s in allowed) if allowed else '(terminal)'`, as it is printed. -/
def allowedTargets (allowed : List JobStatus) : String :=
  if allowed.isEmpty then "(terminal)"
  else
    let values := (allowed.map JobStatus.value).insertionSort (· ≤ ·)
    "[" ++ ", ".intercalate (values.map fun value => "'" ++ value ++ "'") ++ "]"

def jobNotFound (jobId : Uuid) : String := "Job not found: " ++ jobId.str

def invalidTransition (old new : JobStatus) : String :=
  "Invalid transition: " ++ old.value ++ " -> " ++ new.value ++ ". Allowed targets: " ++
    allowedTargets (VALID_TRANSITIONS old)

def cannotCancel (status : JobStatus) : String :=
  "Cannot cancel job in " ++ status.value ++
    " state. Only QUEUED or DISPATCHED jobs can be cancelled."

/-- The job as `update_job_status` leaves it. -/
def JobDispatch.updated (job : JobDispatch τ) (now : τ) (newStatus : JobStatus)
    (resultRef errorMessage : Option String) : JobDispatch τ :=
  { job with
    dispatchedAt := if newStatus = .DISPATCHED then some now else job.dispatchedAt
    completedAt :=
      if newStatus = .COMPLETED ∨ newStatus = .FAILED then some now else job.completedAt
    resultRef :=
      if newStatus = .COMPLETED ∧ resultRef.isSome then resultRef else job.resultRef
    errorMessage :=
      if newStatus = .FAILED ∧ errorMessage.isSome then errorMessage else job.errorMessage
    retryCount :=
      if newStatus = .QUEUED ∧ (job.status = .FAILED ∨ job.status = .DISPATCHED) then
        job.retryCount + 1
      else job.retryCount
    status := newStatus }

def updateJobStatus (now : τ) (jobId : Uuid) (newStatus : JobStatus)
    (resultRef errorMessage : Option String) : SchedulerM τ L (JobDispatch τ) := do
  match (← get).jobById jobId with
  | none => throw (.valueError (jobNotFound jobId))
  | some job =>
    if newStatus ∉ VALID_TRANSITIONS job.status then
      throw (.valueError (invalidTransition job.status newStatus))
    flushJob (job.updated now newStatus resultRef errorMessage)

def JobDispatch.cancelled (job : JobDispatch τ) (now : τ) : JobDispatch τ :=
  { job with
    status := .FAILED
    completedAt := some now
    errorMessage := some "Cancelled by user" }

def cancelJob (now : τ) (jobId : Uuid) : SchedulerM τ L (JobDispatch τ) := do
  match (← get).jobById jobId with
  | none => throw (.valueError (jobNotFound jobId))
  | some job =>
    if job.status ≠ .QUEUED ∧ job.status ≠ .DISPATCHED then
      throw (.valueError (cannotCancel job.status))
    flushJob (job.cancelled now)

end RenderTrust.Scheduler
