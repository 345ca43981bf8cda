import RenderTrust.Ledger.Models
import RenderTrust.Lib.Json
import RenderTrust.Lib.Keyed
import RenderTrust.Lib.Uuid

/-!
# `core/scheduler/models.py`

The tables of the scheduler and the Redis lists it pushes to. Timestamps `τ` and loads
`L` are of any type.
-/
namespace RenderTrust.Scheduler
open Lib Lib.Keyed
open Ledger (bindable)

inductive NodeStatus where
  | REGISTERED
  | HEALTHY
  | UNHEALTHY
  | OFFLINE
  deriving DecidableEq, Repr

inductive JobStatus where
  | QUEUED
  | DISPATCHED
  | RUNNING
  | COMPLETED
  | FAILED
  deriving DecidableEq, Repr

def JobStatus.value : JobStatus → String
  | .QUEUED => "QUEUED"
  | .DISPATCHED => "DISPATCHED"
  | .RUNNING => "RUNNING"
  | .COMPLETED => "COMPLETED"
  | .FAILED => "FAILED"

structure EdgeNode (τ L : Type) where
  id : Uuid
  publicKey : String
  name : String
  capabilities : Json
  status : NodeStatus
  lastHeartbeat : Option τ
  currentLoad : L

structure JobDispatch (τ : Type) where
  id : Uuid
  nodeId : Uuid
  jobType : String
  payloadRef : String
  status : JobStatus
  queuedAt : τ
  dispatchedAt : Option τ
  completedAt : Option τ
  resultRef : Option String
  errorMessage : Option String
  retryCount : ℕ
  deriving DecidableEq, Repr

/-- What the columns of a job take: `String(100)`, `String(500)`, `Text` and `Integer`. -/
def JobDispatch.storable {τ : Type} (job : JobDispatch τ) : Bool :=
  job.jobType.length ≤ 100 ∧ bindable job.jobType ∧
    job.payloadRef.length ≤ 500 ∧ bindable job.payloadRef ∧
    job.resultRef.all (fun ref => ref.length ≤ 500 ∧ bindable ref) ∧
    job.errorMessage.all bindable ∧ job.retryCount < 2 ^ 31

structure DeadLetterEntry (τ : Type) where
  jobId : Uuid
  originalPayload : String
  errorHistory : List String
  failedAt : τ
  retryCount : ℕ
  deriving DecidableEq, Repr

/-- An element of a list `queue:node:<id>`. -/
structure Message where
  jobId : Uuid
  jobType : String
  payloadRef : String
  deriving DecidableEq, Repr

/-- The tables and the pushed messages, each with the node whose list it is in. -/
structure Store (τ L : Type) where
  nodes : List (EdgeNode τ L)
  jobs : List (JobDispatch τ)
  deadLetters : List (DeadLetterEntry τ)
  queue : List (Uuid × Message)

inductive SchedulerError where
  | valueError (message : String)
  | httpException (statusCode : ℕ) (detail : String)
  | integrityError
  | dataError
  deriving DecidableEq, Repr

abbrev SchedulerM (τ L : Type) := EStateM SchedulerError (Store τ L)

namespace Store
variable {τ L : Type}

def jobById (s : Store τ L) (jobId : Uuid) : Option (JobDispatch τ) :=
  s.jobs.find? fun job => job.id = jobId

def setJob (s : Store τ L) (job : JobDispatch τ) : Store τ L :=
  { s with jobs := s.jobs.map fun row => if row.id = job.id then job else row }

theorem jobById_eq_some {s : Store τ L} {jobId : Uuid} {job : JobDispatch τ}
    (h : s.jobById jobId = some job) : job ∈ s.jobs ∧ job.id = jobId := by
  exact mem_of_find?_key h

theorem ids_setJob (s : Store τ L) (job : JobDispatch τ) :
    (s.setJob job).jobs.map JobDispatch.id = s.jobs.map JobDispatch.id := by
  unfold setJob
  rw [List.map_map]
  refine List.map_congr_left fun row _ => ?_
  rw [Function.comp_apply]
  split
  · rename_i same
    exact same.symm
  · rfl

theorem mem_setJob {s : Store τ L} {job : JobDispatch τ} (h : job.id ∈ s.jobs.map JobDispatch.id) :
    job ∈ (s.setJob job).jobs := by
  obtain ⟨row, member, same⟩ := List.mem_map.mp h
  exact List.mem_map.mpr ⟨row, member, if_pos same⟩

theorem eq_of_mem_setJob {s : Store τ L} {job row : JobDispatch τ} (h : row ∈ (s.setJob job).jobs)
    (same : row.id = job.id) : row = job := by
  obtain ⟨old, _, built⟩ := List.mem_map.mp h
  split at built
  · exact built.symm
  · rename_i other
    rw [built] at other
    exact absurd same other

def nodeById (s : Store τ L) (nodeId : Uuid) : Option (EdgeNode τ L) :=
  s.nodes.find? fun node => node.id = nodeId

/-- `UPDATE edge_nodes SET status = … WHERE id = …`. -/
def setNodeStatus (s : Store τ L) (nodeId : Uuid) (status : NodeStatus) : Store τ L :=
  { s with
    nodes := s.nodes.map fun node => if node.id = nodeId then { node with status } else node }

end Store

section Flush
variable {τ L : Type}

/-- The flush of a changed job. -/
def flushJob (job : JobDispatch τ) : SchedulerM τ L (JobDispatch τ) := do
  if job.storable then
    modify fun s => s.setJob job
    return job
  else throw .dataError

/-- The flush of a new job. -/
def insertJob (job : JobDispatch τ) : SchedulerM τ L Unit := do
  if !job.storable then throw .dataError
  if job.id ∈ (← get).jobs.map JobDispatch.id then throw .integrityError
  modify fun s => { s with jobs := s.jobs ++ [job] }

end Flush
end RenderTrust.Scheduler
