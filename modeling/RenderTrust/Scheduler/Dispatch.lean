import Mathlib.Order.Lattice
import RenderTrust.Lib.Keyed
import RenderTrust.Scheduler.Models

/-!
# `core/scheduler/dispatch.py`

The node a job goes to, and its message in that node's Redis list.
-/
namespace RenderTrust.Scheduler
open Lib Lib.Keyed

variable {τ L : Type}

/-- `capabilities or []` is a list that contains `jobType`. -/
def EdgeNode.canRun (node : EdgeNode τ L) (jobType : String) : Bool :=
  node.capabilities.listHas jobType

/-- The first node that can run the job, among the healthy ones by ascending load. -/
def findBestNode [LinearOrder L] (s : Store τ L) (jobType : String) : Option (EdgeNode τ L) :=
  (orderBy EdgeNode.currentLoad (s.nodes.filter fun node => node.status = .HEALTHY)).find?
    fun node => node.canRun jobType

/-- Fails open: without Redis nothing is pushed. -/
def pushToQueue (redis : Bool) (nodeId : Uuid) (job : JobDispatch τ) : SchedulerM τ L Bool := do
  if redis then
    let message : Message := ⟨job.id, job.jobType, job.payloadRef⟩
    modify fun s => { s with queue := s.queue ++ [(nodeId, message)] }
    return true
  else return false

def newJob (id nodeId : Uuid) (jobType payloadRef : String) (now : τ) : JobDispatch τ where
  id := id
  nodeId := nodeId
  jobType := jobType
  payloadRef := payloadRef
  status := .DISPATCHED
  queuedAt := now
  dispatchedAt := some now
  completedAt := none
  resultRef := none
  errorMessage := none
  retryCount := 0

def dispatchJob [LinearOrder L] (redis : Bool) (id : Uuid) (now : τ) (jobType payloadRef : String) :
    SchedulerM τ L (JobDispatch τ) := do
  match findBestNode (← get) jobType with
  | none =>
    throw (.httpException 503 ("No healthy nodes available for job type: " ++ jobType))
  | some node =>
    let job := newJob id node.id jobType payloadRef now
    insertJob job
    let _ ← pushToQueue redis node.id job
    return job

end RenderTrust.Scheduler
