import RenderTrust.Lib.Runs
import RenderTrust.Lib.Stages
import RenderTrust.Scheduler.CircuitBreaker
import RenderTrust.Scheduler.NodeService
import RenderTrust.Scheduler.Retry

/-!
# The scheduler over time

Calls of the services one after another, each in a transaction of its own, with what each
was answered and the tables it passed. The clock is read in microseconds.
-/
namespace RenderTrust.Scheduler
open Lib Lib.Stages

variable {L : Type}

inductive JobCall where
  | dispatch (redis : Bool) (id : Uuid) (jobType payloadRef : String)
  | update (jobId : Uuid) (status : JobStatus) (resultRef errorMessage : Option String)
  | cancel (jobId : Uuid)
  | retry (redis : Bool) (later : ℕ) (jobId : Uuid) (errorMessage : String)
  | archive (later : ℕ) (jobId : Uuid) (errorMessage : String)
  | redistribute (nodeId : Uuid)

inductive BreakerCall where
  | failure (nodeId : Uuid)
  | success (nodeId : Uuid)
  | check (nodeId : Uuid)
  | reset (nodeId : Uuid)

inductive NodeCall (L : Type) where
  | register (id jti : Uuid) (challenge name publicKey : String)
      (capabilities : Option (List String))
  | heartbeat (nodeId : Uuid) (currentLoad : L)
  | markStale
  | find (jobType : String)

inductive Call (L : Type) where
  | job (call : JobCall)
  | breaker (call : BreakerCall)
  | node (call : NodeCall L)

/-- `absent`: the caller has no such row to pass. -/
inductive Answer (L : Type) where
  | job (job : JobDispatch ℕ)
  | deadLetter (entry : DeadLetterEntry ℕ)
  | count (n : ℕ)
  | status (status : NodeStatus)
  | node (node : EdgeNode ℕ L)
  | found (node : Option (EdgeNode ℕ L))
  | registered (node : EdgeNode ℕ L) (challenge : String) (token : NodeToken)
  | done
  | absent

/-- What a call raised. -/
inductive Failure where
  | scheduler (e : SchedulerError)
  | node (e : NodeError)

/-- The tables before each flush are in `passed`, the newest first. -/
structure Exchange (L : Type) where
  now : ℕ
  call : Call L
  answer : Except Failure (Answer L)
  before : World ℕ L
  passed : List (Store ℕ L)
  after : World ℕ L

/-! ## The calls -/

section Jobs
variable [LinearOrder L]

/-- `schedule_retry`, flush by flush. -/
def scheduleRetryStaged (redis : Bool) (now later : ℕ) (job : JobDispatch ℕ)
    (errorMessage : String) :
    Staged SchedulerError (Store ℕ L) (JobDispatch ℕ ⊕ DeadLetterEntry ℕ) := do
  if shouldRetry job then
    let failed ← stage (ensureFailed now job errorMessage)
    let queued ← stage (updateJobStatus later failed.id .QUEUED none none)
    let job ← stage (redispatch redis queued)
    return .inl job
  else
    let entry ← stage (moveToDlq now later job errorMessage)
    return .inr entry

theorem erases_scheduleRetryStaged (redis : Bool) (now later : ℕ) (job : JobDispatch ℕ)
    (errorMessage : String) :
    Erases (scheduleRetryStaged (L := L) redis now later job errorMessage)
      (scheduleRetry redis now later job errorMessage) := by
  refine .ite ?_ ?_
  · refine .bind (.stage _) fun failed => ?_
    refine .bind (.stage _) fun queued => ?_
    exact .bind (.stage _) fun job => .ret _
  · exact .bind (.stage _) fun entry => .ret _

/-- A job that is passed is the session's record of it. -/
def JobCall.run (now : ℕ) : JobCall → Staged SchedulerError (Store ℕ L) (Answer L)
  | .dispatch redis id jobType payloadRef => do
      let job ← stage (dispatchJob redis id now jobType payloadRef)
      return .job job
  | .update jobId status resultRef errorMessage => do
      let job ← stage (updateJobStatus now jobId status resultRef errorMessage)
      return .job job
  | .cancel jobId => do
      let job ← stage (cancelJob now jobId)
      return .job job
  | .retry redis later jobId errorMessage => do
      match (← get).1.jobById jobId with
      | none => return .absent
      | some job =>
        match ← scheduleRetryStaged redis now later job errorMessage with
        | .inl job => return .job job
        | .inr entry => return .deadLetter entry
  | .archive later jobId errorMessage => do
      match (← get).1.jobById jobId with
      | none => return .absent
      | some job =>
        let entry ← stage (moveToDlq now later job errorMessage)
        return .deadLetter entry
  | .redistribute nodeId => do
      let n ← stage (redistributeJobs nodeId)
      return .count n

end Jobs

def BreakerCall.run (now : ℕ) : BreakerCall → WorldM ℕ L (Answer L)
  | .failure nodeId => do
      let status ← recordFailure now nodeId
      return .status status
  | .success nodeId => do
      recordSuccess nodeId
      return .done
  | .check nodeId => do
      let status ← checkNodeHealth now nodeId
      return .status status
  | .reset nodeId => do
      modify fun w => { w with breaker := w.breaker.reset nodeId }
      return .done

def NodeCall.run [LinearOrder L] [Zero L] [One L] (now : ℕ) : NodeCall L → NodeM L (Answer L)
  | .register id jti challenge name publicKey capabilities => do
      let (node, challenge, token) ← registerNode now id jti challenge name publicKey capabilities
      return .registered node challenge token
  | .heartbeat nodeId currentLoad => do
      match (← get).nodeById nodeId with
      | none => return .absent
      | some node =>
        let node ← processHeartbeat now node currentLoad
        return .node node
  | .markStale => do
      let n ← markStaleNodes now
      return .count n
  | .find jobType => do
      let node := findBestNode (← get) jobType
      return .found node

/-! ## Each in its transaction -/

/-- The statement was refused by the database. -/
def SchedulerError.rollsBack : SchedulerError → Bool
  | .integrityError => true
  | .dataError => true
  | _ => false

def NodeError.rollsBack : NodeError → Bool
  | .integrityError => true
  | .dataError => true
  | _ => false

section Serve
variable [LinearOrder L] {now : ℕ} {w : World ℕ L} {answer : Answer L}

/-- A refused statement rolls the transaction back. -/
def serveJob (now : ℕ) (c : JobCall) (w : World ℕ L) : Exchange L :=
  match (c.run now).run (w.store, []) with
  | .ok answer (s, passed) => ⟨now, .job c, .ok answer, w, passed, { w with store := s }⟩
  | .error e (s, passed) =>
      if e.rollsBack then ⟨now, .job c, .error (.scheduler e), w, [], w⟩
      else ⟨now, .job c, .error (.scheduler e), w, passed, { w with store := s }⟩

theorem serveJob_ok {c : JobCall} {p : Store ℕ L × List (Store ℕ L)}
    (ran : (c.run now).run (w.store, []) = .ok answer p) :
    serveJob now c w = ⟨now, .job c, .ok answer, w, p.2, { w with store := p.1 }⟩ := by
  rw [serveJob, ran]

theorem serveJob_error {c : JobCall} {e : SchedulerError} {p : Store ℕ L × List (Store ℕ L)}
    (ran : (c.run now).run (w.store, []) = .error e p) :
    serveJob now c w =
      if e.rollsBack then ⟨now, .job c, .error (.scheduler e), w, [], w⟩
      else ⟨now, .job c, .error (.scheduler e), w, p.2, { w with store := p.1 }⟩ := by
  rw [serveJob, ran]

omit [LinearOrder L] in
def serveBreaker (now : ℕ) (c : BreakerCall) (w : World ℕ L) : Exchange L :=
  match (c.run now).run w with
  | .ok answer w' => ⟨now, .breaker c, .ok answer, w, [w.store], w'⟩
  | .error e w' => ⟨now, .breaker c, .error (.scheduler e), w, [w.store], w'⟩

omit [LinearOrder L] in
theorem serveBreaker_ok {c : BreakerCall} {w' : World ℕ L}
    (ran : (c.run now).run w = .ok answer w') :
    serveBreaker now c w = ⟨now, .breaker c, .ok answer, w, [w.store], w'⟩ := by
  rw [serveBreaker, ran]

variable [Zero L] [One L]

def serveNode (now : ℕ) (c : NodeCall L) (w : World ℕ L) : Exchange L :=
  match (c.run now).run w.store with
  | .ok answer s => ⟨now, .node c, .ok answer, w, [w.store], { w with store := s }⟩
  | .error e s =>
      if e.rollsBack then ⟨now, .node c, .error (.node e), w, [], w⟩
      else ⟨now, .node c, .error (.node e), w, [w.store], { w with store := s }⟩

theorem serveNode_ok {c : NodeCall L} {s : Store ℕ L}
    (ran : (c.run now).run w.store = .ok answer s) :
    serveNode now c w = ⟨now, .node c, .ok answer, w, [w.store], { w with store := s }⟩ := by
  rw [serveNode, ran]

theorem serveNode_error {c : NodeCall L} {e : NodeError} {s : Store ℕ L}
    (ran : (c.run now).run w.store = .error e s) :
    serveNode now c w =
      if e.rollsBack then ⟨now, .node c, .error (.node e), w, [], w⟩
      else ⟨now, .node c, .error (.node e), w, [w.store], { w with store := s }⟩ := by
  rw [serveNode, ran]

def serve (now : ℕ) (call : Call L) (w : World ℕ L) : Exchange L :=
  match call with
  | .job c => serveJob now c w
  | .breaker c => serveBreaker now c w
  | .node c => serveNode now c w

/-- An exchange carries what was asked. -/
theorem serve_asked (now : ℕ) (call : Call L) (w : World ℕ L) :
    (serve now call w).now = now ∧ (serve now call w).call = call ∧
      (serve now call w).before = w := by
  unfold serve
  split
  · unfold serveJob
    split
    · exact ⟨rfl, rfl, rfl⟩
    · split <;> exact ⟨rfl, rfl, rfl⟩
  · unfold serveBreaker
    split <;> exact ⟨rfl, rfl, rfl⟩
  · unfold serveNode
    split
    · exact ⟨rfl, rfl, rfl⟩
    · split <;> exact ⟨rfl, rfl, rfl⟩

end Serve

/-! ## Runs -/

structure Event (L : Type) where
  now : ℕ
  call : Call L

/-- The exchanges so far are in `past`, the newest first. -/
structure Timeline (L : Type) where
  world : World ℕ L
  past : List (Exchange L)

namespace Timeline

def opening (w : World ℕ L) : Timeline L := ⟨w, []⟩

def step [LinearOrder L] [Zero L] [One L] (t : Timeline L) (e : Event L) : Option (Timeline L) :=
  let x := serve e.now e.call t.world
  some ⟨x.after, x :: t.past⟩

/-- The tables passed so far, the newest first. -/
def passed (t : Timeline L) : List (Store ℕ L) := t.past.flatMap Exchange.passed

/-- The clock has not gone back. -/
def Forward (t : Timeline L) (e : Event L) : Prop :=
  t.past.head?.all fun x => x.now ≤ e.now

instance (t : Timeline L) (e : Event L) : Decidable (t.Forward e) :=
  inferInstanceAs (Decidable (_ = true))

end Timeline
end RenderTrust.Scheduler
