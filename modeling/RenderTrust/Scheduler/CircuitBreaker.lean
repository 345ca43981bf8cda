import Mathlib.Logic.Function.Basic
import RenderTrust.Scheduler.Dispatch

/-!
# `core/scheduler/circuit_breaker.py`

The failures of each node, kept in memory next to the tables, and the jobs of a node that
is tripped.
-/
namespace RenderTrust.Scheduler
open Lib

variable {τ L : Type}

def FAILURE_THRESHOLD : ℕ := 3

/-- Seconds. -/
def RECOVERY_TIMEOUT : ℕ := 300

/-- Two dictionaries and a set. -/
structure CircuitBreaker (τ : Type) where
  failureCounts : Uuid → Option ℕ
  lastFailureTime : Uuid → Option τ
  halfOpen : Uuid → Bool

namespace CircuitBreaker

def new : CircuitBreaker τ := ⟨fun _ => none, fun _ => none, fun _ => false⟩

def count (breaker : CircuitBreaker τ) (nodeId : Uuid) : ℕ :=
  (breaker.failureCounts nodeId).getD 0

def failed (breaker : CircuitBreaker τ) (nodeId : Uuid) (now : τ) : CircuitBreaker τ :=
  { breaker with
    failureCounts := Function.update breaker.failureCounts nodeId (some (breaker.count nodeId + 1))
    lastFailureTime := Function.update breaker.lastFailureTime nodeId (some now) }

def setHalfOpen (breaker : CircuitBreaker τ) (nodeId : Uuid) (mark : Bool) : CircuitBreaker τ :=
  { breaker with halfOpen := Function.update breaker.halfOpen nodeId mark }

/-- `reset`: what was tracked of the node is dropped. -/
def reset (breaker : CircuitBreaker τ) (nodeId : Uuid) : CircuitBreaker τ where
  failureCounts := Function.update breaker.failureCounts nodeId none
  lastFailureTime := Function.update breaker.lastFailureTime nodeId none
  halfOpen := Function.update breaker.halfOpen nodeId false

end CircuitBreaker

structure World (τ L : Type) where
  store : Store τ L
  breaker : CircuitBreaker τ

abbrev WorldM (τ L : Type) := EStateM SchedulerError (World τ L)

def onStore {α : Type} (x : SchedulerM τ L α) : WorldM τ L α := fun w =>
  match x.run w.store with
  | .ok a s => .ok a { w with store := s }
  | .error e s => .error e { w with store := s }

def JobDispatch.movable (job : JobDispatch τ) (nodeId : Uuid) : Bool :=
  job.nodeId = nodeId ∧ (job.status = .QUEUED ∨ job.status = .DISPATCHED)

def JobDispatch.requeued (job : JobDispatch τ) : JobDispatch τ :=
  { job with status := .QUEUED, dispatchedAt := none }

def redistributeJobs (nodeId : Uuid) : SchedulerM τ L ℕ := do
  let jobs := (← get).jobs.filter fun job => job.movable nodeId
  modify fun s =>
    { s with jobs := s.jobs.map fun job => if job.movable nodeId then job.requeued else job }
  return jobs.length

def recordFailure (now : τ) (nodeId : Uuid) : WorldM τ L NodeStatus := do
  modify fun w => { w with breaker := w.breaker.failed nodeId now }
  if FAILURE_THRESHOLD ≤ (← get).breaker.count nodeId then
    modify fun w => { w with store := w.store.setNodeStatus nodeId .UNHEALTHY }
    let _ ← onStore (redistributeJobs nodeId)
    modify fun w => { w with breaker := w.breaker.setHalfOpen nodeId false }
    return .UNHEALTHY
  return .HEALTHY

def recordSuccess (nodeId : Uuid) : WorldM τ L Unit := do
  modify fun w => { w with breaker := w.breaker.reset nodeId }
  modify fun w => { w with store := w.store.setNodeStatus nodeId .HEALTHY }

/-- The time is in microseconds. -/
def checkNodeHealth (now : ℕ) (nodeId : Uuid) : WorldM ℕ L NodeStatus := do
  match (← get).store.nodeById nodeId with
  | none => return .OFFLINE
  | some node =>
    if node.status ≠ .UNHEALTHY then return node.status
    match (← get).breaker.lastFailureTime nodeId with
    | none => return .UNHEALTHY
    | some lastFailure =>
      if RECOVERY_TIMEOUT * 1000000 ≤ now - lastFailure then
        modify fun w => { w with breaker := w.breaker.setHalfOpen nodeId true }
        return .HEALTHY
      return .UNHEALTHY

/-! ## What the calls do -/

/-- The failure that is recorded next trips the breaker. -/
def Trips (breaker : CircuitBreaker τ) (nodeId : Uuid) : Prop :=
  FAILURE_THRESHOLD ≤ breaker.count nodeId + 1

instance (breaker : CircuitBreaker τ) (nodeId : Uuid) : Decidable (Trips breaker nodeId) :=
  inferInstanceAs (Decidable (_ ≤ _))

/-- The tables once the jobs of the node are queued again. -/
def Store.redistributed (s : Store τ L) (nodeId : Uuid) : Store τ L :=
  { s with jobs := s.jobs.map fun job => if job.movable nodeId then job.requeued else job }

theorem redistributeJobs_run (nodeId : Uuid) (s : Store τ L) :
    (redistributeJobs nodeId).run s =
      .ok (s.jobs.filter fun job => job.movable nodeId).length (s.redistributed nodeId) := rfl

theorem CircuitBreaker.count_failed (breaker : CircuitBreaker τ) (nodeId : Uuid) (now : τ) :
    (breaker.failed nodeId now).count nodeId = breaker.count nodeId + 1 := by
  simp only [count, failed, Function.update_self, Option.getD_some]

theorem recordFailure_run (now : τ) (nodeId : Uuid) (w : World τ L) :
    (recordFailure now nodeId).run w =
      if Trips w.breaker nodeId then
        .ok .UNHEALTHY ⟨(w.store.setNodeStatus nodeId .UNHEALTHY).redistributed nodeId,
          (w.breaker.failed nodeId now).setHalfOpen nodeId false⟩
      else .ok .HEALTHY ⟨w.store, w.breaker.failed nodeId now⟩ := by
  unfold recordFailure
  rw [EStateM.run_bind, EStateM.run_modify]
  simp only [EStateM.run_bind, EStateM.run_get, CircuitBreaker.count_failed]
  by_cases trips : Trips w.breaker nodeId
  · have reached : FAILURE_THRESHOLD ≤ w.breaker.count nodeId + 1 := trips
    rw [if_pos trips, if_pos reached]
    rfl
  · have below : ¬ FAILURE_THRESHOLD ≤ w.breaker.count nodeId + 1 := trips
    rw [if_neg trips, if_neg below]
    rfl

theorem recordSuccess_run (nodeId : Uuid) (w : World τ L) :
    (recordSuccess nodeId).run w =
      .ok () ⟨w.store.setNodeStatus nodeId .HEALTHY, w.breaker.reset nodeId⟩ := rfl

/-- The timeout since the last failure of the node has passed. -/
def CircuitBreaker.due (breaker : CircuitBreaker ℕ) (now : ℕ) (nodeId : Uuid) : Bool :=
  (breaker.lastFailureTime nodeId).any fun last => RECOVERY_TIMEOUT * 1000000 ≤ now - last

def Store.unhealthy (s : Store τ L) (nodeId : Uuid) : Bool :=
  (s.nodeById nodeId).any fun node => node.status = .UNHEALTHY

theorem checkNodeHealth_run (now : ℕ) (nodeId : Uuid) (w : World ℕ L) :
    (checkNodeHealth now nodeId).run w =
      if w.store.unhealthy nodeId ∧ w.breaker.due now nodeId then
        .ok .HEALTHY { w with breaker := w.breaker.setHalfOpen nodeId true }
      else .ok (((w.store.nodeById nodeId).map EdgeNode.status).getD .OFFLINE) w := by
  unfold checkNodeHealth
  simp only [EStateM.run_bind, EStateM.run_get]
  cases found : w.store.nodeById nodeId with
  | none =>
      have absent : ¬ (w.store.unhealthy nodeId ∧ w.breaker.due now nodeId) := by
        rw [Store.unhealthy, found]
        exact fun h => Bool.false_ne_true h.1
      rw [if_neg absent]
      rfl
  | some node =>
      have status : w.store.unhealthy nodeId ↔ node.status = .UNHEALTHY := by
        rw [Store.unhealthy, found, Option.any_some, decide_eq_true_eq]
      simp only [status, Option.map_some, Option.getD_some]
      by_cases unhealthy : node.status = .UNHEALTHY
      · rw [if_neg (not_not.mpr unhealthy), EStateM.run_bind, EStateM.run_get, unhealthy]
        simp only [true_and]
        cases tracked : w.breaker.lastFailureTime nodeId with
        | none =>
            rw [if_neg]
            · rfl
            · rw [CircuitBreaker.due, tracked]
              exact Bool.false_ne_true
        | some last =>
            have elapsed : w.breaker.due now nodeId ↔
                RECOVERY_TIMEOUT * 1000000 ≤ now - last := by
              rw [CircuitBreaker.due, tracked, Option.any_some, decide_eq_true_eq]
            simp only [elapsed]
            by_cases late : RECOVERY_TIMEOUT * 1000000 ≤ now - last
            · rw [if_pos late, if_pos late]
              rfl
            · rw [if_neg late, if_neg late]
              rfl
      · rw [if_pos unhealthy, if_neg fun h => unhealthy h.1]
        rfl

/-! ## Jobs moved off a node -/

/-- A healthy node other than `nodeId` could run the job. -/
def Store.Eligible (s : Store τ L) (nodeId : Uuid) (job : JobDispatch τ) : Prop :=
  ∃ node ∈ s.nodes, node.id ≠ nodeId ∧ node.status = .HEALTHY ∧ node.canRun job.jobType

structure Moved (after : Store τ L) (nodeId : Uuid) (job job' : JobDispatch τ) : Prop where
  id : job'.id = job.id
  queued : job'.status = .QUEUED
  elsewhere : job'.nodeId ≠ nodeId ∨ after.Eligible nodeId job'

/-- The jobs are off the node, row by row, and no other job is touched. -/
structure MovedOff (nodeId : Uuid) (before after : Store τ L) : Prop where
  clear : ∀ job ∈ after.jobs, ¬ job.movable nodeId
  rows : before.jobs.Forall₂
    (fun job job' => if job.movable nodeId then Moved after nodeId job job' else job' = job)
    after.jobs

/-- What is promised of `redistribute_jobs`, and of a failure that trips the breaker. -/
structure MovesOff (w : World τ L) (nodeId : Uuid) : Prop where
  redistributed : ∃ n s, (redistributeJobs nodeId).run w.store = .ok n s ∧
    MovedOff nodeId w.store s ∧ n = (w.store.jobs.filter fun job => job.movable nodeId).length
  tripped : ∀ now, Trips w.breaker nodeId → ∃ w', (recordFailure now nodeId).run w =
    .ok .UNHEALTHY w' ∧ MovedOff nodeId w.store w'.store

section MovedOff
variable {nodeId : Uuid} {s : Store τ L}

theorem JobDispatch.movable_requeued {job : JobDispatch τ} (h : job.movable nodeId) :
    job.requeued.movable nodeId := by
  have assigned := (of_decide_eq_true h).1
  exact decide_eq_true ⟨assigned, .inl rfl⟩

theorem Store.redistributed_jobs (none : ∀ job ∈ s.jobs, ¬ job.movable nodeId) :
    (s.redistributed nodeId).jobs = s.jobs := by
  unfold Store.redistributed
  rw [List.map_congr_left fun job member => if_neg (none job member), List.map_id']

/-- The node of a job is not rewritten. -/
theorem MovedOff.none (h : MovedOff nodeId s (s.redistributed nodeId)) :
    ∀ job ∈ s.jobs, ¬ job.movable nodeId := by
  intro job member movable
  refine h.clear job.requeued ?_ (JobDispatch.movable_requeued movable)
  exact List.mem_map.mpr ⟨job, member, if_pos movable⟩

theorem MovedOff.unchanged {after : Store τ L} (same : after.jobs = s.jobs)
    (none : ∀ job ∈ s.jobs, ¬ job.movable nodeId) : MovedOff nodeId s after where
  clear := same ▸ none
  rows := by
    rw [same, List.forall₂_same]
    intro job member
    rw [if_neg (none job member)]

end MovedOff

/-- Only where there is nothing to move. -/
theorem movesOff_iff (w : World τ L) (nodeId : Uuid) :
    MovesOff w nodeId ↔ ∀ job ∈ w.store.jobs, ¬ job.movable nodeId := by
  constructor
  · rintro ⟨⟨n, s, ran, moved, -⟩, -⟩
    rw [redistributeJobs_run] at ran
    cases ran
    exact moved.none
  · intro none
    constructor
    · refine ⟨_, _, redistributeJobs_run nodeId w.store, ?_, rfl⟩
      exact .unchanged (Store.redistributed_jobs none) none
    · intro now trips
      refine ⟨_, by rw [recordFailure_run, if_pos trips], ?_⟩
      exact .unchanged (Store.redistributed_jobs (s := w.store.setNodeStatus nodeId _) none) none

def twoNodes : List (EdgeNode ℕ ℕ) :=
  [⟨3, "ed25519:3", "node", .arr [.str "render"], .HEALTHY, none, 0⟩,
    ⟨4, "ed25519:4", "node", .arr [.str "render"], .HEALTHY, none, 1⟩]

/-- The other node could run the job, which stays where it is. -/
theorem not_movesOff_dispatched :
    ¬ MovesOff ⟨⟨twoNodes, [newJob 7 3 "render" "s3://scene" 1], [], []⟩, .new⟩ 3 := by
  rintro ⟨⟨n, s, ran, moved, -⟩, -⟩
  rw [redistributeJobs_run] at ran
  cases ran
  have movable : (newJob 7 3 "render" "s3://scene" 1).movable 3 := by decide
  exact moved.none _ List.mem_cons_self movable

end RenderTrust.Scheduler
