import RenderTrust.Lib.Hoare
import RenderTrust.Lib.Runs
import RenderTrust.Scheduler.CircuitBreaker
import RenderTrust.Scheduler.Retry

/-!
# Jobs after their cancellation

The operations on jobs, in any order, each in a transaction of its own. A cancelled job is
FAILED, which is also the state that a retry starts from.
-/
namespace RenderTrust.Scheduler
open Lib Lib.Hoare Lib.Runs

variable {τ L : Type}

/-- A status that a node reports: every one but QUEUED, which stands for a retry. -/
abbrev Reported := {status : JobStatus // status ≠ .QUEUED}

inductive Operation (τ : Type) where
  | dispatch (redis : Bool) (id : Uuid) (now : τ) (jobType payloadRef : String)
  | report (now : τ) (jobId : Uuid) (status : Reported) (resultRef errorMessage : Option String)
  | retry (redis : Bool) (now later : τ) (jobId : Uuid) (errorMessage : String)
  | redistribute (nodeId : Uuid)
  | cancel (now : τ) (jobId : Uuid)

/-- A retry is of the job as the session has it. -/
def retryCurrent [LinearOrder L] (redis : Bool) (now later : τ) (jobId : Uuid)
    (errorMessage : String) : SchedulerM τ L Unit := do
  match (← get).jobById jobId with
  | none => return ()
  | some job => discard (scheduleRetry redis now later job errorMessage)

def Operation.run [LinearOrder L] : Operation τ → SchedulerM τ L Unit
  | .dispatch redis id now jobType payloadRef =>
      discard (dispatchJob redis id now jobType payloadRef)
  | .report now jobId status resultRef errorMessage =>
      discard (updateJobStatus now jobId status.val resultRef errorMessage)
  | .retry redis now later jobId errorMessage => retryCurrent redis now later jobId errorMessage
  | .redistribute nodeId => discard (redistributeJobs nodeId)
  | .cancel now jobId => discard (cancelJob now jobId)

/-- A statement that the database refuses rolls the transaction back. -/
def apply [LinearOrder L] (s : Store τ L) (op : Operation τ) : Store τ L :=
  match op.run.run s with
  | .ok _ t => t
  | .error .dataError _ => s
  | .error .integrityError _ => s
  | .error _ t => t

def step [LinearOrder L] (s : Store τ L) (op : Operation τ) : Option (Store τ L) :=
  some (apply s op)

/-! ## A job that stays failed -/

structure StaysFailed (jobId : Uuid) (s : Store τ L) : Prop where
  present : jobId ∈ s.jobs.map JobDispatch.id
  failed : ∀ job ∈ s.jobs, job.id = jobId → job.status = .FAILED

section Keeping
variable {jobId : Uuid} {s : Store τ L} {job : JobDispatch τ}

theorem StaysFailed.map {f : JobDispatch τ → JobDispatch τ} (h : StaysFailed jobId s)
    (ids : ∀ job, (f job).id = job.id)
    (keeps : ∀ job, job.id = jobId → job.status = .FAILED → (f job).status = .FAILED) :
    StaysFailed jobId { s with jobs := s.jobs.map f } where
  present := by
    rw [List.map_map]
    exact (List.map_congr_left fun job _ => ids job) ▸ h.present
  failed := by
    intro job member same
    obtain ⟨old, inside, rfl⟩ := List.mem_map.mp member
    rw [ids] at same
    exact keeps old same (h.failed old inside same)

theorem StaysFailed.setJob (h : StaysFailed jobId s)
    (keeps : job.id = jobId → job.status = .FAILED) :
    StaysFailed jobId (s.setJob job) := by
  refine h.map ?_ ?_
  · intro row
    split
    · rename_i same
      exact same.symm
    · rfl
  · intro row same failed
    split
    · rename_i other
      exact keeps (other.symm.trans same)
    · exact failed

theorem keeps_flushJob (keeps : job.id = jobId → job.status = .FAILED) :
    Triple (StaysFailed (L := L) jobId) (flushJob job)
      (fun flushed t => flushed = job ∧ StaysFailed jobId t) (fun _ => StaysFailed jobId) := by
  unfold flushJob
  refine .ite (fun _ => ?_) (fun _ => .raise fun _ h => h)
  refine .bind (.write fun s h => h.setJob keeps) fun _ => .ret fun s h => ⟨rfl, h⟩

/-- A status update of the job finds it FAILED, from where only QUEUED is allowed. -/
theorem keeps_updateJobStatus {now : τ} {id : Uuid} {newStatus : JobStatus}
    {resultRef errorMessage : Option String} (other : id = jobId → newStatus ≠ .QUEUED) :
    Triple (StaysFailed (L := L) jobId) (updateJobStatus now id newStatus resultRef errorMessage)
      (fun updated t => updated.id = id ∧ StaysFailed jobId t) (fun _ => StaysFailed jobId) := by
  unfold updateJobStatus
  refine .read fun s h => ?_
  cases found : s.jobById id with
  | none => exact (Triple.raise fun _ h => h).start h
  | some job =>
      obtain ⟨member, same⟩ := Store.jobById_eq_some found
      refine .ite (fun _ => (Triple.raise fun _ h => h).start h) (fun allowed => ?_)
      rw [not_not] at allowed
      refine ((keeps_flushJob ?_).weaken (fun _ h => h) ?_).start h
      · intro target
        change job.id = jobId at target
        have failed := h.failed job member target
        rw [failed] at allowed
        exact absurd (List.mem_singleton.mp allowed) (other (same.symm.trans target))
      · rintro updated t ⟨rfl, kept⟩
        exact ⟨same, kept⟩

/-- A second cancellation is refused. -/
theorem keeps_cancelJob {now : τ} {id : Uuid} :
    Triple (StaysFailed (L := L) jobId) (cancelJob now id) (fun _ => StaysFailed jobId)
      (fun _ => StaysFailed jobId) := by
  unfold cancelJob
  refine .read fun s h => ?_
  cases found : s.jobById id with
  | none => exact (Triple.raise fun _ h => h).start h
  | some job =>
      refine .ite (fun _ => (Triple.raise fun _ h => h).start h) (fun _ => ?_)
      exact ((keeps_flushJob fun _ => rfl).weaken (fun _ h => h) fun _ _ kept => kept.2).start h

theorem keeps_redistributeJobs {nodeId : Uuid} :
    Keeps (StaysFailed (τ := τ) (L := L) jobId) (redistributeJobs nodeId) := by
  unfold redistributeJobs
  refine .read fun s h => ?_
  refine Triple.start (P := StaysFailed jobId)
    (.bind (.write fun s h => ?_) fun _ => .ret fun s h => h) h
  refine h.map ?_ ?_
  · intro job
    split <;> rfl
  · intro job _ failed
    split
    · rename_i movable
      have moved := of_decide_eq_true movable
      rw [failed] at moved
      rcases moved.2 with queued | dispatched
      · cases queued
      · cases dispatched
    · exact failed

theorem keeps_pushToQueue {redis : Bool} {nodeId : Uuid} {job : JobDispatch τ} :
    Keeps (StaysFailed (L := L) jobId) (pushToQueue redis nodeId job) := by
  unfold pushToQueue
  refine .ite (fun _ => ?_) (fun _ => .ret fun s h => h)
  exact .bind (.write fun s h => ⟨h.present, h.failed⟩) fun _ => .ret fun s h => h

theorem keeps_insertJob {new : JobDispatch τ} :
    Keeps (StaysFailed (L := L) jobId) (insertJob new) := by
  unfold insertJob
  refine .ite (fun _ => .raise fun s h => h) (fun _ => ?_)
  refine .read fun s h => ?_
  refine .ite (fun _ => (Triple.raise fun s h => h).start h) (fun fresh => ?_)
  refine .write ?_
  rintro t rfl
  have other : new.id ≠ jobId := fun same => fresh (same ▸ h.present)
  constructor
  · rw [List.map_append]
    exact List.mem_append_left _ h.present
  · intro job member same
    rcases List.mem_append.mp member with old | added
    · exact h.failed job old same
    · rw [List.mem_singleton.mp added] at same
      exact absurd same other

theorem keeps_redispatch [LinearOrder L] {redis : Bool} {job : JobDispatch τ}
    (other : job.id ≠ jobId) :
    Triple (StaysFailed (L := L) jobId) (redispatch redis job) (fun _ => StaysFailed jobId)
      (fun _ => StaysFailed jobId) := by
  unfold redispatch
  refine .read fun s h => ?_
  cases findBestNode s job.jobType with
  | none => exact (Triple.ret fun _ h => h).start h
  | some bestNode =>
      refine Triple.start ?_ h
      refine .bind (keeps_flushJob fun same => absurd same other) fun flushed => ?_
      refine .bind (keeps_pushToQueue.weaken (fun _ kept => kept.2) fun _ _ h => h) fun _ => ?_
      exact .ret fun _ h => h

/-- Another job is FAILED before it is queued again. -/
theorem keeps_ensureFailed {now : τ} {job : JobDispatch τ} {errorMessage : String} :
    Triple (StaysFailed (L := L) jobId) (ensureFailed now job errorMessage)
      (fun failed t => failed.id = job.id ∧ StaysFailed jobId t) (fun _ => StaysFailed jobId) := by
  unfold ensureFailed
  refine .ite (fun _ => ?_) (fun _ => .ret fun _ h => ⟨rfl, h⟩)
  refine keeps_updateJobStatus fun _ => ?_
  rintro ⟨⟩

theorem keeps_ensureFailedWith {now : τ} {job : JobDispatch τ} {errorMessage : String} :
    Triple (StaysFailed (L := L) jobId) (ensureFailedWith now job errorMessage)
      (fun _ => StaysFailed jobId) (fun _ => StaysFailed jobId) := by
  unfold ensureFailedWith
  refine .ite (fun _ => ?_) (fun already => ?_)
  · refine (keeps_updateJobStatus fun _ => ?_).weaken (fun _ h => h) fun _ _ kept => kept.2
    rintro ⟨⟩
  · refine (keeps_flushJob fun _ => ?_).weaken (fun _ h => h) fun _ _ kept => kept.2
    exact not_not.mp already

theorem keeps_moveToDlq {now later : τ} {job : JobDispatch τ} {errorMessage : String} :
    Triple (StaysFailed (L := L) jobId) (moveToDlq now later job errorMessage)
      (fun _ => StaysFailed jobId) (fun _ => StaysFailed jobId) := by
  unfold moveToDlq
  refine .bind keeps_ensureFailedWith fun failed => ?_
  exact .bind (.write fun s h => ⟨h.present, h.failed⟩) fun _ => .ret fun _ h => h

theorem keeps_scheduleRetry [LinearOrder L] {redis : Bool} {now later : τ} {job : JobDispatch τ}
    {errorMessage : String} (spares : job.id = jobId → shouldRetry job = false) :
    Triple (StaysFailed (L := L) jobId) (scheduleRetry redis now later job errorMessage)
      (fun _ => StaysFailed jobId) (fun _ => StaysFailed jobId) := by
  unfold scheduleRetry
  refine .ite (fun retries => ?_) (fun _ => ?_)
  · have other : job.id ≠ jobId := by
      intro same
      rw [spares same] at retries
      cases retries
    refine .bind keeps_ensureFailed fun failed => .given fun same => ?_
    refine .bind (keeps_updateJobStatus fun target => ?_) fun queued => .given fun same' => ?_
    · exact absurd (same.symm.trans target) other
    · refine .bind (keeps_redispatch ?_) fun _ => .ret fun _ h => h
      rwa [same', same]
  · exact .bind keeps_moveToDlq fun _ => .ret fun _ h => h

/-- No retry is scheduled of the job while it has retries left. -/
def Spares (jobId : Uuid) (s : Store τ L) : Operation τ → Prop
  | .retry _ _ _ id _ => id = jobId → ∀ job ∈ s.jobById id, shouldRetry job = false
  | _ => True

instance (jobId : Uuid) (s : Store τ L) (op : Operation τ) : Decidable (Spares jobId s op) := by
  cases op <;> unfold Spares <;> infer_instance

theorem keeps_dispatchJob [LinearOrder L] {redis : Bool} {id : Uuid} {now : τ}
    {jobType payloadRef : String} :
    Triple (StaysFailed (L := L) jobId) (dispatchJob redis id now jobType payloadRef)
      (fun _ => StaysFailed jobId) (fun _ => StaysFailed jobId) := by
  unfold dispatchJob
  refine .read fun s h => ?_
  cases findBestNode s jobType with
  | none => exact (Triple.raise fun _ h => h).start h
  | some node =>
      refine Triple.start ?_ h
      exact .bind keeps_insertJob fun _ => .bind keeps_pushToQueue fun _ => .ret fun _ h => h

theorem StaysFailed.run [LinearOrder L] {op : Operation τ} (h : StaysFailed jobId s)
    (spares : Spares jobId s op) :
    Ends (op.run.run s) (fun _ => StaysFailed jobId) (fun _ => StaysFailed jobId) := by
  cases op with
  | dispatch redis id now jobType payloadRef => exact keeps_dispatchJob.forget s h
  | report now id status resultRef errorMessage =>
      refine Triple.forget ?_ s h
      exact (keeps_updateJobStatus fun _ => status.property).weaken (fun _ h => h)
        fun _ _ kept => kept.2
  | retry redis now later id errorMessage =>
      have retried : Triple (fun t => t = s) (retryCurrent redis now later id errorMessage)
          (fun _ => StaysFailed jobId) (fun _ => StaysFailed jobId) := by
        unfold retryCurrent
        refine .read ?_
        rintro t rfl
        cases found : t.jobById id with
        | none => exact (Triple.ret fun _ h => h).start h
        | some job =>
            refine Triple.start (keeps_scheduleRetry fun target => ?_).forget h
            exact spares ((Store.jobById_eq_some found).2.symm.trans target) job found
      exact retried s rfl
  | redistribute nodeId =>
      refine Triple.forget ?_ s h
      exact keeps_redistributeJobs
  | cancel now id => exact keeps_cancelJob.forget s h

theorem StaysFailed.apply [LinearOrder L] {op : Operation τ} (h : StaysFailed jobId s)
    (spares : Spares jobId s op) : StaysFailed jobId (apply s op) := by
  have ends := h.run spares
  unfold Scheduler.apply
  cases ran : op.run.run s with
  | ok _ t =>
      rw [ran] at ends
      exact ends
  | error e t =>
      rw [ran] at ends
      cases e with
      | dataError => exact h
      | integrityError => exact h
      | valueError message => exact ends
      | httpException statusCode detail => exact ends

theorem staysFailed_of_cancelled {now : τ} {t : Store τ L}
    (cancelled : (cancelJob now jobId).run s = .ok job t) : StaysFailed jobId t := by
  have cancels : Triple (fun u => u = s) (cancelJob now jobId) (fun _ => StaysFailed jobId)
      (fun _ _ => True) := by
    unfold cancelJob
    refine .read ?_
    rintro u rfl
    cases found : u.jobById jobId with
    | none => exact .raise fun _ _ => trivial
    | some job =>
        refine .ite (fun _ => .raise fun _ _ => trivial) (fun _ => ?_)
        unfold flushJob
        refine .ite (fun _ => .bind (.write ?_) fun _ => .ret fun _ h => h)
          (fun _ => .raise fun _ _ => trivial)
        rintro v rfl
        obtain ⟨member, same⟩ := Store.jobById_eq_some found
        constructor
        · rw [Store.ids_setJob, ← same]
          exact List.mem_map_of_mem member
        · intro row inside target
          rw [Store.eq_of_mem_setJob inside (target.trans same.symm)]
          rfl
  exact cancels.ok rfl cancelled

/-- From a successful cancellation on the job is FAILED, in every run that spares it. -/
theorem staysFailed_of_run [LinearOrder L] {now : τ} {t u : Store τ L} {ops : List (Operation τ)}
    (cancelled : (cancelJob now jobId).run s = .ok job t) (run : Run step (Spares jobId) t ops u) :
    StaysFailed jobId u := by
  refine Run.invariant (I := StaysFailed jobId) ?_ run (staysFailed_of_cancelled cancelled)
  intro s op t failed spares moved
  obtain rfl := Option.some.inj moved
  exact failed.apply spares

/-! ## A retry that is not spared -/

theorem stores_flushJob {P : Store τ L → Prop} (storable : job.storable)
    (present : ∀ s, P s → job.id ∈ s.jobs.map JobDispatch.id) :
    Triple P (flushJob job) (fun flushed t => flushed = job ∧ job ∈ t.jobs) (fun _ _ => False) := by
  unfold flushJob
  refine .ite (fun _ => ?_) (fun refused => absurd storable refused)
  exact .bind (.write fun s h => Store.mem_setJob (present s h)) fun _ => .ret fun _ h => ⟨rfl, h⟩

theorem storable_requeued {now : τ} (storable : job.storable) (retries : shouldRetry job) :
    (job.updated now .QUEUED none none).storable := by
  have few : job.retryCount < 3 := of_decide_eq_true retries
  obtain ⟨type, type', payload, payload', result, error, _⟩ := of_decide_eq_true storable
  refine decide_eq_true ⟨type, type', payload, payload', result, error, ?_⟩
  simp only [JobDispatch.updated]
  split <;> omega

theorem queued_redispatch [LinearOrder L] {redis : Bool} {queued : JobDispatch τ}
    (storable : queued.storable) (status : queued.status = .QUEUED) :
    Triple (fun s : Store τ L => queued ∈ s.jobs) (redispatch redis queued)
      (fun _ t => ∃ row ∈ t.jobs, row.id = queued.id ∧ row.status = .QUEUED)
      (fun _ _ => False) := by
  unfold redispatch
  refine .read fun s present => ?_
  cases findBestNode s queued.jobType with
  | none =>
      refine .ret ?_
      rintro t rfl
      exact ⟨queued, present, rfl, status⟩
  | some bestNode =>
      have stored : Triple (fun t => t = s) (flushJob { queued with nodeId := bestNode.id })
          (fun flushed t => flushed = { queued with nodeId := bestNode.id } ∧
            { queued with nodeId := bestNode.id } ∈ t.jobs) (fun _ _ => False) := by
        refine stores_flushJob storable ?_
        rintro t rfl
        exact List.mem_map.mpr ⟨queued, present, rfl⟩
      refine .bind stored fun _ => .given fun _ => ?_
      have pushed : ∀ (nodeId : Uuid) (job : JobDispatch τ),
          Triple (fun t : Store τ L => { queued with nodeId := bestNode.id } ∈ t.jobs)
            (pushToQueue redis nodeId job)
            (fun _ t => { queued with nodeId := bestNode.id } ∈ t.jobs) (fun _ _ => False) := by
        intro nodeId job
        unfold pushToQueue
        exact .ite (fun _ => .bind (.write fun _ h => h) fun _ => .ret fun _ h => h)
          (fun _ => .ret fun _ h => h)
      exact .bind (pushed _ _) fun _ => .ret fun _ h => ⟨_, h, rfl, status⟩

theorem queued_updateJobStatus {now : τ} (found : s.jobById job.id = some job)
    (failed : job.status = .FAILED) (storable : job.storable) (retries : shouldRetry job) :
    Triple (fun t => t = s) (updateJobStatus now job.id .QUEUED none none)
      (fun queued t => queued = job.updated now .QUEUED none none ∧
        job.updated now .QUEUED none none ∈ t.jobs) (fun _ _ => False) := by
  unfold updateJobStatus
  refine .read ?_
  rintro t rfl
  rw [found]
  refine .ite (fun refused => ?_) (fun _ => ?_)
  · rw [failed] at refused
    exact absurd (List.mem_singleton_self JobStatus.QUEUED) refused
  · refine stores_flushJob (storable_requeued storable retries) ?_
    rintro t rfl
    exact List.mem_map.mpr ⟨job, (Store.jobById_eq_some found).1, rfl⟩

/-- While retries are left, a retry puts the cancelled job back in the queue. -/
theorem queued_of_retry [LinearOrder L] {redis : Bool} {now later : τ} {errorMessage : String}
    (found : s.jobById job.id = some job) (failed : job.status = .FAILED) (storable : job.storable)
    (retries : shouldRetry job) :
    ∃ row ∈ (apply s (.retry redis now later job.id errorMessage)).jobs,
      row.id = job.id ∧ row.status = .QUEUED := by
  have retried : Triple (fun t => t = s) (scheduleRetry redis now later job errorMessage)
      (fun _ t => ∃ row ∈ t.jobs, row.id = job.id ∧ row.status = .QUEUED) (fun _ _ => False) := by
    unfold scheduleRetry ensureFailed
    refine .ite (fun _ => ?_) (fun used => absurd retries used)
    rw [if_neg (not_not.mpr failed)]
    refine .bind (R := fun kept t => kept = job ∧ t = s) (.ret fun _ h => ⟨rfl, h⟩) fun kept =>
      .given fun same => ?_
    subst same
    refine .bind (queued_updateJobStatus found failed storable retries) fun queued =>
      .given fun same => ?_
    subst same
    exact .bind (queued_redispatch (storable_requeued storable retries) rfl) fun _ =>
      .ret fun _ h => h
  have current : Triple (fun t => t = s) (retryCurrent redis now later job.id errorMessage)
      (fun _ t => ∃ row ∈ t.jobs, row.id = job.id ∧ row.status = .QUEUED) (fun _ _ => False) := by
    unfold retryCurrent
    refine .read ?_
    rintro t rfl
    rw [found]
    exact retried.forget
  have ends := current s rfl
  simp only [apply, Operation.run]
  cases ran : (retryCurrent redis now later job.id errorMessage).run s with
  | ok _ t =>
      rw [ran] at ends
      exact ends
  | error e t =>
      rw [ran] at ends
      exact ends.elim

end Keeping

def oneNode (jobs : List (JobDispatch ℕ)) : Store ℕ ℕ where
  nodes := [⟨3, "ed25519:3", "node", .arr [.str "render"], .HEALTHY, none, 0⟩]
  jobs := jobs
  deadLetters := []
  queue := []

def usedUp : JobDispatch ℕ := { newJob 7 3 "render" "s3://scene" 1 with retryCount := 3 }

/-- A late failure report and a status report of a cancelled job without retries. -/
def lateReports : List (Operation ℕ) :=
  [.retry true 3 4 7 "out of memory", .report 5 7 ⟨.RUNNING, by decide⟩ none none, .redistribute 3]

theorem staysFailed_of_run_usedUp : ∃ t u : Store ℕ ℕ,
    (cancelJob 2 7).run (oneNode [usedUp]) = .ok (usedUp.cancelled 2) t ∧
      Run step (Spares 7) t lateReports u ∧ StaysFailed 7 u := by
  have accepted : Ends ((cancelJob 2 7).run (oneNode [usedUp]))
      (fun job t => job = usedUp.cancelled 2 ∧ (exec step (Spares 7) t lateReports).isSome)
      (fun _ _ => False) := by decide +kernel
  cases ran : (cancelJob 2 7).run (oneNode [usedUp]) with
  | error e t =>
      rw [ran] at accepted
      exact accepted.elim
  | ok job t =>
      rw [ran] at accepted
      obtain ⟨rfl, some⟩ := accepted
      obtain ⟨u, run⟩ := run_of_isSome some
      exact ⟨t, u, rfl, run, staysFailed_of_run ran run⟩

def dispatched : Store ℕ ℕ := apply (oneNode []) (.dispatch true 7 1 "render" "s3://scene")

/-- Cancelled while the node was about to fail it: the failure report queues it again. -/
theorem cancelled_requeued :
    ¬ ∀ (s t u : Store ℕ ℕ) (job : JobDispatch ℕ) (ops : List (Operation ℕ)),
      (cancelJob 2 7).run s = .ok job t → Run step Always t ops u → StaysFailed 7 u := by
  intro claim
  have accepted : Ends ((cancelJob 2 7).run dispatched)
      (fun _ t => ∃ row ∈ (apply t (.retry true 3 4 7 "out of memory")).jobs,
        row.id = 7 ∧ row.status = .QUEUED) (fun _ _ => False) := by decide +kernel
  cases ran : (cancelJob 2 7).run dispatched with
  | error e t =>
      rw [ran] at accepted
      exact accepted
  | ok job t =>
      rw [ran] at accepted
      have kept := claim _ t _ job [.retry true 3 4 7 "out of memory"] ran
        (.cons trivial rfl (.nil _))
      obtain ⟨row, member, same, queued⟩ := accepted
      rw [kept.failed row member same] at queued
      cases queued

end RenderTrust.Scheduler
