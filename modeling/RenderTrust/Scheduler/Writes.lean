import RenderTrust.Scheduler.Timeline

/-!
# What a flush can do

Every call changes the rows of the jobs one flush at a time. What one flush can do to a
row is said once, with the guards that the call has checked before it.
-/
namespace RenderTrust.Scheduler
open Lib Lib.Hoare Lib.Keyed Lib.Stages
open Ledger (bindable)

variable {L : Type}

/-- A retry of the job goes ahead: it is not COMPLETED, and the message can be stored. -/
def JobDispatch.retriable (job : JobDispatch ℕ) (errorMessage : String) : Bool :=
  shouldRetry job ∧ job.status ≠ .COMPLETED ∧ (job.status = .FAILED ∨ bindable errorMessage)

/-- The job can be archived with the message. -/
def JobDispatch.archivable (job : JobDispatch ℕ) (errorMessage : String) : Bool :=
  job.status ≠ .COMPLETED ∧ bindable errorMessage

structure Retries (before : Store ℕ L) (call : Call L) (jobId : Uuid) (later : ℕ)
    (errorMessage : String) : Prop where
  called : ∃ redis, call = .job (.retry redis later jobId errorMessage)
  left : ∃ start, before.jobById jobId = some start ∧ start.retriable errorMessage

def Redistributes (before : World ℕ L) (call : Call L) (nodeId : Uuid) : Prop :=
  call = .job (.redistribute nodeId) ∨
    call = .breaker (.failure nodeId) ∧ Trips before.breaker nodeId

/-- The call archives the job, which has its retries used up unless it is asked for. -/
def Archives (call : Call L) (job : JobDispatch ℕ) (later : ℕ) (errorMessage : String) : Prop :=
  call = .job (.archive later job.id errorMessage) ∨
    ∃ redis, call = .job (.retry redis later job.id errorMessage) ∧ ¬ shouldRetry job

def JobDispatch.archived (job : JobDispatch ℕ) (now : ℕ) (errorMessage : String) : JobDispatch ℕ :=
  if job.status ≠ .FAILED then job.updated now .FAILED none (some errorMessage)
  else { job with errorMessage := some errorMessage }

def JobDispatch.deadLetter (job : JobDispatch ℕ) (later : ℕ) (errorMessage : String) :
    DeadLetterEntry ℕ :=
  ⟨job.id, job.payloadRef, errorHistory job errorMessage, later, job.retryCount⟩

section Steps
variable (before : World ℕ L) (now : ℕ) (call : Call L)

/-- What one flush of the call can do to a row. -/
inductive Change : JobDispatch ℕ → JobDispatch ℕ → Prop
  | same (job : JobDispatch ℕ) : Change job job
  | updated {job : JobDispatch ℕ} {status : JobStatus} {resultRef errorMessage : Option String}
      (called : call = .job (.update job.id status resultRef errorMessage))
      (current : before.store.jobById job.id = some job)
      (allowed : status ∈ VALID_TRANSITIONS job.status) :
      Change job (job.updated now status resultRef errorMessage)
  | cancelled {job : JobDispatch ℕ} (called : call = .job (.cancel job.id))
      (waiting : job.status = .QUEUED ∨ job.status = .DISPATCHED) : Change job (job.cancelled now)
  | failed {job : JobDispatch ℕ} {later : ℕ} {errorMessage : String}
      (retries : Retries before.store call job.id later errorMessage)
      (allowed : .FAILED ∈ VALID_TRANSITIONS job.status) :
      Change job (job.updated now .FAILED none (some errorMessage))
  | requeued {job : JobDispatch ℕ} {later : ℕ} {errorMessage : String}
      (retries : Retries before.store call job.id later errorMessage) (left : shouldRetry job)
      (failed : job.status = .FAILED) : Change job (job.updated later .QUEUED none none)
  | reassigned {job : JobDispatch ℕ} {later : ℕ} {errorMessage : String} {nodeId : Uuid}
      (retries : Retries before.store call job.id later errorMessage)
      (queued : job.status = .QUEUED) : Change job { job with nodeId }
  | redistributed {job : JobDispatch ℕ} {nodeId : Uuid}
      (redistributes : Redistributes before call nodeId) (current : job ∈ before.store.jobs)
      (movable : job.movable nodeId) : Change job job.requeued
  | archived {job : JobDispatch ℕ} {later : ℕ} {errorMessage : String}
      (archives : Archives call job later errorMessage) (unfinished : job.status ≠ .COMPLETED) :
      Change job (job.archived now errorMessage)

/-- The rows that are new after a flush. -/
inductive Fresh (u : Store ℕ L) : List (JobDispatch ℕ) → Prop
  | none : Fresh u []
  | dispatched {redis : Bool} {id nodeId : Uuid} {jobType payloadRef : String}
      (called : call = .job (.dispatch redis id jobType payloadRef))
      (absent : id ∉ u.jobs.map JobDispatch.id) :
      Fresh u [newJob id nodeId jobType payloadRef now]

structure Archived (v : Store ℕ L) (job : JobDispatch ℕ) (entry : DeadLetterEntry ℕ)
    (later : ℕ) (errorMessage : String) : Prop where
  archives : Archives call job later errorMessage
  current : before.store.jobById job.id = some job
  unfinished : job.status ≠ .COMPLETED
  row : job.archived now errorMessage ∈ v.jobs
  entry : entry = job.deadLetter later errorMessage

structure Flush (u v : Store ℕ L) : Prop where
  rows : ∃ f fresh, v.jobs = u.jobs.map f ++ fresh ∧
    (∀ job ∈ u.jobs, Change before now call job (f job)) ∧ Fresh now call u fresh
  deadLetters : v.deadLetters = u.deadLetters ∨
    ∃ job entry later errorMessage, v.deadLetters = u.deadLetters ++ [entry] ∧
      Archived before now call v job entry later errorMessage

end Steps

/-! ## What follows for the rows -/

abbrev Store.Distinct (s : Store ℕ L) : Prop := DistinctKeys JobDispatch.id s.jobs

section Rows
variable {before : World ℕ L} {now : ℕ} {call : Call L} {u v : Store ℕ L}

theorem Store.Distinct.jobById {s : Store ℕ L} (distinct : s.Distinct) {job : JobDispatch ℕ}
    (member : job ∈ s.jobs) : s.jobById job.id = some job :=
  DistinctKeys.find? distinct member

theorem Store.distinct_of_empty {s : Store ℕ L} (empty : s.jobs = []) : s.Distinct := by
  rw [Store.Distinct, DistinctKeys, empty]
  exact List.nodup_nil

theorem JobDispatch.archived_id (job : JobDispatch ℕ) (now : ℕ) (errorMessage : String) :
    (job.archived now errorMessage).id = job.id := by
  unfold JobDispatch.archived
  split <;> rfl

theorem Change.id {job row : JobDispatch ℕ} (h : Change before now call job row) :
    row.id = job.id := by
  cases h with
  | archived => exact JobDispatch.archived_id job now _
  | _ => rfl

theorem Flush.rewritten (h : Flush before now call u v) :
    Rewritten (Change before now call) (Fresh now call u) u.jobs v.jobs :=
  h.rows

theorem Flush.distinct (h : Flush before now call u v) (distinct : u.Distinct) : v.Distinct := by
  refine h.rewritten.distinct (fun _ _ change => change.id) (fun fresh new => ?_) distinct
  cases new with
  | none => exact ⟨List.nodup_nil, fun _ member => absurd member List.not_mem_nil⟩
  | dispatched called absent =>
      refine ⟨List.nodup_singleton _, fun job member => ?_⟩
      rw [List.mem_singleton.mp member]
      exact absent

/-- Where a row comes from. -/
theorem Flush.origin (h : Flush before now call u v) {row : JobDispatch ℕ} (member : row ∈ v.jobs) :
    (∃ job ∈ u.jobs, Change before now call job row) ∨
      ∃ id nodeId jobType payloadRef, id ∉ u.jobs.map JobDispatch.id ∧
        row = newJob id nodeId jobType payloadRef now := by
  rcases h.rewritten.origin member with old | ⟨fresh, new, added⟩
  · exact .inl old
  · cases new with
    | none => exact absurd added List.not_mem_nil
    | dispatched called absent =>
        exact .inr ⟨_, _, _, _, absent, List.mem_singleton.mp added⟩

/-- Where a row goes. -/
theorem Flush.target (h : Flush before now call u v) {job : JobDispatch ℕ} (member : job ∈ u.jobs) :
    ∃ row ∈ v.jobs, Change before now call job row :=
  h.rewritten.target member

theorem Flush.keep (jobs : v.jobs = u.jobs) (deadLetters : v.deadLetters = u.deadLetters) :
    Flush before now call u v where
  rows := by
    change Rewritten (Change before now call) (Fresh now call u) u.jobs v.jobs
    rw [jobs]
    exact .refl (fun job => .same job) .none
  deadLetters := .inl deadLetters

/-- One row is rewritten. -/
theorem Flush.rows_setJob (distinct : u.Distinct) {job job' : JobDispatch ℕ}
    (found : u.jobById job.id = some job) (change : Change before now call job job')
    (jobs : v.jobs = (u.setJob job').jobs) :
    Rewritten (Change before now call) (Fresh now call u) u.jobs v.jobs := by
  rw [jobs]
  refine .map (fun row member => ?_) .none
  split
  · rename_i same
    rw [change.id] at same
    have current := distinct.jobById member
    rw [same, found] at current
    cases current
    exact change
  · exact .same row

end Rows

/-! ## What the programs do -/

def SameRecords (s t : Store ℕ L) : Prop := t.jobs = s.jobs ∧ t.deadLetters = s.deadLetters

section Programs
variable {s : Store ℕ L}

theorem ends_flushJob (job : JobDispatch ℕ) :
    Triple (fun t => t = s) (flushJob job)
      (fun flushed t => flushed = job ∧ job.storable ∧ t = s.setJob job)
      (fun e t => e = .dataError ∧ t = s) := by
  unfold flushJob
  refine .ite (fun storable => ?_) (fun _ => .raise fun t h => ⟨rfl, h⟩)
  refine .bind (R := fun _ t => t = s.setJob job) (.write ?_) fun _ =>
    .ret fun t h => ⟨rfl, storable, h⟩
  rintro t rfl
  rfl

theorem ends_insertJob (job : JobDispatch ℕ) :
    Triple (fun t => t = s) (insertJob job)
      (fun _ t => job.id ∉ s.jobs.map JobDispatch.id ∧ t = { s with jobs := s.jobs ++ [job] })
      (fun e t => e.rollsBack ∧ t = s) := by
  unfold insertJob
  refine .ite (fun _ => .raise fun t h => ⟨rfl, h⟩) (fun _ => ?_)
  refine .read ?_
  rintro t rfl
  refine .ite (fun _ => .raise fun t h => ⟨rfl, h⟩) (fun absent => .write ?_)
  rintro t rfl
  exact ⟨absent, rfl⟩

/-- Redis takes a message; the tables stay. -/
theorem ends_pushToQueue (redis : Bool) (nodeId : Uuid) (job : JobDispatch ℕ) :
    Triple (fun t => t = s) (pushToQueue redis nodeId job) (fun _ t => SameRecords s t)
      (fun _ _ => False) := by
  unfold pushToQueue
  refine .ite (fun _ => ?_) (fun _ => .ret ?_)
  · refine .bind (R := fun _ t => SameRecords s t) (.write ?_) fun _ => .ret fun t h => h
    rintro t rfl
    exact ⟨rfl, rfl⟩
  · rintro t rfl
    exact ⟨rfl, rfl⟩

theorem ends_dispatchJob [LinearOrder L] (redis : Bool) (id : Uuid) (now : ℕ)
    (jobType payloadRef : String) :
    Triple (fun t => t = s) (dispatchJob redis id now jobType payloadRef)
      (fun job t => ∃ nodeId, job = newJob id nodeId jobType payloadRef now ∧
        id ∉ s.jobs.map JobDispatch.id ∧ t.jobs = s.jobs ++ [job] ∧ t.deadLetters = s.deadLetters)
      (fun _ t => t = s) := by
  unfold dispatchJob
  refine .read ?_
  rintro t rfl
  cases findBestNode t jobType with
  | none => exact .raise fun _ h => h
  | some node =>
      refine .bind ((ends_insertJob _).imp fun _ _ h => h.2) fun _ => .given fun absent => ?_
      exact .bind ((ends_pushToQueue _ _ _).imp fun _ _ h => h.elim) fun _ =>
        .ret fun u h => ⟨node.id, rfl, absent, h⟩

theorem ends_updateJobStatus (now : ℕ) (jobId : Uuid) (status : JobStatus)
    (resultRef errorMessage : Option String) :
    Triple (fun t => t = s) (updateJobStatus now jobId status resultRef errorMessage)
      (fun updated t => ∃ job, s.jobById jobId = some job ∧ status ∈ VALID_TRANSITIONS job.status ∧
        updated = job.updated now status resultRef errorMessage ∧ updated.storable ∧
        t = s.setJob updated)
      (fun e t => t = s ∧ (e = .dataError ∨
        ∀ job, s.jobById jobId = some job → status ∉ VALID_TRANSITIONS job.status)) := by
  unfold updateJobStatus
  refine .read ?_
  rintro t rfl
  cases found : t.jobById jobId with
  | none =>
      refine .raise fun u h => ⟨h, .inr ?_⟩
      rintro job ⟨⟩
  | some job =>
      refine .ite (fun refused => .raise fun u h => ⟨h, .inr ?_⟩) (fun allowed => ?_)
      · rintro _ ⟨⟩
        exact refused
      · rw [not_not] at allowed
        refine ((ends_flushJob _).imp fun e u h => ⟨h.2, .inl h.1⟩).weaken (fun _ h => h) ?_
        rintro updated u ⟨rfl, built⟩
        exact ⟨job, rfl, allowed, rfl, built⟩

theorem ends_cancelJob (now : ℕ) (jobId : Uuid) :
    Triple (fun t => t = s) (cancelJob now jobId)
      (fun cancelled t => ∃ job, s.jobById jobId = some job ∧
        (job.status = .QUEUED ∨ job.status = .DISPATCHED) ∧ cancelled = job.cancelled now ∧
        t = s.setJob cancelled)
      (fun _ t => t = s) := by
  unfold cancelJob
  refine .read ?_
  rintro t rfl
  cases found : t.jobById jobId with
  | none => exact .raise fun _ h => h
  | some job =>
      refine .ite (fun _ => .raise fun _ h => h) (fun waiting => ?_)
      refine ((ends_flushJob _).imp fun e u h => h.2).weaken (fun _ h => h) ?_
      rintro cancelled u ⟨rfl, -, built⟩
      refine ⟨job, rfl, ?_, rfl, built⟩
      rwa [← not_ne_iff, ← not_ne_iff, ← not_and_or]

theorem JobDispatch.archived_eq (job : JobDispatch ℕ) (now : ℕ) (errorMessage : String) :
    (job.archived now errorMessage).status = .FAILED ∧
      (job.archived now errorMessage).payloadRef = job.payloadRef ∧
      (job.archived now errorMessage).retryCount = job.retryCount := by
  unfold JobDispatch.archived
  split
  · exact ⟨rfl, rfl, rfl⟩
  · rename_i already
    exact ⟨not_not.mp already, rfl, rfl⟩

theorem JobDispatch.deadLetter_archived (job : JobDispatch ℕ) (now later : ℕ)
    (errorMessage : String) :
    (⟨(job.archived now errorMessage).id, (job.archived now errorMessage).payloadRef,
      errorHistory job errorMessage, later, (job.archived now errorMessage).retryCount⟩ :
      DeadLetterEntry ℕ) = job.deadLetter later errorMessage := by
  obtain ⟨-, payload, count⟩ := job.archived_eq now errorMessage
  rw [JobDispatch.archived_id, payload, count]
  rfl

theorem Store.jobById_setJob {job job' : JobDispatch ℕ} (found : s.jobById job.id = some job)
    (same : job'.id = job.id) : (s.setJob job').jobById job'.id = some job' := by
  unfold Store.jobById Store.setJob
  have reads : (fun row : JobDispatch ℕ => decide (row.id = job'.id)) ∘
      (fun row => if row.id = job'.id then job' else row) =
        fun row => decide (row.id = job.id) := by
    funext row
    rw [Function.comp_apply, same]
    split
    · rename_i here
      rw [same, here]
    · rfl
  rw [List.find?_map, reads]
  change ((s.jobById job.id).map _) = _
  rw [found, Option.map_some, if_pos same.symm]

theorem unfinished_of_allowed {job : JobDispatch ℕ} {status : JobStatus}
    (allowed : status ∈ VALID_TRANSITIONS job.status) : job.status ≠ .COMPLETED := by
  intro completed
  rw [completed] at allowed
  exact List.not_mem_nil allowed

theorem bindable_of_storable {job : JobDispatch ℕ} (storable : job.storable) {errorMessage : String}
    (text : job.errorMessage = some errorMessage) : bindable errorMessage := by
  obtain ⟨-, -, -, -, -, error, -⟩ := of_decide_eq_true storable
  rwa [text, Option.all_some] at error

theorem ends_ensureFailedWith (now : ℕ) {job : JobDispatch ℕ} (errorMessage : String)
    (found : s.jobById job.id = some job) :
    Triple (fun t => t = s) (ensureFailedWith now job errorMessage)
      (fun failed t => job.archivable errorMessage ∧ failed = job.archived now errorMessage ∧
        t = s.setJob failed)
      (fun _ t => t = s) := by
  unfold ensureFailedWith JobDispatch.archived
  refine .ite (fun other => ?_) (fun already => ?_)
  · refine ((ends_updateJobStatus now job.id .FAILED none (some errorMessage)).imp
      fun _ _ h => h.1).weaken (fun _ h => h) ?_
    rintro failed t ⟨row, current, allowed, rfl, storable, built⟩
    rw [found] at current
    cases current
    have archivable : job.archivable errorMessage :=
      decide_eq_true ⟨unfinished_of_allowed allowed, bindable_of_storable storable rfl⟩
    exact ⟨archivable, (if_pos other).symm, built⟩
  · refine ((ends_flushJob _).imp fun e t h => h.2).weaken (fun _ h => h) ?_
    rintro failed t ⟨rfl, storable, built⟩
    have unfinished : job.status ≠ .COMPLETED := by
      rw [not_not.mp already]
      decide
    have archivable : job.archivable errorMessage :=
      decide_eq_true ⟨unfinished, bindable_of_storable storable rfl⟩
    exact ⟨archivable, (if_neg already).symm, built⟩

theorem ends_moveToDlq (now later : ℕ) {job : JobDispatch ℕ} (errorMessage : String)
    (found : s.jobById job.id = some job) :
    Triple (fun t => t = s) (moveToDlq now later job errorMessage)
      (fun entry t => job.archivable errorMessage ∧ entry = job.deadLetter later errorMessage ∧
        t.jobs = (s.setJob (job.archived now errorMessage)).jobs ∧
        t.deadLetters = s.deadLetters ++ [entry])
      (fun _ t => t = s) := by
  unfold moveToDlq
  refine .bind (ends_ensureFailedWith now errorMessage found) fun failed => ?_
  refine .given fun archivable => .given fun same => ?_
  subst same
  refine .bind (R := fun _ t => t.jobs = (s.setJob (job.archived now errorMessage)).jobs ∧
    t.deadLetters = s.deadLetters ++ [job.deadLetter later errorMessage]) (.write ?_)
    fun _ => .ret ?_
  · rintro t rfl
    refine ⟨rfl, ?_⟩
    rw [← job.deadLetter_archived now]
    rfl
  · intro t h
    rw [JobDispatch.deadLetter_archived]
    exact ⟨archivable, rfl, h⟩

/-- The record of `job` that a retry goes on with. -/
structure Underway (s : Store ℕ L) (job : JobDispatch ℕ) (errorMessage : String)
    (phase : JobStatus) (record : JobDispatch ℕ) (t : Store ℕ L) : Prop where
  distinct : t.Distinct
  current : t.jobById record.id = some record
  id : record.id = job.id
  status : record.status = phase
  left : phase = .FAILED → shouldRetry record
  retriable : job.retriable errorMessage
  deadLetters : t.deadLetters = s.deadLetters

/-- What the retry of `job` did to the archive. -/
def Retried (s : Store ℕ L) (job : JobDispatch ℕ) (later : ℕ) (errorMessage : String)
    (t : Store ℕ L) : JobDispatch ℕ ⊕ DeadLetterEntry ℕ → Prop
  | .inl _ => shouldRetry job ∧ t.deadLetters = s.deadLetters
  | .inr entry => ¬ shouldRetry job ∧ job.archivable errorMessage ∧
      entry = job.deadLetter later errorMessage ∧ t.deadLetters = s.deadLetters ++ [entry]

end Programs

end RenderTrust.Scheduler
