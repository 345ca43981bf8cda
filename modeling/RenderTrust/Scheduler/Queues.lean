import RenderTrust.Scheduler.Cancellation
import RenderTrust.Scheduler.Writes

/-!
# The lists in Redis and the table of the jobs

A message is pushed when a job is assigned to a node, and nothing but the node takes it from
its list again.
-/
namespace RenderTrust.Scheduler
open Lib Lib.Hoare Lib.Keyed Lib.Runs
open Ledger (bindable)

variable {L : Type}

inductive QueueStep where
  | dispatch (id : Uuid) (now : ℕ) (jobType payloadRef : String)
  | retry (now later : ℕ) (jobId : Uuid) (errorMessage : String)
  | redistribute (nodeId : Uuid)
  | failure (now : ℕ) (nodeId : Uuid)
  | cancel (now : ℕ) (jobId : Uuid)
  | pop (nodeId : Uuid)

/-- The node takes the head of its list. -/
def Store.popped (s : Store ℕ L) (nodeId : Uuid) : Store ℕ L :=
  { s with queue := s.queue.eraseP fun entry => entry.1 = nodeId }

def failureRecorded (w : World ℕ L) (now : ℕ) (nodeId : Uuid) : World ℕ L :=
  match (recordFailure now nodeId).run w with
  | .ok _ w' => w'
  | .error _ w' => w'

/-- Redis is there all the time. -/
def QueueStep.step [LinearOrder L] (w : World ℕ L) : QueueStep → Option (World ℕ L)
  | .dispatch id now jobType payloadRef =>
      some { w with store := apply w.store (.dispatch true id now jobType payloadRef) }
  | .retry now later jobId errorMessage =>
      some { w with store := apply w.store (.retry true now later jobId errorMessage) }
  | .redistribute nodeId => some { w with store := apply w.store (.redistribute nodeId) }
  | .failure now nodeId => some (failureRecorded w now nodeId)
  | .cancel now jobId => some { w with store := apply w.store (.cancel now jobId) }
  | .pop nodeId => some { w with store := w.store.popped nodeId }

/-- The jobs whose messages are in the lists. -/
def Store.queuedIds (s : Store ℕ L) : List Uuid := s.queue.map fun entry => entry.2.jobId

/-- The retry is refused, or finds no node. -/
def Store.leaves [LinearOrder L] (s : Store ℕ L) (jobId : Uuid) (errorMessage : String) : Bool :=
  !bindable errorMessage || (s.jobById jobId).any fun job =>
    shouldRetry job && (findBestNode s job.jobType).isNone

/-- No job is cancelled, archived or given to a node again while a message of it is in a
list. -/
def QueueStep.delivered [LinearOrder L] (w : World ℕ L) : QueueStep → Bool
  | .cancel _ jobId => jobId ∉ w.store.queuedIds
  | .retry _ _ jobId errorMessage =>
      jobId ∉ w.store.queuedIds ∨ w.store.leaves jobId errorMessage
  | _ => true

/-- A message is in the list of the node that its job is assigned to and waits for, and it is
the only one of the job. -/
structure Store.QueuesAgree (s : Store ℕ L) : Prop where
  assigned : ∀ entry ∈ s.queue, ∃ job ∈ s.jobs, job.id = entry.2.jobId ∧ job.movable entry.1
  once : s.queuedIds.Nodup

structure Store.Queued (s : Store ℕ L) : Prop where
  distinct : s.Distinct
  agree : s.QueuesAgree

/-! ## What the operations do -/

section Operations
variable [LinearOrder L] {s t : Store ℕ L}

theorem apply_cases (op : Operation ℕ) {Q : Store ℕ L → Prop}
    (ends : Triple (fun t => t = s) op.run (fun _ t => Q t) (fun e t => t = s ∨ e.rollsBack)) :
    apply s op = s ∨ Q (apply s op) := by
  unfold apply
  have ran := ends s rfl
  cases outcome : op.run.run s with
  | ok _ t =>
      rw [outcome] at ran
      exact .inr ran
  | error e t =>
      rw [outcome] at ran
      cases e with
      | dataError | integrityError => exact .inl rfl
      | valueError | httpException =>
          rcases ran with same | refused
          · exact .inl same
          · cases refused

omit [LinearOrder L] in
theorem push_ends (nodeId : Uuid) (job : JobDispatch ℕ) :
    Triple (fun t => t = s) (pushToQueue true nodeId job)
      (fun _ t => t =
        { s with queue := s.queue ++ [(nodeId, ⟨job.id, job.jobType, job.payloadRef⟩)] })
      (fun _ _ => False) := by
  unfold pushToQueue
  refine .ite (fun _ => ?_) (fun absent => absurd rfl absent)
  refine .bind (.write ?_) fun _ => .ret fun t h => h
  rintro t rfl
  rfl

/-- The new job and its message. -/
theorem push_dispatchJob (id : Uuid) (now : ℕ) (jobType payloadRef : String) :
    Triple (fun t => t = s) (dispatchJob true id now jobType payloadRef)
      (fun _ t => ∃ nodeId, id ∉ s.jobs.map JobDispatch.id ∧
        t.jobs = s.jobs ++ [newJob id nodeId jobType payloadRef now] ∧
        t.queue = s.queue ++ [(nodeId, ⟨id, jobType, payloadRef⟩)])
      (fun _ t => t = s) := by
  unfold dispatchJob
  refine .read ?_
  rintro t rfl
  cases findBestNode t jobType with
  | none => exact .raise fun _ h => h
  | some node =>
      refine .bind ((ends_insertJob _).imp fun _ _ h => h.2) fun _ => .given fun absent => ?_
      refine .bind ((push_ends _ _).imp fun _ _ h => h.elim) fun _ => .ret ?_
      rintro u rfl
      exact ⟨node.id, absent, rfl, rfl⟩

omit [LinearOrder L] in
theorem Store.setJob_setJob {first second : JobDispatch ℕ} (same : second.id = first.id) :
    (s.setJob first).setJob second = s.setJob second := by
  unfold Store.setJob
  simp only [List.map_map]
  congr 1
  apply List.map_congr_left
  intro row _
  rw [Function.comp_apply]
  by_cases here : row.id = first.id
  · rw [if_pos here, if_pos same.symm, if_pos (here.trans same.symm)]
  · rw [if_neg here]

omit [LinearOrder L] in
theorem Store.Distinct.setJob_self (distinct : s.Distinct) {job : JobDispatch ℕ}
    (found : s.jobById job.id = some job) : s.setJob job = s := by
  have same : s.jobs.map (fun row => if row.id = job.id then job else row) = s.jobs.map id := by
    apply List.map_congr_left
    intro row member
    split
    · rename_i here
      have current := distinct.jobById member
      rw [here, found] at current
      exact Option.some.inj current
    · rfl
  unfold Store.setJob
  rw [same, List.map_id]

/-- The row of the job is rewritten and stays with its node. -/
structure Rewrites (s : Store ℕ L) (job row : JobDispatch ℕ) (t : Store ℕ L) : Prop where
  table : t = s.setJob row
  id : row.id = job.id
  nodeId : row.nodeId = job.nodeId
  jobType : row.jobType = job.jobType

/-- What a retry does that is not refused. -/
inductive Rescheduled (s : Store ℕ L) (job : JobDispatch ℕ) (t : Store ℕ L) : Prop
  | waits {row : JobDispatch ℕ} (rewrites : Rewrites s job row t) (queued : row.status = .QUEUED)
  | pushed (row : JobDispatch ℕ) (found : (findBestNode s job.jobType).isSome)
      (id : row.id = job.id) (queued : row.status = .QUEUED) (jobs : t.jobs = (s.setJob row).jobs)
      (queue : t.queue = s.queue ++ [(row.nodeId, ⟨row.id, row.jobType, row.payloadRef⟩)])
  | archived {row : JobDispatch ℕ} (used : ¬ shouldRetry job) (id : row.id = job.id)
      (jobs : t.jobs = (s.setJob row).jobs) (queue : t.queue = s.queue)

section Retry
variable {job : JobDispatch ℕ} {errorMessage : String}

omit [LinearOrder L] in
theorem rewrites_ensureFailed (now : ℕ) (distinct : s.Distinct)
    (found : s.jobById job.id = some job) :
    Triple (fun t => t = s) (ensureFailed now job errorMessage)
      (fun failed t => Rewrites s job failed t ∧ failed.status = .FAILED ∧
        (job.status = .FAILED ∨ bindable errorMessage))
      (fun _ t => t = s) := by
  unfold ensureFailed
  refine .ite (fun _ => ?_) fun already => .ret ?_
  · refine ((ends_updateJobStatus now job.id .FAILED none (some errorMessage)).imp
      fun _ _ h => h.1).weaken (fun _ h => h) ?_
    rintro failed t ⟨row, current, -, rfl, storable, built⟩
    rw [found] at current
    cases current
    exact ⟨⟨built, rfl, rfl, rfl⟩, rfl, .inr (bindable_of_storable storable rfl)⟩
  · rintro t rfl
    have failed := not_not.mp already
    exact ⟨⟨(distinct.setJob_self found).symm, rfl, rfl, rfl⟩, failed, .inl failed⟩

omit [LinearOrder L] in
theorem rewrites_queued (later : ℕ) {failed : JobDispatch ℕ} (found : s.jobById job.id = some job)
    (rewrites : Rewrites s job failed t) (status : failed.status = .FAILED) :
    Triple (fun u => u = t) (updateJobStatus later failed.id .QUEUED none none)
      (fun queued u => Rewrites s job queued u ∧ queued.status = .QUEUED)
      (fun e _ => e.rollsBack) := by
  obtain ⟨rfl, id, nodeId, jobType⟩ := rewrites
  have current := Store.jobById_setJob found id
  refine ((ends_updateJobStatus later failed.id .QUEUED none none).imp ?_).weaken
    (fun _ h => h) ?_
  · rintro e u ⟨-, rfl | invalid⟩
    · rfl
    · have refused := invalid failed current
      rw [status] at refused
      exact absurd (List.mem_singleton_self _) refused
  · rintro queued u ⟨row, here, -, rfl, -, built⟩
    rw [current] at here
    cases here
    have once : (s.setJob failed).setJob (failed.updated later .QUEUED none none) =
        s.setJob (failed.updated later .QUEUED none none) := Store.setJob_setJob rfl
    exact ⟨⟨built.trans once, id, nodeId, jobType⟩, rfl⟩

theorem rescheduled_redispatch {queued : JobDispatch ℕ} (rewrites : Rewrites s job queued t)
    (status : queued.status = .QUEUED) :
    Triple (fun u => u = t) (redispatch true queued) (fun _ u => Rescheduled s job u)
      (fun e _ => e.rollsBack) := by
  obtain ⟨rfl, id, nodeId, jobType⟩ := rewrites
  unfold redispatch
  refine .read ?_
  rintro u rfl
  cases found : findBestNode (s.setJob queued) queued.jobType with
  | none =>
      refine .ret ?_
      rintro v rfl
      exact .waits ⟨rfl, id, nodeId, jobType⟩ status
  | some bestNode =>
      have chosen : findBestNode s job.jobType = some bestNode := by
        rw [← jobType]
        exact found
      refine .bind ((ends_flushJob _).imp ?_) fun flushed => .given fun same => .given fun _ => ?_
      · rintro e v ⟨rfl, -⟩
        rfl
      · subst same
        refine .bind ((push_ends _ _).imp fun _ _ h => h.elim) fun _ => .ret ?_
        rintro v rfl
        have once : (s.setJob queued).setJob { queued with nodeId := bestNode.id } =
            s.setJob { queued with nodeId := bestNode.id } := Store.setJob_setJob rfl
        have available : (findBestNode s job.jobType).isSome := by
          rw [chosen]
          rfl
        have jobs := congrArg Store.jobs once
        exact .pushed { queued with nodeId := bestNode.id } available id status jobs rfl

omit [LinearOrder L] in
theorem unpushed_moveToDlq (now later : ℕ) (found : s.jobById job.id = some job) :
    Triple (fun t => t = s) (moveToDlq now later job errorMessage)
      (fun _ t => bindable errorMessage ∧ t.jobs = (s.setJob (job.archived now errorMessage)).jobs ∧
        t.queue = s.queue)
      (fun _ t => t = s) := by
  unfold moveToDlq
  refine .bind (ends_ensureFailedWith now errorMessage found) fun failed => ?_
  refine .given fun archivable => .given fun same => ?_
  subst same
  refine .bind (R := fun _ t => t.jobs = (s.setJob (job.archived now errorMessage)).jobs ∧
    t.queue = s.queue) (.write ?_) fun _ => .ret fun t h => ⟨(of_decide_eq_true archivable).2, h⟩
  rintro t rfl
  exact ⟨rfl, rfl⟩

/-- A retry is refused, or goes on with a message that can be stored. -/
theorem rescheduled_scheduleRetry (now later : ℕ) (distinct : s.Distinct)
    (found : s.jobById job.id = some job) :
    Triple (fun t => t = s) (scheduleRetry true now later job errorMessage)
      (fun _ t => Rescheduled s job t ∧ (job.status = .FAILED ∨ bindable errorMessage))
      (fun e t => t = s ∨ e.rollsBack) := by
  unfold scheduleRetry
  refine .ite (fun left => ?_) fun used => ?_
  · refine .bind ((rewrites_ensureFailed now distinct found).imp fun _ _ h => .inl h)
      fun failed => ?_
    refine .bind (R := fun queued u => (Rewrites s job queued u ∧ queued.status = .QUEUED) ∧
      (job.status = .FAILED ∨ bindable errorMessage)) ?_ fun queued => ?_
    · rintro t ⟨rewrites, status, readable⟩
      exact ((rewrites_queued later found rewrites status).imp fun _ _ h => .inr h).weaken
        (fun _ h => h) (fun _ _ h => ⟨h, readable⟩) t rfl
    · refine .bind (R := fun _ u => Rescheduled s job u ∧
        (job.status = .FAILED ∨ bindable errorMessage)) ?_ fun _ => .ret fun _ h => h
      rintro t ⟨⟨rewrites, status⟩, readable⟩
      exact ((rescheduled_redispatch rewrites status).imp fun _ _ h => .inr h).weaken
        (fun _ h => h) (fun _ _ h => ⟨h, readable⟩) t rfl
  · refine .bind ((unpushed_moveToDlq now later found).imp fun _ _ h => .inl h) fun entry => ?_
    refine .ret ?_
    rintro t ⟨readable, jobs, queue⟩
    exact ⟨.archived used (JobDispatch.archived_id job now errorMessage) jobs queue, .inr readable⟩

end Retry

theorem applied_dispatch (id : Uuid) (now : ℕ) (jobType payloadRef : String) :
    apply s (.dispatch true id now jobType payloadRef) = s ∨
      ∃ nodeId, id ∉ s.jobs.map JobDispatch.id ∧
        (apply s (.dispatch true id now jobType payloadRef)).jobs =
          s.jobs ++ [newJob id nodeId jobType payloadRef now] ∧
        (apply s (.dispatch true id now jobType payloadRef)).queue =
          s.queue ++ [(nodeId, ⟨id, jobType, payloadRef⟩)] := by
  have ends := push_dispatchJob (s := s) id now jobType payloadRef
  exact apply_cases (.dispatch true id now jobType payloadRef)
    (ends.imp fun _ _ h => .inl h).forget

theorem applied_retry (now later : ℕ) (jobId : Uuid) (errorMessage : String)
    (distinct : s.Distinct) :
    apply s (.retry true now later jobId errorMessage) = s ∨
      ∃ job, s.jobById jobId = some job ∧
        Rescheduled s job (apply s (.retry true now later jobId errorMessage)) ∧
        (job.status = .FAILED ∨ bindable errorMessage) := by
  have ends : Triple (fun t => t = s) (retryCurrent true now later jobId errorMessage)
      (fun _ t => t = s ∨ ∃ job, s.jobById jobId = some job ∧ Rescheduled s job t ∧
        (job.status = .FAILED ∨ bindable errorMessage)) (fun e t => t = s ∨ e.rollsBack) := by
    unfold retryCurrent
    refine .read ?_
    rintro t rfl
    cases found : t.jobById jobId with
    | none => exact .ret fun _ h => .inl h
    | some job =>
        obtain ⟨-, rfl⟩ := Store.jobById_eq_some found
        refine Triple.forget ((rescheduled_scheduleRetry now later distinct found).weaken
          (fun _ h => h) ?_)
        exact fun _ _ h => .inr ⟨job, rfl, h⟩
  rcases apply_cases (.retry true now later jobId errorMessage) ends with same | same | rescheduled
  · exact .inl same
  · exact .inl same
  · exact .inr rescheduled

theorem applied_cancel (now : ℕ) (jobId : Uuid) :
    apply s (.cancel now jobId) = s ∨
      ∃ row : JobDispatch ℕ, row.id = jobId ∧ apply s (.cancel now jobId) = s.setJob row := by
  have ends : Triple (fun t => t = s) (cancelJob now jobId)
      (fun _ t => ∃ row : JobDispatch ℕ, row.id = jobId ∧ t = s.setJob row)
      (fun e t => t = s ∨ e.rollsBack) := by
    refine ((ends_cancelJob now jobId).imp fun _ _ h => .inl h).weaken (fun _ h => h) ?_
    rintro cancelled t ⟨job, found, -, rfl, built⟩
    exact ⟨job.cancelled now, (Store.jobById_eq_some found).2, built⟩
  exact apply_cases (.cancel now jobId) ends.forget

end Operations

/-! ## What the lists keep -/

section Kept
variable {s t : Store ℕ L} {row : JobDispatch ℕ}

theorem Store.Queued.present (h : s.Queued) {jobId : Uuid} (queued : jobId ∈ s.queuedIds) :
    ∃ nodeId job, s.jobById jobId = some job ∧ job.movable nodeId := by
  obtain ⟨entry, member, rfl⟩ := List.mem_map.mp queued
  obtain ⟨job, inside, same, movable⟩ := h.agree.assigned entry member
  refine ⟨entry.1, job, ?_, movable⟩
  rw [← same]
  exact h.distinct.jobById inside

/-- A row that is rewritten must not leave its message behind. -/
theorem Store.Queued.setJob (h : s.Queued) (jobs : t.jobs = (s.setJob row).jobs)
    (queue : t.queue = s.queue)
    (keeps : ∀ entry ∈ s.queue, entry.2.jobId = row.id → row.movable entry.1) : t.Queued := by
  refine ⟨?_, fun entry member => ?_, ?_⟩
  · rw [Store.Distinct, DistinctKeys, jobs, Store.ids_setJob]
    exact h.distinct
  · rw [queue] at member
    obtain ⟨job, inside, same, movable⟩ := h.agree.assigned entry member
    rw [jobs]
    by_cases here : entry.2.jobId = row.id
    · have known : row.id ∈ s.jobs.map JobDispatch.id :=
        List.mem_map.mpr ⟨job, inside, same.trans here⟩
      exact ⟨row, Store.mem_setJob known, here.symm, keeps entry member here⟩
    · have other : ¬ job.id = row.id := fun hit => here (same.symm.trans hit)
      exact ⟨job, List.mem_map.mpr ⟨job, inside, if_neg other⟩, same, movable⟩
  · rw [Store.queuedIds, queue]
    exact h.agree.once

theorem Store.Queued.unqueued (h : s.Queued) (jobs : t.jobs = (s.setJob row).jobs)
    (queue : t.queue = s.queue) (absent : row.id ∉ s.queuedIds) : t.Queued := by
  refine h.setJob jobs queue fun entry member same => ?_
  rw [← same] at absent
  exact absurd (List.mem_map_of_mem member) absent

/-- A message is pushed for a job that had none. -/
theorem Store.Queued.push (h : s.Queued) (row : JobDispatch ℕ) {message : Message}
    (jobs : t.jobs = s.jobs)
    (queue : t.queue = s.queue ++ [(row.nodeId, message)]) (member : row ∈ s.jobs)
    (named : message.jobId = row.id) (waits : row.movable row.nodeId)
    (absent : row.id ∉ s.queuedIds) : t.Queued := by
  refine ⟨?_, fun entry inside => ?_, ?_⟩
  · rw [Store.Distinct, DistinctKeys, jobs]
    exact h.distinct
  · rw [queue] at inside
    rw [jobs]
    rcases List.mem_append.mp inside with old | new
    · exact h.agree.assigned entry old
    · obtain rfl := List.mem_singleton.mp new
      exact ⟨row, member, named.symm, waits⟩
  · rw [Store.queuedIds, queue, List.map_append, List.nodup_append]
    refine ⟨h.agree.once, List.nodup_singleton _, ?_⟩
    intro jobId old other new same
    rw [List.map_singleton, List.mem_singleton] at new
    rw [same, new, named] at old
    exact absent old

theorem Store.Queued.popped (h : s.Queued) (nodeId : Uuid) : (s.popped nodeId).Queued := by
  have fewer : (s.popped nodeId).queue.Sublist s.queue := List.eraseP_sublist
  refine ⟨h.distinct, fun entry member => ?_, ?_⟩
  · exact h.agree.assigned entry (fewer.subset member)
  · exact h.agree.once.sublist (fewer.map _)

/-- The jobs of the node are queued again, and stay with it. -/
theorem Store.Queued.redistributed (h : s.Queued) {nodeId : Uuid}
    (jobs : t.jobs = (s.redistributed nodeId).jobs) (queue : t.queue = s.queue) : t.Queued := by
  have ids : t.jobs.map JobDispatch.id = s.jobs.map JobDispatch.id := by
    rw [jobs]
    apply map_key
    intro job
    split <;> rfl
  refine ⟨?_, fun entry member => ?_, ?_⟩
  · rw [Store.Distinct, DistinctKeys, ids]
    exact h.distinct
  · rw [queue] at member
    obtain ⟨job, inside, same, movable⟩ := h.agree.assigned entry member
    rw [jobs]
    refine ⟨_, List.mem_map_of_mem inside, ?_, ?_⟩
    · split
      · exact same
      · exact same
    · split
      · exact JobDispatch.movable_requeued movable
      · exact movable
  · rw [Store.queuedIds, queue]
    exact h.agree.once

theorem Store.Queued.dispatched (h : s.Queued) {id nodeId : Uuid} {jobType payloadRef : String}
    {now : ℕ} (fresh : id ∉ s.jobs.map JobDispatch.id)
    (jobs : t.jobs = s.jobs ++ [newJob id nodeId jobType payloadRef now])
    (queue : t.queue = s.queue ++ [(nodeId, ⟨id, jobType, payloadRef⟩)]) : t.Queued := by
  have absent : id ∉ s.queuedIds := by
    intro queued
    obtain ⟨_, job, found, -⟩ := h.present queued
    obtain ⟨inside, rfl⟩ := Store.jobById_eq_some found
    exact fresh (List.mem_map_of_mem inside)
  have inserted : Store.Queued
      { s with jobs := s.jobs ++ [newJob id nodeId jobType payloadRef now] } := by
    refine ⟨h.distinct.append_singleton fresh, fun entry member => ?_, h.agree.once⟩
    obtain ⟨job, inside, waits⟩ := h.agree.assigned entry member
    exact ⟨job, List.mem_append_left _ inside, waits⟩
  refine inserted.push (newJob id nodeId jobType payloadRef now) jobs queue ?_ rfl ?_ absent
  · exact List.mem_append_right _ (List.mem_singleton_self _)
  · exact decide_eq_true ⟨rfl, .inr rfl⟩

section Steps
variable [LinearOrder L] {job : JobDispatch ℕ} {errorMessage : String}

/-- The message of the job has been taken: it may go to any node. -/
theorem Store.Queued.rescheduled (h : s.Queued) (found : s.jobById job.id = some job)
    (absent : job.id ∉ s.queuedIds) (rescheduled : Rescheduled s job t) : t.Queued := by
  cases rescheduled with
  | waits rewrites queued =>
      obtain ⟨rfl, same, -⟩ := rewrites
      exact h.unqueued rfl rfl (same ▸ absent)
  | pushed row available same queued jobs queue =>
      have absent' : row.id ∉ s.queuedIds := same ▸ absent
      have moved : (s.setJob row).Queued := h.unqueued rfl rfl absent'
      have member : row ∈ (s.setJob row).jobs := by
        apply Store.mem_setJob
        rw [same]
        exact List.mem_map_of_mem (Store.jobById_eq_some found).1
      exact moved.push row jobs queue member rfl (decide_eq_true ⟨rfl, .inl queued⟩) absent'
  | archived used same jobs queue => exact h.unqueued jobs queue (same ▸ absent)

/-- The message is still there: the job must stay where it is. -/
theorem Store.Queued.waits (h : s.Queued) (found : s.jobById job.id = some job)
    (leaves : s.leaves job.id errorMessage) (rescheduled : Rescheduled s job t)
    (queued : job.id ∈ s.queuedIds) (readable : job.status = .FAILED ∨ bindable errorMessage) :
    t.Queued := by
  obtain ⟨nodeId, job', found', movable⟩ := h.present queued
  rw [found] at found'
  cases found'
  have waiting := (of_decide_eq_true movable).2
  have readable' : bindable errorMessage = true := by
    rcases readable with failed | readable
    · rw [failed] at waiting
      rcases waiting with same | same <;> cases same
    · exact readable
  have stays : shouldRetry job = true ∧ (findBestNode s job.jobType).isNone = true := by
    simpa [Store.leaves, readable', found] using leaves
  cases rescheduled with
  | waits rewrites status =>
      rename_i row
      obtain ⟨rfl, same, node, -⟩ := rewrites
      refine h.setJob rfl rfl fun entry member here => ?_
      obtain ⟨other, inside, named, assigned⟩ := h.agree.assigned entry member
      have current := h.distinct.jobById inside
      rw [named, here, same, found] at current
      cases current
      exact decide_eq_true ⟨node.trans (of_decide_eq_true assigned).1, .inl status⟩
  | pushed row available =>
      rw [Option.isNone_iff_eq_none.mp stays.2] at available
      cases available
  | archived used => exact absurd stays.1 used

theorem Store.Queued.step {w w' : World ℕ L} {op : QueueStep} (h : w.store.Queued)
    (delivered : op.delivered w) (moved : op.step w = some w') : w'.store.Queued := by
  cases op with
  | dispatch id now jobType payloadRef =>
      obtain rfl := Option.some.inj moved
      rcases applied_dispatch (s := w.store) id now jobType payloadRef with
        same | ⟨nodeId, fresh, jobs, queue⟩
      · exact same.symm ▸ h
      · exact h.dispatched fresh jobs queue
  | retry now later jobId errorMessage =>
      obtain rfl := Option.some.inj moved
      rcases applied_retry now later jobId errorMessage h.distinct with
        same | ⟨job, found, rescheduled, readable⟩
      · exact same.symm ▸ h
      · obtain ⟨-, rfl⟩ := Store.jobById_eq_some found
        by_cases queued : job.id ∈ w.store.queuedIds
        · rcases of_decide_eq_true delivered with absent | leaves
          · exact absurd queued absent
          · exact h.waits found leaves rescheduled queued readable
        · exact h.rescheduled found queued rescheduled
  | redistribute nodeId =>
      obtain rfl := Option.some.inj moved
      exact h.redistributed rfl rfl
  | failure now nodeId =>
      obtain rfl := Option.some.inj moved
      simp only [failureRecorded, recordFailure_run]
      by_cases trips : Trips w.breaker nodeId
      · rw [if_pos trips]
        exact h.redistributed rfl rfl
      · rw [if_neg trips]
        exact h
  | cancel now jobId =>
      obtain rfl := Option.some.inj moved
      rcases applied_cancel (s := w.store) now jobId with same | ⟨row, rfl, built⟩
      · exact same.symm ▸ h
      · have absent : row.id ∉ w.store.queuedIds := of_decide_eq_true delivered
        have cancelled : (w.store.setJob row).Queued := h.unqueued rfl rfl absent
        change (apply w.store _).Queued
        rw [built]
        exact cancelled
  | pop nodeId =>
      obtain rfl := Option.some.inj moved
      exact h.popped nodeId

/-- From tables without jobs on. -/
theorem queuesAgree_of_run {w w' : World ℕ L} {ops : List QueueStep}
    (run : Run QueueStep.step (fun w op => op.delivered w) w ops w') (jobs : w.store.jobs = [])
    (queue : w.store.queue = []) : w'.store.QueuesAgree := by
  have start : w.store.Queued := by
    refine ⟨Store.distinct_of_empty jobs, fun entry member => ?_, ?_⟩
    · rw [queue] at member
      exact absurd member List.not_mem_nil
    · rw [Store.queuedIds, queue]
      exact List.nodup_nil
  have queued := run.invariant (I := fun w => w.store.Queued)
    (fun _ _ _ h delivered moved => h.step delivered moved) start
  exact queued.agree

end Steps
end Kept

/-! ## A job that is cancelled in its list -/

/-- The first message is taken before the job is retried, the second before it is cancelled. -/
theorem queuesAgree_of_run_delivered : ∃ w : World ℕ ℕ,
    Run QueueStep.step (fun w op => op.delivered w) ⟨oneNode [], .new⟩
      [.dispatch 7 1 "render" "s3://scene", .redistribute 3, .pop 3, .retry 2 3 7 "out of memory",
        .failure 4 3, .pop 3, .cancel 5 7] w ∧ w.store.QueuesAgree := by
  have accepted : (exec QueueStep.step (fun w op => op.delivered w)
      (⟨oneNode [], .new⟩ : World ℕ ℕ)
      [.dispatch 7 1 "render" "s3://scene", .redistribute 3, .pop 3, .retry 2 3 7 "out of memory",
        .failure 4 3, .pop 3, .cancel 5 7]).isSome := by decide +kernel
  obtain ⟨w, run⟩ := run_of_isSome accepted
  exact ⟨w, run, queuesAgree_of_run run rfl rfl⟩

theorem cancelled_in_queue : ¬ ∀ (ops : List QueueStep) (w : World ℕ ℕ),
    Run QueueStep.step Always ⟨oneNode [], .new⟩ ops w → w.store.QueuesAgree := by
  intro claim
  have left : (exec QueueStep.step Always (⟨oneNode [], .new⟩ : World ℕ ℕ)
      [.dispatch 7 1 "render" "s3://scene", .cancel 2 7]).any fun w =>
      w.store.queue = [(3, ⟨7, "render", "s3://scene"⟩)] ∧
        w.store.jobs.map JobDispatch.status = [.FAILED] := by
    decide +kernel
  obtain ⟨w, run, found⟩ := run_of_any left
  obtain ⟨queue, statuses⟩ := of_decide_eq_true found
  have member : (3, ⟨7, "render", "s3://scene"⟩) ∈ w.store.queue := by
    rw [queue]
    exact List.mem_singleton_self _
  obtain ⟨job, inside, -, movable⟩ := (claim _ w run).assigned _ member
  have status := List.mem_map_of_mem (f := JobDispatch.status) inside
  rw [statuses, List.mem_singleton] at status
  have waiting := (of_decide_eq_true movable).2
  rw [status] at waiting
  rcases waiting with same | same <;> cases same

end RenderTrust.Scheduler
