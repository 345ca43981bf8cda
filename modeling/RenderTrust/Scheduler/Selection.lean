import RenderTrust.Lib.Least
import RenderTrust.Scheduler.Nodes
import RenderTrust.Scheduler.Queues

/-!
# Which node gets a job

The sorted query and the scan over its rows come to the first of the least loaded nodes that
suit. A new job goes there, and so does one that is tried again, also where it has just failed.
-/
namespace RenderTrust.Scheduler
open Lib Lib.Hoare Lib.Keyed
open Ledger (bindable)

variable {L : Type}

/-- The capabilities are a list that has the job type. -/
def EdgeNode.Offers (node : EdgeNode ℕ L) (jobType : String) : Prop :=
  ∃ items, node.capabilities = .arr items ∧ .str jobType ∈ items

structure EdgeNode.Suits (node : EdgeNode ℕ L) (jobType : String) : Prop where
  healthy : node.status = .HEALTHY
  offers : node.Offers jobType

theorem EdgeNode.suits_iff {node : EdgeNode ℕ L} {jobType : String} :
    (decide (node.status = .HEALTHY) && node.canRun jobType) = true ↔ node.Suits jobType := by
  rw [Bool.and_eq_true, decide_eq_true_eq, canRun, Json.listHas_iff]
  exact ⟨fun h => ⟨h.1, h.2⟩, fun h => ⟨h.healthy, h.offers⟩⟩

section Selection
variable [LinearOrder L] {s : Store ℕ L} {jobType : String} {node : EdgeNode ℕ L}

theorem findBestNode_eq (s : Store ℕ L) (jobType : String) :
    findBestNode s jobType = firstLeast EdgeNode.currentLoad
      (fun node => decide (node.status = .HEALTHY) && node.canRun jobType) s.nodes := by
  rw [findBestNode, find?_orderBy, firstLeast_filter]

theorem findBestNode_eq_none :
    findBestNode s jobType = none ↔ ∀ node ∈ s.nodes, ¬ node.Suits jobType := by
  rw [findBestNode_eq, firstLeast_eq_none]
  simp only [EdgeNode.suits_iff]

theorem findBestNode_least (found : findBestNode s jobType = some node) :
    node ∈ s.nodes ∧ node.Suits jobType ∧
      ∀ other ∈ s.nodes, other.Suits jobType → node.currentLoad ≤ other.currentLoad := by
  rw [findBestNode_eq] at found
  have least := firstLeast_least found
  simp only [EdgeNode.suits_iff] at least
  exact least

theorem selected_dispatchJob (redis : Bool) (id : Uuid) (now : ℕ) (jobType payloadRef : String) :
    Triple (fun t => t = s) (dispatchJob redis id now jobType payloadRef)
      (fun _ t => ∃ node, findBestNode s jobType = some node ∧
        t.jobs = s.jobs ++ [newJob id node.id jobType payloadRef now])
      (fun _ t => t = s) := by
  unfold dispatchJob
  refine .read ?_
  rintro t rfl
  cases found : findBestNode t jobType with
  | none => exact .raise fun _ h => h
  | some node =>
      refine .bind ((ends_insertJob _).imp fun _ _ h => h.2) fun _ => .given fun _ => ?_
      refine .bind ((ends_pushToQueue _ _ _).imp fun _ _ h => h.elim) fun _ => .ret ?_
      intro u pushed
      exact ⟨node, rfl, pushed.1⟩

theorem findBestNode_argmin (s : Store ℕ L) (jobType : String) :
    (findBestNode s jobType = none ↔ ∀ node ∈ s.nodes, ¬ node.Suits jobType) ∧
    (∀ node, findBestNode s jobType = some node → node ∈ s.nodes ∧ node.Suits jobType ∧
      ∀ other ∈ s.nodes, other.Suits jobType → node.currentLoad ≤ other.currentLoad) ∧
    ∀ (redis : Bool) (id : Uuid) (now : ℕ) (payloadRef : String),
      Triple (fun t => t = s) (dispatchJob redis id now jobType payloadRef)
        (fun _ t => ∀ job ∈ t.jobs, job ∉ s.jobs →
          (∃ node ∈ s.nodes, node.id = job.nodeId ∧ node.Suits job.jobType) ∧
          (s.DistinctNodes → ∀ node ∈ s.nodes, node.id = job.nodeId → node.Suits job.jobType))
        (fun _ t => t = s) := by
  refine ⟨findBestNode_eq_none, fun node => findBestNode_least, ?_⟩
  intro redis id now payloadRef
  refine (selected_dispatchJob redis id now jobType payloadRef).weaken (fun _ h => h) ?_
  rintro _ t ⟨best, found, jobs⟩ job there new
  rw [jobs] at there
  rcases List.mem_append.mp there with old | created
  · exact absurd old new
  · obtain rfl := List.mem_singleton.mp created
    obtain ⟨member, suits, -⟩ := findBestNode_least found
    refine ⟨⟨best, member, rfl, suits⟩, ?_⟩
    intro distinct node inside same
    have one : node = best := List.inj_on_of_nodup_map distinct inside member same
    rw [one]
    exact suits

end Selection

/-! ## A job that is tried again -/

/-- Of the nodes that suit, the one with the identity is the first of the least loaded. -/
def Store.StandsFirst [LinearOrder L] (s : Store ℕ L) (nodeId : Uuid) (jobType : String) : Prop :=
  ∃ pre node post, s.nodes = pre ++ node :: post ∧ node.id = nodeId ∧ node.Suits jobType ∧
    (∀ other ∈ pre, other.Suits jobType → node.currentLoad < other.currentLoad) ∧
    ∀ other ∈ post, other.Suits jobType → node.currentLoad ≤ other.currentLoad

/-- The job waits at another node that suits, and its message is in the list of that node. -/
structure Redirected (s t : Store ℕ L) (job row : JobDispatch ℕ) : Prop where
  current : t.jobById job.id = some row
  queued : row.status = .QUEUED
  moved : ∃ node ∈ s.nodes, node.Suits job.jobType ∧ node.id ≠ job.nodeId ∧ row.nodeId = node.id
  pushed : t.queue = s.queue ++ [(row.nodeId, ⟨job.id, job.jobType, job.payloadRef⟩)]

/-- The job as its retry leaves it, before it is given to a node. -/
def JobDispatch.retried (job : JobDispatch ℕ) (now later : ℕ) (errorMessage : String) :
    JobDispatch ℕ :=
  (if job.status ≠ .FAILED then job.updated now .FAILED none (some errorMessage) else job).updated
    later .QUEUED none none

section Retries
variable {s : Store ℕ L} {job : JobDispatch ℕ} {now later : ℕ} {errorMessage : String}

theorem standsFirst_iff [LinearOrder L] {nodeId : Uuid} {jobType : String} :
    s.StandsFirst nodeId jobType ↔
      ∃ node, findBestNode s jobType = some node ∧ node.id = nodeId := by
  simp only [findBestNode_eq, firstLeast_eq_some, EdgeNode.suits_iff]
  constructor
  · rintro ⟨pre, node, post, split, same, suits, worse, noBetter⟩
    exact ⟨node, ⟨pre, post, split, suits, worse, noBetter⟩, same⟩
  · rintro ⟨node, ⟨pre, post, split, suits, worse, noBetter⟩, same⟩
    exact ⟨pre, node, post, split, same, suits, worse, noBetter⟩

theorem storable_failed (storable : job.storable) (readable : bindable errorMessage) :
    (job.updated now .FAILED none (some errorMessage)).storable := by
  obtain ⟨type, type', payload, payload', result, -, count⟩ := of_decide_eq_true storable
  have text : (some errorMessage).all bindable := by rwa [Option.all_some]
  have kept : (job.updated now .FAILED none (some errorMessage)).retryCount = job.retryCount := by
    simp [JobDispatch.updated]
  exact decide_eq_true ⟨type, type', payload, payload', result, text, kept ▸ count⟩

theorem run_flushJob (storable : job.storable) :
    (flushJob job).run s = .ok job (s.setJob job) := by
  unfold flushJob
  rw [if_pos storable]
  rfl

theorem run_updateJobStatus {status : JobStatus} {resultRef message : Option String}
    (found : s.jobById job.id = some job) (allowed : status ∈ VALID_TRANSITIONS job.status)
    (storable : (job.updated now status resultRef message).storable) :
    (updateJobStatus now job.id status resultRef message).run s =
      .ok (job.updated now status resultRef message)
        (s.setJob (job.updated now status resultRef message)) := by
  unfold updateJobStatus
  rw [EStateM.run_bind, EStateM.run_get]
  simp only [found]
  rw [if_neg (not_not.mpr allowed)]
  exact run_flushJob storable

theorem retried_eq (job : JobDispatch ℕ) (now later : ℕ) (errorMessage : String) :
    (job.retried now later errorMessage).id = job.id ∧
      (job.retried now later errorMessage).jobType = job.jobType ∧
      (job.retried now later errorMessage).payloadRef = job.payloadRef ∧
      (job.retried now later errorMessage).status = .QUEUED := by
  unfold JobDispatch.retried
  split
  · exact ⟨rfl, rfl, rfl, rfl⟩
  · exact ⟨rfl, rfl, rfl, rfl⟩

/-- Before it is queued, a job that can be retried is FAILED, with its retries left. -/
theorem run_ensureFailed (now later : ℕ) (distinct : s.Distinct)
    (found : s.jobById job.id = some job) (storable : job.storable)
    (retriable : job.retriable errorMessage) :
    ∃ failed : JobDispatch ℕ,
      failed.updated later .QUEUED none none = job.retried now later errorMessage ∧
      failed.id = job.id ∧ failed.status = .FAILED ∧ failed.storable ∧ shouldRetry failed ∧
      (ensureFailed now job errorMessage).run s = .ok failed (s.setJob failed) := by
  obtain ⟨left, unfinished, readable⟩ := of_decide_eq_true retriable
  unfold JobDispatch.retried ensureFailed
  by_cases other : job.status ≠ .FAILED
  · have allowed : JobStatus.FAILED ∈ VALID_TRANSITIONS job.status := by
      cases status : job.status with
      | COMPLETED => exact absurd status unfinished
      | FAILED => exact absurd status other
      | QUEUED => decide
      | DISPATCHED => decide
      | RUNNING => decide
    have failed : (job.updated now .FAILED none (some errorMessage)).storable :=
      storable_failed storable (readable.resolve_left other)
    rw [if_pos other, if_pos other, run_updateJobStatus found allowed failed]
    exact ⟨_, rfl, rfl, rfl, failed, left, rfl⟩
  · rw [if_neg other, if_neg other]
    refine ⟨job, rfl, rfl, not_not.mp other, storable, left, ?_⟩
    rw [distinct.setJob_self found]
    rfl

theorem run_redispatch [LinearOrder L] (redis : Bool) {best : EdgeNode ℕ L}
    (storable : job.storable) (found : findBestNode s job.jobType = some best) :
    ∃ t : Store ℕ L, (redispatch redis job).run s = .ok { job with nodeId := best.id } t ∧
      t.jobs = (s.setJob { job with nodeId := best.id }).jobs ∧
      t.queue = s.queue ++
        if redis then [(best.id, ⟨job.id, job.jobType, job.payloadRef⟩)] else [] := by
  have flushed : (flushJob { job with nodeId := best.id }).run s = .ok _ _ := run_flushJob storable
  unfold redispatch
  rw [EStateM.run_bind, EStateM.run_get]
  simp only [found]
  rw [run_bind_ok flushed]
  cases redis with
  | true => exact ⟨_, rfl, rfl, rfl⟩
  | false => exact ⟨_, rfl, rfl, (List.append_nil _).symm⟩

theorem run_scheduleRetry [LinearOrder L] (redis : Bool) (now later : ℕ) {best : EdgeNode ℕ L}
    (distinct : s.Distinct) (found : s.jobById job.id = some job) (storable : job.storable)
    (retriable : job.retriable errorMessage) (chosen : findBestNode s job.jobType = some best) :
    ∃ t : Store ℕ L, (scheduleRetry redis now later job errorMessage).run s =
        .ok (.inl { job.retried now later errorMessage with nodeId := best.id }) t ∧
      t.jobs = (s.setJob { job.retried now later errorMessage with nodeId := best.id }).jobs ∧
      t.queue = s.queue ++
        if redis then [(best.id, ⟨job.id, job.jobType, job.payloadRef⟩)] else [] := by
  obtain ⟨failed, same, sameId, status, storable, again, failing⟩ :=
    run_ensureFailed now later distinct found storable retriable
  have allowed : JobStatus.QUEUED ∈ VALID_TRANSITIONS failed.status := by
    rw [status]
    decide
  have storable : (failed.updated later .QUEUED none none).storable :=
    storable_requeued storable again
  have queuing := run_updateJobStatus (Store.jobById_setJob found sameId) allowed storable
  have once : (s.setJob failed).setJob (failed.updated later .QUEUED none none) =
      s.setJob (failed.updated later .QUEUED none none) := Store.setJob_setJob rfl
  rw [once, same] at queuing
  rw [same] at storable
  obtain ⟨id, jobType, payloadRef, -⟩ := retried_eq job now later errorMessage
  have here : findBestNode (s.setJob (job.retried now later errorMessage))
      (job.retried now later errorMessage).jobType = some best := by
    rw [jobType]
    exact chosen
  obtain ⟨t, pushing, jobs, queue⟩ := run_redispatch redis storable here
  rw [id, jobType, payloadRef] at queue
  refine ⟨t, ?_, jobs.trans ?_, queue⟩
  · unfold scheduleRetry
    rw [if_pos (of_decide_eq_true retriable).1, run_bind_ok failing, run_bind_ok queuing,
      run_bind_ok pushing]
    rfl
  · exact congrArg Store.jobs (Store.setJob_setJob rfl)

/-- A retry that comes to an end was of a job that can be retried. -/
theorem retriable_of_scheduleRetry [LinearOrder L] {redis : Bool}
    (found : s.jobById job.id = some job) (left : shouldRetry job) :
    Triple (fun t => t = s) (scheduleRetry redis now later job errorMessage)
      (fun _ _ => job.retriable errorMessage) (fun _ _ => True) := by
  have failing : Triple (fun t => t = s) (ensureFailed now job errorMessage)
      (fun _ _ => job.retriable errorMessage) (fun _ _ => True) := by
    unfold ensureFailed
    refine .ite (fun other => ?_) fun already => .ret fun t _ => ?_
    · refine ((ends_updateJobStatus now job.id .FAILED none (some errorMessage)).imp
        fun _ _ _ => trivial).weaken (fun _ h => h) ?_
      rintro failed t ⟨row, current, allowed, rfl, storable, -⟩
      rw [found] at current
      cases current
      exact decide_eq_true
        ⟨left, unfinished_of_allowed allowed, .inr (bindable_of_storable storable rfl)⟩
    · have failed := not_not.mp already
      have unfinished : job.status ≠ .COMPLETED := by
        rw [failed]
        decide
      exact decide_eq_true ⟨left, unfinished, .inl failed⟩
  have onward : ∀ {α : Type} (x : SchedulerM ℕ L α),
      Triple (fun _ => job.retriable errorMessage) x (fun _ _ => job.retriable errorMessage)
        (fun _ _ => True) := by
    intro α x t holds
    cases x.run t with
    | ok a u => exact holds
    | error e u => exact trivial
  unfold scheduleRetry
  refine .ite (fun _ => ?_) fun used => absurd left used
  exact .bind failing fun _ => onward _

/-- A retry goes to another node that can take it exactly when Redis takes the message, the job
can be retried, and its node is not the one that is chosen first. -/
theorem redirected_iff [LinearOrder L] {redis : Bool} (distinct : s.Distinct)
    (member : job ∈ s.jobs) (storable : job.storable) (left : shouldRetry job)
    (available : ∃ node ∈ s.nodes, node.Suits job.jobType ∧ node.id ≠ job.nodeId) :
    (∃ row t, (scheduleRetry redis now later job errorMessage).run s = .ok (.inl row) t ∧
        Redirected s t job row) ↔
      redis ∧ job.retriable errorMessage ∧ ¬ s.StandsFirst job.nodeId job.jobType := by
  have found := distinct.jobById member
  obtain ⟨best, chosen⟩ : ∃ best, findBestNode s job.jobType = some best := by
    apply Option.ne_none_iff_exists'.mp
    intro none
    obtain ⟨node, inside, suits, -⟩ := available
    exact findBestNode_eq_none.mp none node inside suits
  obtain ⟨inside, suits, -⟩ := findBestNode_least chosen
  constructor
  · rintro ⟨row, t, ran, redirected⟩
    have retriable := (retriable_of_scheduleRetry found left).ok rfl ran
    obtain ⟨t', ran', -, queue⟩ := run_scheduleRetry redis now later distinct found storable
      retriable chosen
    rw [ran] at ran'
    obtain ⟨same, rfl⟩ := EStateM.Result.ok.inj ran'
    obtain rfl := Sum.inl.inj same
    refine ⟨?_, retriable, ?_⟩
    · have pushed := redirected.pushed
      rw [queue] at pushed
      have one := List.append_cancel_left pushed
      cases redis with
      | true => rfl
      | false => cases one
    · intro first
      obtain ⟨node, again, same⟩ := standsFirst_iff.mp first
      rw [chosen] at again
      obtain rfl := Option.some.inj again
      obtain ⟨other, -, -, apart, moved⟩ := redirected.moved
      exact apart (moved.symm.trans same)
  · rintro ⟨connected, retriable, notFirst⟩
    obtain ⟨t, ran, jobs, queue⟩ := run_scheduleRetry redis now later distinct found storable
      retriable chosen
    obtain ⟨id, -, -, queued⟩ := retried_eq job now later errorMessage
    rw [if_pos connected] at queue
    refine ⟨_, t, ran, ?_, queued, ?_, queue⟩
    · have kept := @Store.jobById_setJob L s job
        { job.retried now later errorMessage with nodeId := best.id } found id
      unfold Store.jobById at kept ⊢
      rw [jobs, ← id]
      exact kept
    · refine ⟨best, inside, suits, ?_, rfl⟩
      intro same
      exact notFirst (standsFirst_iff.mpr ⟨best, chosen, same⟩)

end Retries

/-- A job that failed at node 3, which shares its type with node 4. -/
def sharedType (first second : ℕ) : Store ℕ ℕ where
  nodes :=
    [⟨3, "ed25519:3", "first", .arr [.str "render"], .HEALTHY, none, first⟩,
     ⟨4, "ed25519:4", "second", .arr [.str "render"], .HEALTHY, none, second⟩]
  jobs := [newJob 7 3 "render" "s3://scene" 1]
  deadLetters := []
  queue := []

theorem sharedType_available (first second : ℕ) :
    ∃ node ∈ (sharedType first second).nodes, node.Suits "render" ∧ node.id ≠ 3 :=
  ⟨_, List.mem_cons_of_mem _ List.mem_cons_self, ⟨rfl, _, rfl, List.mem_cons_self⟩,
    show (4 : Uuid) ≠ 3 by decide +kernel⟩

theorem redirected_sharedType : ∃ row t,
    (scheduleRetry true 2 3 (newJob 7 3 "render" "s3://scene" 1) "out of memory").run
        (sharedType 2 1) = .ok (.inl row) t ∧
      Redirected (sharedType 2 1) t (newJob 7 3 "render" "s3://scene" 1) row := by
  have distinct : (sharedType 2 1).Distinct := List.nodup_singleton _
  apply (redirected_iff distinct List.mem_cons_self (by decide +kernel) (by decide +kernel)
    (sharedType_available 2 1)).mpr
  refine ⟨rfl, by decide +kernel, ?_⟩
  intro first
  obtain ⟨node, chosen, same⟩ := standsFirst_iff.mp first
  have second : (findBestNode (sharedType 2 1) "render").map EdgeNode.id = some 4 := by
    decide +kernel
  change findBestNode (sharedType 2 1) "render" = some node at chosen
  rw [chosen, Option.map_some, same] at second
  exact absurd second (by decide +kernel)

/-- Node 3 has the least load, and gets the job that has just failed there again. -/
theorem not_redirected : ¬ ∀ (s : Store ℕ ℕ) (job : JobDispatch ℕ) (now later : ℕ)
    (errorMessage : String), s.Distinct → job ∈ s.jobs → job.storable →
      job.retriable errorMessage →
      (∃ node ∈ s.nodes, node.Suits job.jobType ∧ node.id ≠ job.nodeId) →
        ∃ row t, (scheduleRetry true now later job errorMessage).run s = .ok (.inl row) t ∧
          Redirected s t job row := by
  intro claim
  obtain ⟨row, t, ran, redirected⟩ := claim (sharedType 0 1)
    (newJob 7 3 "render" "s3://scene" 1) 2 3 "out of memory" (List.nodup_singleton _)
    List.mem_cons_self (by decide +kernel) (by decide +kernel) (sharedType_available 0 1)
  have again : Ends ((scheduleRetry true 2 3 (newJob 7 3 "render" "s3://scene" 1)
      "out of memory").run (sharedType 0 1))
      (fun a _ => a.elim (fun row => decide (row.nodeId = 3)) (fun _ => false))
      (fun _ _ => False) := by
    decide +kernel
  rw [ran] at again
  obtain ⟨node, -, -, apart, moved⟩ := redirected.moved
  exact apart (moved.symm.trans (of_decide_eq_true again))

end RenderTrust.Scheduler
