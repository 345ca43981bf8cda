import RenderTrust.Scheduler.Writes

/-!
# The flushes of a call

Every flush of every call is one of the writes: along the stages of a retry, and through
`serve` for the calls of all services.
-/
namespace RenderTrust.Scheduler
open Lib Lib.Hoare Lib.Keyed Lib.Stages

variable {L : Type}

section Calls
variable {before : World ℕ L} {now : ℕ} {call : Call L} {s : Store ℕ L} {job : JobDispatch ℕ}

theorem Flush.setJob {u v : Store ℕ L} (distinct : u.Distinct) {job job' : JobDispatch ℕ}
    (found : u.jobById job.id = some job) (change : Change before now call job job')
    (jobs : v.jobs = (u.setJob job').jobs) (deadLetters : v.deadLetters = u.deadLetters) :
    Flush before now call u v where
  rows := Flush.rows_setJob distinct found change jobs
  deadLetters := .inl deadLetters

theorem flush_moveToDlq {later : ℕ} {errorMessage : String}
    (archives : Archives call job later errorMessage) (current : before.store = s)
    (distinct : s.Distinct) (found : s.jobById job.id = some job) :
    Triple (fun t => t = s) (moveToDlq now later job errorMessage)
      (fun entry t => Flush before now call s t ∧ job.archivable errorMessage ∧
        entry = job.deadLetter later errorMessage ∧ t.deadLetters = s.deadLetters ++ [entry])
      (fun _ t => t = s) := by
  refine (ends_moveToDlq now later errorMessage found).weaken (fun _ h => h) ?_
  rintro entry t ⟨archivable, built, jobs, deadLetters⟩
  have unfinished := (of_decide_eq_true archivable).1
  refine ⟨⟨Flush.rows_setJob distinct found (.archived archives unfinished) jobs, ?_⟩,
    archivable, built, deadLetters⟩
  refine .inr ⟨job, entry, later, errorMessage, deadLetters, archives, current ▸ found, unfinished,
    ?_, built⟩
  rw [jobs]
  refine Store.mem_setJob ?_
  rw [JobDispatch.archived_id]
  exact List.mem_map_of_mem (Store.jobById_eq_some found).1

theorem flush_dispatchJob [LinearOrder L] {redis : Bool} {id : Uuid} {jobType payloadRef : String}
    (called : call = .job (.dispatch redis id jobType payloadRef)) :
    Triple (fun t => t = s) (dispatchJob redis id now jobType payloadRef)
      (fun _ t => Flush before now call s t) (fun _ t => t = s) := by
  refine (ends_dispatchJob redis id now jobType payloadRef).weaken (fun _ h => h) ?_
  rintro job t ⟨nodeId, rfl, absent, jobs, deadLetters⟩
  have rows : Rewritten (Change before now call) (Fresh now call s) s.jobs
      (s.jobs ++ [newJob id nodeId jobType payloadRef now]) :=
    .append (fun job => .same job) (.dispatched called absent)
  exact ⟨jobs ▸ rows, .inl deadLetters⟩

theorem flush_updateJobStatus {jobId : Uuid} {status : JobStatus}
    {resultRef errorMessage : Option String}
    (called : call = .job (.update jobId status resultRef errorMessage))
    (current : before.store = s)
    (distinct : s.Distinct) :
    Triple (fun t => t = s) (updateJobStatus now jobId status resultRef errorMessage)
      (fun _ t => Flush before now call s t) (fun _ t => t = s) := by
  refine ((ends_updateJobStatus now jobId status resultRef errorMessage).imp
    fun _ _ h => h.1).weaken (fun _ h => h) ?_
  rintro updated t ⟨job, found, allowed, rfl, -, rfl⟩
  obtain rfl := (Store.jobById_eq_some found).2
  exact .setJob distinct found (.updated called (current ▸ found) allowed) rfl rfl

theorem flush_cancelJob {jobId : Uuid} (called : call = .job (.cancel jobId))
    (distinct : s.Distinct) :
    Triple (fun t => t = s) (cancelJob now jobId) (fun _ t => Flush before now call s t)
      (fun _ t => t = s) := by
  refine (ends_cancelJob now jobId).weaken (fun _ h => h) ?_
  rintro cancelled t ⟨job, found, waiting, rfl, rfl⟩
  obtain rfl := (Store.jobById_eq_some found).2
  exact .setJob distinct found (.cancelled called waiting) rfl rfl

theorem flush_redistributed {nodeId : Uuid} {t : Store ℕ L}
    (redistributes : Redistributes before call nodeId) (current : before.store.jobs = s.jobs)
    (jobs : t.jobs = (s.redistributed nodeId).jobs) (deadLetters : t.deadLetters = s.deadLetters) :
    Flush before now call s t where
  rows := by
    change Rewritten (Change before now call) (Fresh now call s) s.jobs t.jobs
    rw [jobs]
    refine .map (fun job member => ?_) .none
    split
    · rename_i movable
      exact .redistributed redistributes (current ▸ member) movable
    · exact .same job
  deadLetters := .inl deadLetters

section Retry
variable {redis : Bool} {later : ℕ} {errorMessage : String}

theorem flush_ensureFailed (called : call = .job (.retry redis later job.id errorMessage))
    (current : before.store = s) (distinct : s.Distinct) (found : s.jobById job.id = some job)
    (left : shouldRetry job) :
    Triple (fun t => t = s) (ensureFailed now job errorMessage)
      (fun failed t => Flush before now call s t ∧ Underway s job errorMessage .FAILED failed t)
      (fun e t => t = s ∧ (t = s ∨ e = .dataError)) := by
  unfold ensureFailed
  refine .ite (fun other => ?_) (fun already => .ret ?_)
  · refine ((ends_updateJobStatus now job.id .FAILED none (some errorMessage)).imp
      fun _ _ h => ⟨h.1, .inl h.1⟩).weaken (fun _ h => h) ?_
    rintro failed t ⟨row, inside, allowed, rfl, storable, rfl⟩
    rw [found] at inside
    cases inside
    have retriable : job.retriable errorMessage := decide_eq_true
      ⟨left, unfinished_of_allowed allowed, .inr (bindable_of_storable storable rfl)⟩
    have retries : Retries before.store call job.id later errorMessage :=
      ⟨⟨redis, called⟩, job, current ▸ found, retriable⟩
    have flush : Flush before now call s
        (s.setJob (job.updated now .FAILED none (some errorMessage))) :=
      .setJob distinct found (.failed retries allowed) rfl rfl
    refine ⟨flush, flush.distinct distinct, ?_, rfl, rfl, fun _ => left, retriable, rfl⟩
    exact Store.jobById_setJob found rfl
  · rintro t rfl
    have failed := not_not.mp already
    have unfinished : job.status ≠ .COMPLETED := by
      rw [failed]
      decide
    have retriable : job.retriable errorMessage := decide_eq_true ⟨left, unfinished, .inl failed⟩
    exact ⟨.keep rfl rfl, distinct, found, rfl, failed, fun _ => left, retriable, rfl⟩

theorem flush_requeue {failed : JobDispatch ℕ} {u : Store ℕ L}
    (called : call = .job (.retry redis later job.id errorMessage)) (current : before.store = s)
    (found : s.jobById job.id = some job)
    (underway : Underway s job errorMessage .FAILED failed u) :
    Triple (fun t => t = u) (updateJobStatus later failed.id .QUEUED none none)
      (fun queued t => Flush before now call u t ∧ Underway s job errorMessage .QUEUED queued t)
      (fun e t => t = u ∧ (t = s ∨ e = .dataError)) := by
  refine ((ends_updateJobStatus later failed.id .QUEUED none none).imp ?_).weaken (fun _ h => h) ?_
  · rintro e t ⟨same, refused | refused⟩
    · exact ⟨same, .inr refused⟩
    · have allowed := refused failed underway.current
      rw [underway.status] at allowed
      exact absurd (List.mem_singleton_self JobStatus.QUEUED) allowed
  · rintro queued t ⟨row, inside, -, rfl, -, rfl⟩
    rw [underway.current] at inside
    cases inside
    have retries : Retries before.store call failed.id later errorMessage := by
      rw [underway.id]
      exact ⟨⟨redis, called⟩, job, current ▸ found, underway.retriable⟩
    have flush : Flush before now call u (u.setJob (failed.updated later .QUEUED none none)) :=
      .setJob underway.distinct underway.current
        (.requeued retries (underway.left rfl) underway.status) rfl rfl
    refine ⟨flush, flush.distinct underway.distinct, ?_, underway.id, rfl, ?_,
      underway.retriable, underway.deadLetters⟩
    · exact Store.jobById_setJob underway.current rfl
    · rintro ⟨⟩

theorem flush_redispatch [LinearOrder L] {queued : JobDispatch ℕ} {u : Store ℕ L}
    (called : call = .job (.retry redis later job.id errorMessage))
    (current : before.store = s) (found : s.jobById job.id = some job)
    (underway : Underway s job errorMessage .QUEUED queued u) :
    Triple (fun t => t = u) (redispatch redis queued)
      (fun _ t => Flush before now call u t ∧ shouldRetry job ∧ t.deadLetters = s.deadLetters)
      (fun e t => t = u ∧ (t = s ∨ e = .dataError)) := by
  have left := (of_decide_eq_true underway.retriable).1
  unfold redispatch
  refine .read ?_
  rintro t rfl
  cases findBestNode t queued.jobType with
  | none =>
      refine .ret ?_
      rintro u rfl
      exact ⟨.keep rfl rfl, left, underway.deadLetters⟩
  | some bestNode =>
      refine .bind ((ends_flushJob _).imp fun _ _ h => ⟨h.2, .inr h.1⟩) fun flushed =>
        .given fun same => .given fun _ => ?_
      subst same
      refine .bind ((ends_pushToQueue _ _ _).imp fun _ _ h => h.elim) fun _ => .ret ?_
      rintro u ⟨jobs, deadLetters⟩
      have retries : Retries before.store call queued.id later errorMessage := by
        rw [underway.id]
        exact ⟨⟨redis, called⟩, job, current ▸ found, underway.retriable⟩
      refine ⟨?_, left, deadLetters.trans underway.deadLetters⟩
      exact .setJob underway.distinct underway.current (.reassigned retries underway.status) jobs
        deadLetters

end Retry

/-- The flushes of a call from `s`, one after another. -/
abbrev Flushes (before : World ℕ L) (now : ℕ) (call : Call L) (s : Store ℕ L)
    (w : Store ℕ L × List (Store ℕ L)) : Prop :=
  Path (Flush before now call) s w.1 w.2

/-- A stage that raises has not written. -/
theorem flushes_stage {α : Type} {x : SchedulerM ℕ L α} {P : Store ℕ L → Prop}
    {Q : α → Store ℕ L → Prop} {E : SchedulerError → Store ℕ L → Prop}
    (h : ∀ u, P u → Triple (fun t => t = u) x (fun a t => Flush before now call u t ∧ Q a t)
      (fun e t => t = u ∧ E e t)) :
    Triple (fun w => P w.1 ∧ Flushes before now call s w) (stage x)
      (fun a w => Q a w.1 ∧ Flushes before now call s w)
      (fun e w => E e w.1 ∧ Flushes before now call s w) := by
  refine along (P := P) (Q := Q) (E := E) fun u holds => (h u holds u rfl).imp ?_ ?_
  · intro a t ended
    exact ended
  · rintro e t ⟨rfl, ended⟩
    exact ⟨.keep rfl rfl, ended⟩

theorem flushes_scheduleRetry [LinearOrder L] {redis : Bool} {later : ℕ} {errorMessage : String}
    (called : call = .job (.retry redis later job.id errorMessage)) (current : before.store = s)
    (distinct : s.Distinct) (found : s.jobById job.id = some job) :
    Triple (fun w => w.1 = s ∧ Flushes before now call s w)
      (scheduleRetryStaged redis now later job errorMessage)
      (fun a w => Retried s job later errorMessage w.1 a ∧ Flushes before now call s w)
      (fun e w => (w.1 = s ∨ e = .dataError) ∧ Flushes before now call s w) := by
  unfold scheduleRetryStaged
  let E : SchedulerError → Store ℕ L → Prop := fun e t => t = s ∨ e = .dataError
  refine .ite (fun left => ?_) (fun used => ?_)
  · refine .bind (flushes_stage (P := fun t => t = s)
      (Q := Underway s job errorMessage .FAILED) (E := E) ?_)
      fun failed => ?_
    · rintro u rfl
      exact flush_ensureFailed called current distinct found left
    refine .bind (flushes_stage (P := Underway s job errorMessage .FAILED failed)
      (Q := Underway s job errorMessage .QUEUED)
      (E := E) fun u => flush_requeue called current found) fun queued => ?_
    exact .bind (flushes_stage (P := Underway s job errorMessage .QUEUED queued)
      (Q := fun _ t => shouldRetry job ∧ t.deadLetters = s.deadLetters) (E := E)
      fun u => flush_redispatch called current found) fun _ => .ret fun _ h => h
  · refine .bind (flushes_stage (P := fun t => t = s) (Q := fun entry t =>
      job.archivable errorMessage ∧ entry = job.deadLetter later errorMessage ∧
      t.deadLetters = s.deadLetters ++ [entry])
      (E := E) ?_) fun entry => .ret fun w h => ⟨⟨used, h.1⟩, h.2⟩
    rintro u rfl
    have archives : Archives call job later errorMessage := .inr ⟨redis, called, used⟩
    exact (flush_moveToDlq archives current distinct found).imp fun e t h => ⟨h, .inl h⟩

theorem flushes_single {α : Type} {x : SchedulerM ℕ L α} {f : α → Answer L}
    (h : Triple (fun t => t = s) x (fun _ t => Flush before now call s t) (fun _ t => t = s)) :
    Triple (fun w => w.1 = s ∧ Flushes before now call s w) (do let a ← stage x; return f a)
      (fun _ w => Flushes before now call s w)
      (fun _ w => w.1 = s ∧ Flushes before now call s w) := by
  refine .bind (flushes_stage (P := fun t => t = s) (Q := fun _ _ => True)
    (E := fun _ t => t = s) ?_)
    fun a => .ret fun w h => h.2
  rintro u rfl
  exact (h.imp fun e t same => ⟨same, same⟩).weaken (fun _ h => h) fun a t flush => ⟨flush, trivial⟩

end Calls

section Serve
variable {w : World ℕ L} {now : ℕ}

/-- What a retry is answered, and what it did to the archive. -/
def RetryAnswer (s : Store ℕ L) (jobId : Uuid) (later : ℕ) (errorMessage : String) (t : Store ℕ L) :
    Answer L → Prop
  | .job _ => ∃ job, s.jobById jobId = some job ∧ shouldRetry job ∧ t.deadLetters = s.deadLetters
  | .deadLetter entry => ∃ job, s.jobById jobId = some job ∧ ¬ shouldRetry job ∧
      job.archivable errorMessage ∧ entry = job.deadLetter later errorMessage ∧
        t.deadLetters = s.deadLetters ++ [entry]
  | .absent => t = s
  | _ => False

theorem flush_breaker (w : World ℕ L) (now : ℕ) (c : BreakerCall) :
    Ends ((c.run now).run w) (fun _ w' => Flush w now (.breaker c) w.store w'.store)
      (fun _ _ => False) := by
  cases c with
  | failure nodeId =>
      unfold BreakerCall.run
      rw [EStateM.run_bind, recordFailure_run]
      by_cases trips : Trips w.breaker nodeId
      · rw [if_pos trips]
        exact flush_redistributed (.inr ⟨rfl, trips⟩) rfl rfl rfl
      · rw [if_neg trips]
        exact .keep rfl rfl
  | success nodeId => exact .keep rfl rfl
  | check nodeId =>
      unfold BreakerCall.run
      rw [EStateM.run_bind, checkNodeHealth_run]
      by_cases due : w.store.unhealthy nodeId ∧ w.breaker.due now nodeId
      · rw [if_pos due]
        exact .keep rfl rfl
      · rw [if_neg due]
        exact .keep rfl rfl
  | reset nodeId => exact .keep rfl rfl

variable [LinearOrder L]

theorem flushes_retry (now : ℕ) (redis : Bool) (later : ℕ) (jobId : Uuid) (errorMessage : String)
    (distinct : w.store.Distinct) :
    Triple (fun p => p.1 = w.store ∧
        Flushes w now (.job (.retry redis later jobId errorMessage)) w.store p)
      (JobCall.run now (.retry redis later jobId errorMessage))
      (fun a p => RetryAnswer w.store jobId later errorMessage p.1 a ∧
        Flushes w now (.job (.retry redis later jobId errorMessage)) w.store p)
      (fun e p => (p.1 = w.store ∨ e = .dataError) ∧
        Flushes w now (.job (.retry redis later jobId errorMessage)) w.store p) := by
  unfold JobCall.run
  refine .read ?_
  rintro ⟨s, passed⟩ ⟨here, path⟩
  obtain rfl : s = w.store := here
  cases found : w.store.jobById jobId with
  | none =>
      refine .ret ?_
      rintro p rfl
      exact ⟨rfl, path⟩
  | some job =>
      obtain rfl := (Store.jobById_eq_some found).2
      refine Triple.start (P := fun p => p.1 = w.store ∧ Flushes w now _ w.store p) ?_ ⟨rfl, path⟩
      refine .bind (flushes_scheduleRetry rfl rfl distinct found) fun a => ?_
      cases a with
      | inl record =>
          refine .ret ?_
          rintro p ⟨⟨left, deadLetters⟩, path⟩
          exact ⟨⟨job, found, left, deadLetters⟩, path⟩
      | inr entry =>
          refine .ret ?_
          rintro p ⟨⟨used, archivable, built, deadLetters⟩, path⟩
          exact ⟨⟨job, found, used, archivable, built, deadLetters⟩, path⟩

/-- A call that raises has written nothing, or all of it is rolled back. -/
theorem flushes_run (now : ℕ) (c : JobCall) (distinct : w.store.Distinct) :
    Triple (fun p => p.1 = w.store ∧ Flushes w now (.job c) w.store p) (c.run now)
      (fun _ p => Flushes w now (.job c) w.store p)
      (fun e p => (p.1 = w.store ∨ e.rollsBack) ∧ Flushes w now (.job c) w.store p) := by
  cases c with
  | dispatch redis id jobType payloadRef =>
      exact (flushes_single (flush_dispatchJob rfl)).imp fun _ _ h => ⟨.inl h.1, h.2⟩
  | update jobId status resultRef errorMessage =>
      exact (flushes_single (flush_updateJobStatus rfl rfl distinct)).imp
        fun _ _ h => ⟨.inl h.1, h.2⟩
  | cancel jobId =>
      exact (flushes_single (flush_cancelJob rfl distinct)).imp fun _ _ h => ⟨.inl h.1, h.2⟩
  | redistribute nodeId =>
      refine (flushes_single ?_).imp fun _ _ h => ⟨.inl h.1, h.2⟩
      rintro t rfl
      exact flush_redistributed (.inl rfl) rfl rfl rfl
  | archive later jobId errorMessage =>
      unfold JobCall.run
      refine .read ?_
      rintro ⟨s, passed⟩ ⟨here, path⟩
      obtain rfl : s = w.store := here
      cases found : w.store.jobById jobId with
      | none =>
          refine .ret ?_
          rintro p rfl
          exact path
      | some job =>
          obtain rfl := (Store.jobById_eq_some found).2
          refine ((flushes_single ?_).imp fun _ _ h => ⟨.inl h.1, h.2⟩).start ⟨rfl, path⟩
          exact (flush_moveToDlq (.inl rfl) rfl distinct found).weaken (fun _ h => h)
            fun _ _ h => h.1
  | retry redis later jobId errorMessage =>
      refine ((flushes_retry now redis later jobId errorMessage distinct).imp ?_).weaken
        (fun _ h => h) fun _ _ h => h.2
      rintro e p ⟨same | refused, path⟩
      · exact ⟨.inl same, path⟩
      · rw [refused]
        exact ⟨.inr rfl, path⟩

theorem keeps_node [Zero L] [One L] (now : ℕ) (c : NodeCall L) (s : Store ℕ L) :
    Keeps (SameRecords s) (c.run now) := by
  cases c with
  | register id jti challenge name publicKey capabilities =>
      have registers := keeps_registerNode (I := SameRecords s) (fun _ h _ _ => h) now id jti
        challenge name publicKey capabilities
      exact .bind registers fun _ => .ret fun _ h => h
  | heartbeat nodeId currentLoad =>
      unfold NodeCall.run
      refine .read fun t h => Triple.start (P := SameRecords s) ?_ h
      cases t.nodeById nodeId with
      | none => exact .ret fun _ h => h
      | some node =>
          unfold processHeartbeat
          exact .bind (.bind (.write fun _ h => h) fun _ => .ret fun _ h => h)
            fun _ => .ret fun _ h => h
  | markStale =>
      unfold NodeCall.run markStaleNodes
      refine .bind (.read fun t h => Triple.start (P := SameRecords s) ?_ h) fun _ =>
        .ret fun _ h => h
      exact .bind (.write fun _ h => h) fun _ => .ret fun _ h => h
  | find jobType =>
      unfold NodeCall.run
      exact .read fun t h => .ret fun u same => same ▸ h

theorem path_serve [Zero L] [One L] (now : ℕ) (call : Call L) (distinct : w.store.Distinct) :
    Path (Flush w now call) w.store (serve now call w).after.store (serve now call w).passed := by
  cases call with
  | job c =>
      have ends := flushes_run now c distinct (w.store, []) ⟨rfl, .start⟩
      change Path _ _ (serveJob now c w).after.store (serveJob now c w).passed
      cases ran : (c.run now).run (w.store, []) with
      | ok answer p =>
          rw [ran] at ends
          rw [serveJob_ok ran]
          exact ends
      | error e p =>
          rw [ran] at ends
          rw [serveJob_error ran]
          split
          · exact .start
          · exact ends.2
  | breaker c =>
      have ends := flush_breaker w now c
      change Path _ _ (serveBreaker now c w).after.store (serveBreaker now c w).passed
      cases ran : (c.run now).run w with
      | ok answer w' =>
          rw [ran] at ends
          rw [serveBreaker_ok ran]
          exact .next .start ends
      | error e w' =>
          rw [ran] at ends
          exact ends.elim
  | node c =>
      have ends := keeps_node now c w.store w.store ⟨rfl, rfl⟩
      change Path _ _ (serveNode now c w).after.store (serveNode now c w).passed
      cases ran : (c.run now).run w.store with
      | ok answer s =>
          rw [ran] at ends
          rw [serveNode_ok ran]
          exact .next .start (.keep ends.1 ends.2)
      | error e s =>
          rw [ran] at ends
          rw [serveNode_error ran]
          split
          · exact .start
          · exact .next .start (.keep ends.1 ends.2)

end Serve

end RenderTrust.Scheduler
