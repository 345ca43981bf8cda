import RenderTrust.Scheduler.Flushes

/-!
# What a run keeps of the records

The flushes of a run are one path through the tables. Rows that are COMPLETED stay as
they are, and the columns of every row agree with its status.
-/
namespace RenderTrust.Scheduler
open Lib Lib.Keyed Lib.Runs Lib.Stages

variable {L : Type}

section Runs
variable [LinearOrder L] [Zero L] [One L] {R : Store ℕ L → Store ℕ L → Prop}
  {I : Store ℕ L → Prop} {ok : Timeline L → Event L → Prop} {t₀ t : Timeline L}
  {es : List (Event L)}

/-- The flushes of a call are steps of `R`, where the invariant `I` allows it. -/
theorem path_of_serve {now : ℕ} {call : Call L} {w : World ℕ L}
    (distinct : ∀ s, I s → s.Distinct) (keep : ∀ u v, R u v → I u → I v)
    (flush : ∀ u v, I u → Flush w now call u v → R u v) (here : I w.store) :
    Path R w.store (serve now call w).after.store (serve now call w).passed :=
  (path_serve now call (distinct _ here)).weaken
    (fun u v step holds => keep u v (flush u v holds step) holds) flush here

theorem Timeline.path_of_run (run : Run Timeline.step ok t₀ es t)
    (distinct : ∀ s, I s → s.Distinct) (keep : ∀ u v, R u v → I u → I v)
    (flush : ∀ t e, ok t e → I t.world.store →
      ∀ u v, I u → Flush t.world e.now e.call u v → R u v)
    (start : I t₀.world.store) :
    ∃ since, t.passed = since ++ t₀.passed ∧ Path R t₀.world.store t.world.store since := by
  refine run.invariant (I := fun t => ∃ since, t.passed = since ++ t₀.passed ∧
    Path R t₀.world.store t.world.store since) ?_ ⟨[], rfl, .start⟩
  rintro t e _ ⟨since, passed, path⟩ allowed ⟨⟩
  have here := path.invariant keep start
  have steps := path_of_serve distinct keep (flush t e allowed here) here
  refine ⟨(serve e.now e.call t.world).passed ++ since, ?_, path.trans steps⟩
  rw [List.append_assoc, ← passed]
  rfl

theorem Timeline.path_of_opening {w : World ℕ L} (run : Run Timeline.step ok (.opening w) es t)
    (distinct : ∀ s, I s → s.Distinct) (keep : ∀ u v, R u v → I u → I v)
    (flush : ∀ t e, ok t e → I t.world.store →
      ∀ u v, I u → Flush t.world e.now e.call u v → R u v)
    (start : I w.store) : Path R w.store t.world.store t.passed := by
  obtain ⟨since, passed, path⟩ := path_of_run run distinct keep flush start
  rw [passed]
  change Path R w.store t.world.store (since ++ [])
  rwa [List.append_nil]

/-- Every exchange of a run was served where the invariant held. -/
theorem Timeline.served_of_run (run : Run Timeline.step ok t₀ es t)
    (distinct : ∀ s, I s → s.Distinct)
    (flush : ∀ t e, ok t e → I t.world.store →
      ∀ u v, I u → Flush t.world e.now e.call u v → I v)
    (start : I t₀.world.store) :
    ∀ x ∈ t.past, x ∈ t₀.past ∨ x = serve x.now x.call x.before ∧ I x.before.store := by
  refine (run.invariant (I := fun t => I t.world.store ∧ ∀ x ∈ t.past,
    x ∈ t₀.past ∨ x = serve x.now x.call x.before ∧ I x.before.store) ?_
    ⟨start, fun x => .inl⟩).2
  rintro t e _ ⟨here, served⟩ allowed ⟨⟩
  have steps := path_of_serve (R := fun _ v => I v) distinct (fun _ _ h _ => h)
    (flush t e allowed here) here
  refine ⟨steps.invariant (fun _ _ h _ => h) here, fun x member => ?_⟩
  rcases List.mem_cons.mp member with rfl | earlier
  · right
    obtain ⟨now, call, before⟩ := serve_asked e.now e.call t.world
    rw [now, call, before]
    exact ⟨rfl, here⟩
  · exact served x earlier

end Runs

section Steps
variable {before : World ℕ L} {now : ℕ} {call : Call L} {u v : Store ℕ L} {job row : JobDispatch ℕ}

/-- What changes keep of a row, and new rows have, the flush keeps of the table. -/
theorem Flush.everyRow {P : JobDispatch ℕ → Prop} (flush : Flush before now call u v)
    (rows : u.Distinct ∧ ∀ job ∈ u.jobs, P job)
    (changed : ∀ job row, Change before now call job row → P job → P row)
    (new : ∀ id nodeId jobType payloadRef, P (newJob id nodeId jobType payloadRef now)) :
    v.Distinct ∧ ∀ row ∈ v.jobs, P row := by
  refine ⟨flush.distinct rows.1, fun row member => ?_⟩
  rcases flush.origin member with ⟨job, inside, change⟩ | ⟨id, nodeId, jobType, ref, -, rfl⟩
  · exact changed job row change (rows.2 job inside)
  · exact new id nodeId jobType ref

theorem rows_of_empty {P : JobDispatch ℕ → Prop} (empty : u.jobs = []) :
    u.Distinct ∧ ∀ job ∈ u.jobs, P job := by
  refine ⟨Store.distinct_of_empty empty, ?_⟩
  rw [empty]
  exact fun job member => absurd member List.not_mem_nil

theorem movable_status {nodeId : Uuid} (movable : job.movable nodeId) :
    job.status = .QUEUED ∨ job.status = .DISPATCHED :=
  (of_decide_eq_true movable).2

theorem unfinished_of_waiting (waiting : job.status = .QUEUED ∨ job.status = .DISPATCHED) :
    job.status ≠ .COMPLETED := by
  intro completed
  rw [completed] at waiting
  exact absurd waiting (by decide)

/-! ## COMPLETED -/

theorem Change.completed (h : Change before now call job row)
    (completed : job.status = .COMPLETED) :
    row = job := by
  cases h with
  | same => rfl
  | updated _ _ allowed => exact absurd completed (unfinished_of_allowed allowed)
  | cancelled _ waiting => exact absurd completed (unfinished_of_waiting waiting)
  | failed _ allowed => exact absurd completed (unfinished_of_allowed allowed)
  | requeued _ _ failed =>
      rw [completed] at failed
      cases failed
  | reassigned _ queued =>
      rw [completed] at queued
      cases queued
  | redistributed _ _ movable =>
      exact absurd completed (unfinished_of_waiting (movable_status movable))
  | archived _ unfinished => exact absurd completed unfinished

/-- The row is there as it was, and `kept` are its entries in the archive. -/
structure Settled (job : JobDispatch ℕ) (kept : List (DeadLetterEntry ℕ)) (s : Store ℕ L) :
    Prop where
  distinct : s.Distinct
  row : job ∈ s.jobs
  deadLetters : s.deadLetters.filter (fun entry => entry.jobId = job.id) = kept

theorem Settled.flush {kept : List (DeadLetterEntry ℕ)} (h : Settled job kept u)
    (start : Settled job kept before.store) (completed : job.status = .COMPLETED)
    (flush : Flush before now call u v) : Settled job kept v where
  distinct := flush.distinct h.distinct
  row := by
    obtain ⟨row, member, change⟩ := flush.target h.row
    rwa [change.completed completed] at member
  deadLetters := by
    rcases flush.deadLetters with same | ⟨other, entry, later, errorMessage, added, archived⟩
    · rw [same, h.deadLetters]
    · have unrelated : entry.jobId ≠ job.id := by
        intro same
        rw [archived.entry] at same
        have current : before.store.jobById job.id = some other := same ▸ archived.current
        rw [start.distinct.jobById start.row] at current
        cases current
        exact archived.unfinished completed
      rw [added, List.filter_append, h.deadLetters, List.filter_singleton,
        decide_eq_false unrelated]
      exact List.append_nil kept

end Steps

section Absorbing
variable [LinearOrder L] [Zero L] [One L]

/-- A COMPLETED job keeps its row and is not archived, at every flush of every later call. -/
theorem completed_of_run {t₀ t : Timeline L} {es : List (Event L)} {job : JobDispatch ℕ}
    (run : Run Timeline.step Always t₀ es t) (distinct : t₀.world.store.Distinct)
    (member : job ∈ t₀.world.store.jobs) (completed : job.status = .COMPLETED) :
    ∃ since, t.passed = since ++ t₀.passed ∧ ∀ s ∈ t.world.store :: since,
      s.jobById job.id = some job ∧
        s.deadLetters.filter (fun entry => entry.jobId = job.id) =
          t₀.world.store.deadLetters.filter fun entry => entry.jobId = job.id := by
  have start : Settled job _ t₀.world.store := ⟨distinct, member, rfl⟩
  obtain ⟨since, passed, path⟩ := Timeline.path_of_run (R := fun _ v => Settled job _ v) run
    (fun s h => h.distinct) (fun _ _ h _ => h)
    (fun t e _ here u v h flush => h.flush here completed flush) start
  refine ⟨since, passed, fun s inside => ?_⟩
  have settled := path.all (fun _ _ h _ => h) start s inside
  exact ⟨settled.distinct.jobById settled.row, settled.deadLetters⟩

end Absorbing

def finished : JobDispatch ℕ :=
  ((newJob 7 3 "render" "s3://scene" 1).updated 2 .RUNNING none none).updated 3 .COMPLETED
    (some "s3://result") none

/-- A late failure report, a breaker that trips, and a direct archive. -/
def lateCalls : List (Event ℕ) :=
  [⟨4, .job (.retry true 5 7 "out of memory")⟩, ⟨6, .job (.archive 7 7 "out of memory")⟩,
    ⟨8, .breaker (.failure 3)⟩, ⟨9, .breaker (.failure 3)⟩, ⟨10, .breaker (.failure 3)⟩]

theorem completed_of_run_late : ∃ t : Timeline ℕ,
    Run Timeline.step Always (.opening ⟨⟨twoNodes, [finished], [], []⟩, .new⟩) lateCalls t ∧
      t.world.store.jobById 7 = some finished := by
  have accepted : (exec Timeline.step Always
      (.opening ⟨⟨twoNodes, [finished], [], []⟩, .new⟩) lateCalls).isSome := rfl
  obtain ⟨t, run⟩ := run_of_isSome accepted
  obtain ⟨since, -, settled⟩ := completed_of_run run (List.nodup_singleton _) List.mem_cons_self rfl
  exact ⟨t, run, (settled _ List.mem_cons_self).1⟩

/-! ## Columns and status -/

structure JobDispatch.Consistent (job : JobDispatch ℕ) : Prop where
  dispatched : job.status = .DISPATCHED ∨ job.status = .RUNNING ∨ job.status = .COMPLETED →
    job.dispatchedAt.isSome
  completed : job.status = .COMPLETED ∨ job.status = .FAILED → job.completedAt.isSome
  result : job.resultRef.isSome → job.status = .COMPLETED

/-- Every row stays, and moves only as the state machine allows. -/
def Lawful (u v : Store ℕ L) : Prop :=
  ∀ job ∈ u.jobs, ∃ row ∈ v.jobs, row.id = job.id ∧ job.retryCount ≤ row.retryCount ∧
    (row.status = job.status ∨ row.status ∈ VALID_TRANSITIONS job.status)

section Steps
variable {before : World ℕ L} {now : ℕ} {call : Call L} {u v : Store ℕ L} {job row : JobDispatch ℕ}

theorem newJob_consistent (id nodeId : Uuid) (jobType payloadRef : String) (now : ℕ) :
    (newJob id nodeId jobType payloadRef now).Consistent where
  dispatched _ := rfl
  completed h := absurd h (by simp [newJob])
  result h := absurd h (by simp [newJob])

theorem running_of_allowed {old new : JobStatus} (allowed : new ∈ VALID_TRANSITIONS old)
    (stands : new = .RUNNING ∨ new = .COMPLETED) : old = .DISPATCHED ∨ old = .RUNNING := by
  revert allowed stands
  cases old <;> cases new <;> decide

theorem failed_allowed {old : JobStatus} (unfinished : old ≠ .COMPLETED) (other : old ≠ .FAILED) :
    .FAILED ∈ VALID_TRANSITIONS old := by
  revert unfinished other
  cases old <;> decide

/-- A job that is not COMPLETED has no result. -/
theorem JobDispatch.Consistent.no_result (h : job.Consistent)
    (unfinished : job.status ≠ .COMPLETED) :
    ¬ job.resultRef.isSome :=
  fun some => unfinished (h.result some)

theorem JobDispatch.Consistent.updated {status : JobStatus} {resultRef errorMessage : Option String}
    (h : job.Consistent) (allowed : status ∈ VALID_TRANSITIONS job.status) :
    (job.updated now status resultRef errorMessage).Consistent where
  dispatched stands := by
    simp only [JobDispatch.updated] at stands ⊢
    split
    · rfl
    · rename_i other
      apply h.dispatched
      rcases running_of_allowed allowed (stands.resolve_left other) with sent | running
      · exact .inl sent
      · exact .inr (.inl running)
  completed stands := by
    simp only [JobDispatch.updated] at stands ⊢
    rw [if_pos stands]
    rfl
  result some := by
    simp only [JobDispatch.updated] at some ⊢
    split at some
    · rename_i ends
      exact ends.1
    · exact absurd some (h.no_result (unfinished_of_allowed allowed))

theorem JobDispatch.Consistent.cancelled (h : job.Consistent)
    (waiting : job.status = .QUEUED ∨ job.status = .DISPATCHED) :
    (job.cancelled now).Consistent where
  dispatched stands := absurd stands (by simp [JobDispatch.cancelled])
  completed _ := rfl
  result some := absurd some (h.no_result (unfinished_of_waiting waiting))

theorem JobDispatch.Consistent.requeued (h : job.Consistent)
    (waiting : job.status = .QUEUED ∨ job.status = .DISPATCHED) : job.requeued.Consistent where
  dispatched stands := absurd stands (by simp [JobDispatch.requeued])
  completed stands := absurd stands (by simp [JobDispatch.requeued])
  result some := absurd some (h.no_result (unfinished_of_waiting waiting))

theorem Change.consistent (h : Change before now call job row) (consistent : job.Consistent) :
    row.Consistent := by
  cases h with
  | same => exact consistent
  | updated _ _ allowed => exact consistent.updated allowed
  | cancelled _ waiting => exact consistent.cancelled waiting
  | failed _ allowed => exact consistent.updated allowed
  | requeued _ _ failed =>
      refine consistent.updated ?_
      rw [failed]
      exact List.mem_singleton_self _
  | reassigned => exact ⟨consistent.dispatched, consistent.completed, consistent.result⟩
  | redistributed _ _ movable => exact consistent.requeued (movable_status movable)
  | archived _ unfinished =>
      unfold JobDispatch.archived
      split
      · rename_i other
        exact consistent.updated (failed_allowed unfinished other)
      · exact ⟨consistent.dispatched, consistent.completed, consistent.result⟩

theorem Change.retryCount_le (h : Change before now call job row) :
    job.retryCount ≤ row.retryCount := by
  cases h with
  | updated | requeued =>
      simp only [JobDispatch.updated]
      split
      · exact Nat.le_succ _
      · exact le_rfl
  | archived => exact (job.archived_eq now _).2.2.ge
  | _ => exact le_rfl

theorem Change.lawful (h : Change before now call job row) :
    row.status = job.status ∨ row.status ∈ VALID_TRANSITIONS job.status := by
  cases h with
  | same => exact .inl rfl
  | updated _ _ allowed => exact .inr allowed
  | cancelled _ waiting =>
      right
      change .FAILED ∈ VALID_TRANSITIONS job.status
      rcases waiting with queued | dispatched
      · rw [queued]
        decide
      · rw [dispatched]
        decide
  | failed _ allowed => exact .inr allowed
  | requeued _ _ failed =>
      right
      rw [failed]
      exact List.mem_singleton_self _
  | reassigned => exact .inl rfl
  | redistributed _ _ movable =>
      rcases movable_status movable with queued | dispatched
      · exact .inl queued.symm
      · right
        change .QUEUED ∈ VALID_TRANSITIONS job.status
        rw [dispatched]
        decide
  | archived _ unfinished =>
      rw [(job.archived_eq now _).1]
      by_cases already : job.status = .FAILED
      · exact .inl already.symm
      · exact .inr (failed_allowed unfinished already)

end Steps

/-- A `ValueError` is raised before anything is written. -/
theorem valueError_writes_nothing [LinearOrder L] [Zero L] [One L] {now : ℕ} {call : Call L}
    {w : World ℕ L} (distinct : w.store.Distinct) {message : String}
    (raised : (serve now call w).answer = .error (.scheduler (.valueError message))) :
    (serve now call w).after.store = w.store := by
  cases call with
  | job c =>
      change (serveJob now c w).after.store = w.store
      change (serveJob now c w).answer = _ at raised
      have ends := flushes_run now c distinct (w.store, []) ⟨rfl, .start⟩
      cases ran : (c.run now).run (w.store, []) with
      | ok answer p =>
          rw [serveJob_ok ran] at raised
          cases raised
      | error e p =>
          rw [ran] at ends
          rw [serveJob_error ran] at raised ⊢
          rcases ends.1 with same | rolls
          · split
            · rfl
            · exact same
          · rw [if_pos rolls]
  | breaker c =>
      change (serveBreaker now c w).answer = _ at raised
      have ends := flush_breaker w now c
      cases ran : (c.run now).run w with
      | ok answer w' =>
          rw [serveBreaker_ok ran] at raised
          cases raised
      | error e w' =>
          rw [ran] at ends
          exact ends.elim
  | node c =>
      change (serveNode now c w).answer = _ at raised
      cases ran : (c.run now).run w.store with
      | ok answer s =>
          rw [serveNode_ok ran] at raised
          cases raised
      | error e s =>
          rw [serveNode_error ran] at raised
          split at raised
          · cases raised
          · cases raised

structure Timeline.Records (t : Timeline L) (s : Store ℕ L) : Prop where
  consistent : ∀ u ∈ t.world.store :: t.passed, u.Distinct ∧ ∀ job ∈ u.jobs, job.Consistent
  lawful : Path Lawful s t.world.store t.passed
  raised : ∀ x ∈ t.past, ∀ message, x.answer = .error (.scheduler (.valueError message)) →
    SameRecords x.before.store x.after.store

def ConsistentRows (s : Store ℕ L) : Prop := s.Distinct ∧ ∀ job ∈ s.jobs, job.Consistent

theorem ConsistentRows.flush {before : World ℕ L} {now : ℕ} {call : Call L} {u v : Store ℕ L}
    (h : ConsistentRows u) (flush : Flush before now call u v) : ConsistentRows v :=
  flush.everyRow h (fun _ _ change => change.consistent)
    fun id nodeId jobType ref => newJob_consistent id nodeId jobType ref now

theorem Flush.lawful {before : World ℕ L} {now : ℕ} {call : Call L} {u v : Store ℕ L}
    (flush : Flush before now call u v) : Lawful u v := by
  intro job member
  obtain ⟨row, inside, change⟩ := flush.target member
  exact ⟨row, inside, change.id, change.retryCount_le, change.lawful⟩

/-- From tables without jobs, at every flush of every call. -/
theorem records_of_run [LinearOrder L] [Zero L] [One L] {w : World ℕ L} {t : Timeline L}
    {es : List (Event L)} (run : Run Timeline.step Always (.opening w) es t)
    (empty : w.store.jobs = []) : t.Records w.store := by
  have start : ConsistentRows w.store := rows_of_empty empty
  have path := Timeline.path_of_opening (I := ConsistentRows)
    (R := fun u v => Lawful u v ∧ ConsistentRows v) run (fun s h => h.1) (fun u v h _ => h.2)
    (fun t e _ _ u v h flush => ⟨flush.lawful, h.flush flush⟩) start
  have served := Timeline.served_of_run (I := ConsistentRows) run (fun s h => h.1)
    (fun t e _ _ u v h flush => h.flush flush) start
  constructor
  · exact path.all (fun _ _ h _ => h.2) start
  · exact path.mono fun _ _ h => h.1
  · intro x member message raised
    rcases served x member with old | ⟨same, here⟩
    · exact absurd old List.not_mem_nil
    · rw [same] at raised
      have nothing := valueError_writes_nothing here.1 raised
      rw [← same] at nothing
      exact ⟨congrArg Store.jobs nothing, congrArg Store.deadLetters nothing⟩

/-- A failing job that is dispatched, retried and cancelled twice. -/
def busyCalls : List (Event ℕ) :=
  [⟨1, .job (.dispatch true 7 "render" "s3://scene")⟩,
    ⟨2, .job (.retry true 3 7 "out of memory")⟩, ⟨4, .job (.cancel 7)⟩, ⟨5, .job (.cancel 7)⟩]

theorem records_of_run_busy : ∃ t : Timeline ℕ,
    Run Timeline.step Always (.opening ⟨⟨twoNodes, [], [], []⟩, .new⟩) busyCalls t ∧
      t.Records ⟨twoNodes, [], [], []⟩ := by
  have accepted : (exec Timeline.step Always
      (.opening ⟨⟨twoNodes, [], [], []⟩, .new⟩) busyCalls).isSome := rfl
  obtain ⟨t, run⟩ := run_of_isSome accepted
  exact ⟨t, run, records_of_run run rfl⟩

/-! ## Times of a life that is over -/

/-- A job that has not finished has no end, and one that waits is not with a node. -/
def JobDispatch.Timely (job : JobDispatch ℕ) : Prop :=
  (job.status = .QUEUED ∨ job.status = .DISPATCHED ∨ job.status = .RUNNING →
    job.completedAt = none) ∧ (job.status = .QUEUED → job.dispatchedAt = none)

instance (job : JobDispatch ℕ) : Decidable job.Timely := inferInstanceAs (Decidable (_ ∧ _))

/-- The call queues a job again, other than by a redistribution. -/
def Requeues (s : Store ℕ L) : Call L → Bool
  | .job (.update jobId status _ _) =>
      status = .QUEUED ∧ (s.jobById jobId).any fun job => .QUEUED ∈ VALID_TRANSITIONS job.status
  | .job (.retry _ _ jobId errorMessage) =>
      (s.jobById jobId).any fun job => job.retriable errorMessage
  | _ => false

def LeavesQueueAlone (t : Timeline L) (e : Event L) : Prop := ¬ Requeues t.world.store e.call

instance (t : Timeline L) (e : Event L) : Decidable (LeavesQueueAlone t e) :=
  inferInstanceAs (Decidable (¬ _))

section Steps
variable {before : World ℕ L} {now : ℕ} {call : Call L} {u v : Store ℕ L} {job row : JobDispatch ℕ}

theorem Retries.requeues {jobId : Uuid} {later : ℕ} {errorMessage : String}
    (h : Retries before.store call jobId later errorMessage) : Requeues before.store call := by
  obtain ⟨redis, rfl⟩ := h.called
  obtain ⟨start, found, retriable⟩ := h.left
  change Option.any _ (before.store.jobById jobId)
  rw [found]
  exact retriable

theorem JobDispatch.timely_of_failed (failed : job.status = .FAILED) : job.Timely := by
  constructor
  · rw [failed]
    exact fun stands => absurd stands (by decide)
  · rw [failed]
    exact fun stands => absurd stands (by decide)

theorem waiting_of_allowed {old new : JobStatus} (allowed : new ∈ VALID_TRANSITIONS old)
    (stands : new = .DISPATCHED ∨ new = .RUNNING) : old = .QUEUED ∨ old = .DISPATCHED := by
  revert allowed stands
  cases old <;> cases new <;> decide

theorem JobDispatch.Timely.updated {status : JobStatus} {resultRef errorMessage : Option String}
    (h : job.Timely) (allowed : status ∈ VALID_TRANSITIONS job.status) (other : status ≠ .QUEUED) :
    (job.updated now status resultRef errorMessage).Timely := by
  refine ⟨fun stands => ?_, fun queued => absurd queued other⟩
  change status = .QUEUED ∨ status = .DISPATCHED ∨ status = .RUNNING at stands
  have ongoing := stands.resolve_left other
  have unended : ¬ (status = .COMPLETED ∨ status = .FAILED) := by
    rcases ongoing with rfl | rfl <;> decide
  change (if status = .COMPLETED ∨ status = .FAILED then some now else job.completedAt) = none
  rw [if_neg unended]
  apply h.1
  rcases waiting_of_allowed allowed ongoing with queued | dispatched
  · exact .inl queued
  · exact .inr (.inl dispatched)

theorem Change.timely (h : Change before now call job row) (alone : ¬ Requeues before.store call)
    (timely : job.Timely) : row.Timely := by
  cases h with
  | same => exact timely
  | updated called current allowed =>
      refine timely.updated allowed ?_
      rintro rfl
      refine alone ?_
      rw [called]
      refine decide_eq_true ⟨rfl, ?_⟩
      rw [current]
      exact decide_eq_true allowed
  | cancelled => exact JobDispatch.timely_of_failed rfl
  | failed retries => exact absurd retries.requeues alone
  | requeued retries => exact absurd retries.requeues alone
  | reassigned retries => exact absurd retries.requeues alone
  | redistributed _ _ movable =>
      refine ⟨fun _ => timely.1 ?_, fun _ => rfl⟩
      rcases movable_status movable with queued | dispatched
      · exact .inl queued
      · exact .inr (.inl dispatched)
  | archived => exact JobDispatch.timely_of_failed (job.archived_eq now _).1

end Steps

def TimelyRows (s : Store ℕ L) : Prop := s.Distinct ∧ ∀ job ∈ s.jobs, job.Timely

theorem TimelyRows.flush {before : World ℕ L} {now : ℕ} {call : Call L} {u v : Store ℕ L}
    (h : TimelyRows u) (alone : ¬ Requeues before.store call) (flush : Flush before now call u v) :
    TimelyRows v := by
  refine flush.everyRow h (fun _ _ change => change.timely alone) fun id nodeId jobType ref => ?_
  exact ⟨fun _ => rfl, fun queued => absurd queued (by simp [newJob])⟩

theorem timely_of_run [LinearOrder L] [Zero L] [One L] {w : World ℕ L} {t : Timeline L}
    {es : List (Event L)} (run : Run Timeline.step LeavesQueueAlone (.opening w) es t)
    (empty : w.store.jobs = []) :
    ∀ s ∈ t.world.store :: t.passed, ∀ job ∈ s.jobs, job.Timely := by
  have start : TimelyRows w.store := rows_of_empty empty
  have path := Timeline.path_of_opening (I := TimelyRows) (R := fun _ v => TimelyRows v) run
    (fun s h => h.1) (fun u v h _ => h) (fun t e alone _ u v h flush => h.flush alone flush) start
  exact fun s inside => (path.all (fun _ _ h _ => h) start s inside).2

/-- A breaker that trips while a job is with the node. -/
def trippingCalls : List (Event ℕ) :=
  [⟨1, .job (.dispatch true 7 "render" "s3://scene")⟩, ⟨2, .breaker (.failure 3)⟩,
    ⟨3, .breaker (.failure 3)⟩, ⟨4, .breaker (.failure 3)⟩]

theorem timely_of_run_tripping : ∃ t : Timeline ℕ,
    Run Timeline.step LeavesQueueAlone (.opening ⟨⟨twoNodes, [], [], []⟩, .new⟩) trippingCalls t ∧
      ∀ s ∈ t.world.store :: t.passed, ∀ job ∈ s.jobs, job.Timely := by
  have accepted : (exec Timeline.step LeavesQueueAlone
      (.opening ⟨⟨twoNodes, [], [], []⟩, .new⟩) trippingCalls).isSome := by decide +kernel
  obtain ⟨t, run⟩ := run_of_isSome accepted
  exact ⟨t, run, timely_of_run run rfl⟩

/-- Dispatched and retried once: the job is QUEUED with the times of the attempt. -/
theorem retried_untimely :
    ¬ ∀ (es : List (Event ℕ)) (t : Timeline ℕ),
      Run Timeline.step Always (.opening ⟨⟨twoNodes, [], [], []⟩, .new⟩) es t →
        ∀ job ∈ t.world.store.jobs, job.Timely := by
  intro claim
  have stale : (exec Timeline.step Always (.opening ⟨⟨twoNodes, [], [], []⟩, .new⟩)
      [⟨1, .job (.dispatch true 7 "render" "s3://scene")⟩,
        ⟨2, .job (.retry true 3 7 "out of memory")⟩]).any
      fun t => t.world.store.jobs.any fun job => !decide job.Timely := by decide +kernel
  obtain ⟨t, run, late⟩ := run_of_any stale
  obtain ⟨job, member, untimely⟩ := List.any_eq_true.mp late
  rw [decide_eq_true (claim _ t run job member)] at untimely
  cases untimely

end RenderTrust.Scheduler
