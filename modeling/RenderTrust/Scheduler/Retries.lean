import RenderTrust.Scheduler.Records

/-!
# How often a job is tried

The retries of a job are counted in its row and limited by `MAX_RETRIES`; after the last
one it is archived.
-/
namespace RenderTrust.Scheduler
open Lib Lib.Keyed Lib.Runs Lib.Stages

variable {L : Type}

/-- The job was in a state of `p` and is QUEUED. -/
def Requeued (p : JobStatus → Bool) (jobId : Uuid) (u v : Store ℕ L) : Bool :=
  ((u.jobById jobId).any fun job => p job.status) &&
    (v.jobById jobId).any fun job => job.status = .QUEUED

def Store.retries (s : Store ℕ L) (jobId : Uuid) : ℕ :=
  ((s.jobById jobId).map JobDispatch.retryCount).getD 0

/-- The count of a row goes up by one when it comes from a state of `p` into the queue. -/
def CountsMove (p : JobStatus → Bool) (job row : JobDispatch ℕ) : Prop :=
  row.retryCount = job.retryCount + if p job.status && decide (row.status = .QUEUED) then 1 else 0

section Steps
variable {before : World ℕ L} {now : ℕ} {call : Call L} {u v : Store ℕ L} {job row : JobDispatch ℕ}

theorem Store.jobById_eq_none {s : Store ℕ L} {jobId : Uuid} :
    s.jobById jobId = none ↔ jobId ∉ s.jobs.map JobDispatch.id :=
  find?_key_eq_none

/-- The counts of a store follow those of its rows. -/
theorem Flush.retries {p : JobStatus → Bool} (flush : Flush before now call u v)
    (distinct : u.Distinct)
    (counts : ∀ job ∈ u.jobs, ∀ row, Change before now call job row → CountsMove p job row)
    (jobId : Uuid) :
    v.retries jobId = u.retries jobId + if Requeued p jobId u v then 1 else 0 := by
  unfold Store.retries Requeued
  cases found : u.jobById jobId with
  | none =>
      have absent := Store.jobById_eq_none.mp found
      cases new : v.jobById jobId with
      | none => rfl
      | some row =>
          obtain ⟨member, rfl⟩ := Store.jobById_eq_some new
          rcases flush.origin member with ⟨job, inside, change⟩ | ⟨_, _, _, _, _, rfl⟩
          · rw [change.id] at absent
            exact absurd (List.mem_map_of_mem inside) absent
          · rfl
  | some job =>
      obtain ⟨inside, rfl⟩ := Store.jobById_eq_some found
      obtain ⟨row, member, change⟩ := flush.target inside
      have current := (flush.distinct distinct).jobById member
      rw [change.id] at current
      rw [current]
      exact counts job inside row change

/-- A move from a state that is not of `p` is not counted. -/
theorem CountsMove.of_not {p : JobStatus → Bool} (same : row.retryCount = job.retryCount)
    (other : p job.status = false ∨ row.status ≠ .QUEUED) : CountsMove p job row := by
  unfold CountsMove
  rw [if_neg, same, Nat.add_zero]
  rw [Bool.and_eq_true, decide_eq_true_eq]
  rintro ⟨counted, queued⟩
  rcases other with no | no
  · rw [no] at counted
    cases counted
  · exact no queued

end Steps

/-! ## The count of a job -/

def Returning (status : JobStatus) : Bool := status = .FAILED ∨ status = .DISPATCHED

/-- The node whose jobs the call redistributes. -/
def redistributedNode (w : World ℕ L) : Call L → Option Uuid
  | .job (.redistribute nodeId) => some nodeId
  | .breaker (.failure nodeId) => if Trips w.breaker nodeId then some nodeId else none
  | _ => none

def SparesDispatched (t : Timeline L) (e : Event L) : Prop :=
  (redistributedNode t.world e.call).all fun nodeId =>
    t.world.store.jobs.all fun job => ¬ (job.nodeId = nodeId ∧ job.status = .DISPATCHED)

instance (t : Timeline L) (e : Event L) : Decidable (SparesDispatched t e) :=
  inferInstanceAs (Decidable (_ = true))

section Steps
variable {t : Timeline L} {e : Event L} {u v : Store ℕ L} {job row : JobDispatch ℕ}

theorem Redistributes.node {before : World ℕ L} {call : Call L} {nodeId : Uuid}
    (h : Redistributes before call nodeId) : redistributedNode before call = some nodeId := by
  rcases h with rfl | ⟨rfl, trips⟩
  · rfl
  · exact if_pos trips

theorem JobDispatch.countsMove_updated {now : ℕ} {status : JobStatus}
    {resultRef errorMessage : Option String} :
    CountsMove Returning job (job.updated now status resultRef errorMessage) := by
  have asked : (Returning job.status && decide (status = .QUEUED)) = true ↔
      status = .QUEUED ∧ (job.status = .FAILED ∨ job.status = .DISPATCHED) := by
    rw [Bool.and_eq_true, decide_eq_true_eq, Returning, decide_eq_true_eq, and_comm]
  unfold CountsMove JobDispatch.updated
  simp only [asked]
  split
  · rfl
  · rfl

theorem Change.countsReturn (h : Change t.world e.now e.call job row)
    (spares : SparesDispatched t e) : CountsMove Returning job row := by
  cases h with
  | same =>
      refine .of_not rfl ?_
      cases status : job.status <;> decide
  | updated => exact JobDispatch.countsMove_updated
  | cancelled => exact .of_not rfl (.inr (by rintro ⟨⟩))
  | failed => exact .of_not rfl (.inr (by rintro ⟨⟩))
  | requeued => exact JobDispatch.countsMove_updated
  | reassigned _ queued =>
      refine .of_not rfl (.inl ?_)
      rw [queued]
      rfl
  | redistributed redistributes current movable =>
      refine .of_not rfl (.inl ?_)
      unfold SparesDispatched at spares
      rw [redistributes.node, Option.all_some, List.all_eq_true] at spares
      have here := of_decide_eq_true (spares job current)
      obtain ⟨assigned, queued | dispatched⟩ := of_decide_eq_true movable
      · rw [queued]
        rfl
      · exact absurd ⟨assigned, dispatched⟩ here
  | archived =>
      obtain ⟨failed, -, count⟩ := job.archived_eq e.now _
      refine .of_not count (.inr ?_)
      rw [failed]
      rintro ⟨⟩

end Steps

/-- `retry_count` is the number of moves back into the queue. -/
theorem retryCount_of_run [LinearOrder L] [Zero L] [One L] {w : World ℕ L} {t : Timeline L}
    {es : List (Event L)} (run : Run Timeline.step SparesDispatched (.opening w) es t)
    (empty : w.store.jobs = []) {job : JobDispatch ℕ} (member : job ∈ t.world.store.jobs) :
    job.retryCount = steps (Requeued Returning job.id) t.world.store t.passed := by
  have start : w.store.Distinct := Store.distinct_of_empty empty
  have path := Timeline.path_of_opening (I := Store.Distinct) (R := fun u v => v.Distinct ∧
    ∀ jobId, v.retries jobId = u.retries jobId + if Requeued Returning jobId u v then 1 else 0) run
    (fun _ h => h) (fun _ _ h _ => h.1) (fun t e spares _ u v h flush => ⟨flush.distinct h,
      flush.retries h fun job _ row change => change.countsReturn spares⟩) start
  have distinct := path.invariant (fun _ _ h _ => h.1) start
  have counted := path.counts (f := fun s => s.retries job.id) fun u v h => h.2 job.id
  have here : t.world.store.retries job.id = job.retryCount := by
    rw [Store.retries, distinct.jobById member]
    rfl
  have nothing : w.store.retries job.id = 0 := by
    rw [Store.retries, Store.jobById, empty]
    rfl
  rw [← here, counted, nothing, Nat.zero_add]

/-- A retry, and then a breaker that trips while the job is queued. -/
def retriedCalls : List (Event ℕ) :=
  [⟨1, .job (.dispatch true 7 "render" "s3://scene")⟩,
    ⟨2, .job (.retry true 3 7 "out of memory")⟩, ⟨4, .breaker (.failure 3)⟩,
    ⟨5, .breaker (.failure 3)⟩, ⟨6, .breaker (.failure 3)⟩]

theorem retryCount_of_run_retried : ∃ (t : Timeline ℕ) (job : JobDispatch ℕ),
    Run Timeline.step SparesDispatched (.opening ⟨⟨twoNodes, [], [], []⟩, .new⟩) retriedCalls t ∧
      job.retryCount = 1 ∧ steps (Requeued Returning job.id) t.world.store t.passed = 1 := by
  have accepted : (exec Timeline.step SparesDispatched
      (.opening ⟨⟨twoNodes, [], [], []⟩, .new⟩) retriedCalls).any
      fun t => t.world.store.jobs.any fun job => job.retryCount = 1 := by decide +kernel
  obtain ⟨t, run, some⟩ := run_of_any accepted
  obtain ⟨job, member, once⟩ := List.any_eq_true.mp some
  have count := of_decide_eq_true once
  exact ⟨t, job, run, count, (retryCount_of_run run rfl member).symm.trans count⟩

/-- The breaker takes a DISPATCHED job back into the queue and does not count it. -/
theorem redistributed_uncounted :
    ¬ ∀ (es : List (Event ℕ)) (t : Timeline ℕ),
      Run Timeline.step Always (.opening ⟨⟨twoNodes, [], [], []⟩, .new⟩) es t →
        ∀ job ∈ t.world.store.jobs,
          job.retryCount = steps (Requeued Returning job.id) t.world.store t.passed := by
  intro claim
  have missed : (exec Timeline.step Always (.opening ⟨⟨twoNodes, [], [], []⟩, .new⟩)
      [⟨1, .job (.dispatch true 7 "render" "s3://scene")⟩, ⟨2, .job (.redistribute 3)⟩]).any
      fun t => t.world.store.jobs.any fun job =>
        job.retryCount ≠ steps (Requeued Returning job.id) t.world.store t.passed := by
    decide +kernel
  obtain ⟨t, run, some⟩ := run_of_any missed
  obtain ⟨job, member, other⟩ := List.any_eq_true.mp some
  exact of_decide_eq_true other (claim _ t run job member)

/-! ## The last retry -/

/-- The call gets past `schedule_retry`: a job is queued again by a status update, or
archived directly. -/
def Bypasses (s : Store ℕ L) : Call L → Bool
  | .job (.update jobId status _ _) =>
      status = .QUEUED ∧ (s.jobById jobId).any fun job => .QUEUED ∈ VALID_TRANSITIONS job.status
  | .job (.archive _ _ _) => true
  | _ => false

def ThroughRetry (t : Timeline L) (e : Event L) : Prop := ¬ Bypasses t.world.store e.call

instance (t : Timeline L) (e : Event L) : Decidable (ThroughRetry t e) :=
  inferInstanceAs (Decidable (¬ _))

def Failed (status : JobStatus) : Bool := status = .FAILED

/-- The retries of the job are used up, and it stays with its last failure. -/
structure Ended (job : JobDispatch ℕ) : Prop where
  failed : job.status = .FAILED
  used : job.retryCount = MAX_RETRIES

/-- The entry records the end of its job. -/
structure Accounts (entry : DeadLetterEntry ℕ) (job : JobDispatch ℕ) : Prop where
  id : job.id = entry.jobId
  ended : Ended job
  retryCount : entry.retryCount = MAX_RETRIES
  originalPayload : entry.originalPayload = job.payloadRef

structure Limited (s : Store ℕ L) : Prop where
  distinct : s.Distinct
  retries : ∀ job ∈ s.jobs, job.retryCount ≤ MAX_RETRIES
  entries : ∀ entry ∈ s.deadLetters, ∃ job ∈ s.jobs, Accounts entry job

section Steps
variable {before : World ℕ L} {now : ℕ} {call : Call L} {u v : Store ℕ L} {job row : JobDispatch ℕ}

/-- Where no update queues a job, it is not asked to. -/
theorem not_queued_of_through {status : JobStatus} {resultRef errorMessage : Option String}
    (through : ¬ Bypasses before.store call)
    (called : call = .job (.update job.id status resultRef errorMessage))
    (current : before.store.jobById job.id = some job)
    (allowed : status ∈ VALID_TRANSITIONS job.status) : status ≠ .QUEUED := by
  rintro rfl
  refine through ?_
  rw [called]
  refine decide_eq_true ⟨rfl, ?_⟩
  rw [current]
  exact decide_eq_true allowed

theorem used_of_archives {later : ℕ} {errorMessage : String}
    (through : ¬ Bypasses before.store call) (archives : Archives call job later errorMessage) :
    ¬ shouldRetry job := by
  rcases archives with rfl | ⟨redis, -, used⟩
  · exact absurd rfl through
  · exact used

/-- The row keeps its count, or a retry that is left takes it from FAILED into the queue. -/
theorem Change.count (h : Change before now call job row) (through : ¬ Bypasses before.store call) :
    (row.retryCount = job.retryCount ∧ (job.status = .FAILED → row.status ≠ .QUEUED)) ∨
      (shouldRetry job ∧ job.status = .FAILED ∧ row.status = .QUEUED ∧
        row.retryCount = job.retryCount + 1) := by
  cases h with
  | same =>
      refine .inl ⟨rfl, fun failed => ?_⟩
      rw [failed]
      decide
  | updated called current allowed =>
      have other := not_queued_of_through through called current allowed
      exact .inl ⟨if_neg fun asked => other asked.1, fun _ => other⟩
  | cancelled => exact .inl ⟨rfl, fun _ => by rintro ⟨⟩⟩
  | failed => exact .inl ⟨rfl, fun _ => by rintro ⟨⟩⟩
  | requeued _ left failed =>
      refine .inr ⟨left, failed, rfl, ?_⟩
      exact if_pos ⟨rfl, .inl failed⟩
  | reassigned _ queued =>
      refine .inl ⟨rfl, fun failed => ?_⟩
      rw [queued] at failed
      cases failed
  | redistributed _ _ movable =>
      refine .inl ⟨rfl, fun failed => ?_⟩
      have waiting := movable_status movable
      rw [failed] at waiting
      exact absurd waiting (by decide)
  | archived =>
      obtain ⟨failed, -, count⟩ := job.archived_eq now _
      refine .inl ⟨count, fun _ => ?_⟩
      rw [failed]
      decide

theorem Change.countsFailed (h : Change before now call job row)
    (through : ¬ Bypasses before.store call) : CountsMove Failed job row := by
  unfold CountsMove Failed
  rcases h.count through with ⟨same, other⟩ | ⟨-, failed, queued, more⟩
  · rw [if_neg, same, Nat.add_zero]
    rw [Bool.and_eq_true, decide_eq_true_eq, decide_eq_true_eq]
    rintro ⟨failed, queued⟩
    exact other failed queued
  · rw [failed, queued, more]
    rfl

theorem Change.limited (h : Change before now call job row) (through : ¬ Bypasses before.store call)
    (limited : job.retryCount ≤ MAX_RETRIES) : row.retryCount ≤ MAX_RETRIES := by
  rcases h.count through with ⟨same, -⟩ | ⟨left, -, -, more⟩
  · rwa [same]
  · rw [more]
    exact of_decide_eq_true left

/-- A job at its end changes no more than its message. -/
theorem Change.ended (h : Change before now call job row) (through : ¬ Bypasses before.store call)
    (ended : Ended job) : Ended row ∧ row.payloadRef = job.payloadRef := by
  cases h with
  | same => exact ⟨ended, rfl⟩
  | updated called current allowed =>
      have other := not_queued_of_through through called current allowed
      rw [ended.failed] at allowed
      exact absurd (List.mem_singleton.mp allowed) other
  | cancelled _ waiting =>
      rw [ended.failed] at waiting
      exact absurd waiting (by decide)
  | failed _ allowed =>
      rw [ended.failed] at allowed
      exact absurd allowed (by decide)
  | requeued _ left =>
      have few := of_decide_eq_true left
      rw [ended.used] at few
      exact absurd few (lt_irrefl _)
  | reassigned _ queued =>
      rw [ended.failed] at queued
      cases queued
  | redistributed _ _ movable =>
      have waiting := movable_status movable
      rw [ended.failed] at waiting
      exact absurd waiting (by decide)
  | archived =>
      obtain ⟨failed, payload, count⟩ := job.archived_eq now _
      exact ⟨⟨failed, count.trans ended.used⟩, payload⟩

theorem Limited.flush (h : Limited u) (flush : Flush before now call u v)
    (through : ¬ Bypasses before.store call) (start : Limited before.store) : Limited v where
  distinct := flush.distinct h.distinct
  retries := by
    refine (flush.everyRow ⟨h.distinct, h.retries⟩ (fun _ _ change => change.limited through) ?_).2
    exact fun _ _ _ _ => Nat.zero_le _
  entries := by
    have kept : ∀ entry ∈ u.deadLetters, ∃ row ∈ v.jobs, Accounts entry row := by
      intro entry old
      obtain ⟨job, inside, accounts⟩ := h.entries entry old
      obtain ⟨row, member, change⟩ := flush.target inside
      obtain ⟨ended, payload⟩ := change.ended through accounts.ended
      exact ⟨row, member, change.id.trans accounts.id, ended, accounts.retryCount,
        accounts.originalPayload.trans payload.symm⟩
    rcases flush.deadLetters with same | ⟨job, entry, later, errorMessage, added, archived⟩
    · rw [same]
      exact kept
    · intro other member
      rw [added] at member
      rcases List.mem_append.mp member with old | new
      · exact kept other old
      · have here := (Store.jobById_eq_some archived.current).1
        have used : job.retryCount = MAX_RETRIES := by
          have left := used_of_archives through archived.archives
          have most := start.retries job here
          unfold shouldRetry at left
          rw [decide_eq_true_eq, not_lt] at left
          exact le_antisymm most left
        obtain ⟨failed, payload, count⟩ := job.archived_eq now errorMessage
        refine ⟨_, archived.row, ?_, ⟨failed, count.trans used⟩, ?_, ?_⟩
        · rw [List.mem_singleton.mp new, archived.entry]
          exact job.archived_id now errorMessage
        · rw [List.mem_singleton.mp new, archived.entry]
          exact used
        · rw [List.mem_singleton.mp new, archived.entry]
          exact payload.symm

end Steps

/-- Entries are not taken out of the archive. -/
def Keeping (u v : Store ℕ L) : Prop := ∀ entry ∈ u.deadLetters, entry ∈ v.deadLetters

theorem Flush.keeping {before : World ℕ L} {now : ℕ} {call : Call L} {u v : Store ℕ L}
    (flush : Flush before now call u v) : Keeping u v := by
  intro entry member
  rcases flush.deadLetters with same | ⟨_, _, _, _, added, -⟩
  · rwa [same]
  · rw [added]
    exact List.mem_append_left _ member

theorem Limited.retries_le {s : Store ℕ L} (h : Limited s) (jobId : Uuid) :
    s.retries jobId ≤ MAX_RETRIES := by
  unfold Store.retries
  cases found : s.jobById jobId with
  | none => exact Nat.zero_le _
  | some job => exact h.retries job (Store.jobById_eq_some found).1

/-- At every flush of the run, whatever moves a job from FAILED into the queue. -/
structure Timeline.Bounded (t : Timeline L) : Prop where
  limited : ∀ s ∈ t.world.store :: t.passed, Limited s
  requeues : ∀ jobId, steps (Requeued Failed jobId) t.world.store t.passed ≤ MAX_RETRIES
  kept : (t.world.store :: t.passed).Pairwise fun later earlier => Keeping earlier later

theorem bounded_of_run [LinearOrder L] [Zero L] [One L] {w : World ℕ L} {t : Timeline L}
    {es : List (Event L)} (run : Run Timeline.step ThroughRetry (.opening w) es t)
    (empty : w.store.jobs = []) (fresh : w.store.deadLetters = []) : t.Bounded := by
  have start : Limited w.store := by
    refine ⟨Store.distinct_of_empty empty, (rows_of_empty empty).2, ?_⟩
    · rw [fresh]
      exact fun entry member => absurd member List.not_mem_nil
  have path := Timeline.path_of_opening (I := Limited) (R := fun u v => Limited v ∧ Keeping u v ∧
    ∀ jobId, v.retries jobId = u.retries jobId + if Requeued Failed jobId u v then 1 else 0) run
    (fun s h => h.distinct) (fun _ _ h _ => h.1) (fun t e through here u v h flush =>
      ⟨h.flush flush through here, flush.keeping, flush.retries h.distinct fun job _ row change =>
        change.countsFailed through⟩) start
  constructor
  · exact path.all (fun _ _ h _ => h.1) start
  · intro jobId
    have counted := path.counts (f := fun s => s.retries jobId) fun u v h => h.2.2 jobId
    have most := (path.invariant (fun _ _ h _ => h.1) start).retries_le jobId
    omega
  · exact path.pairwise (fun _ _ _ first rest entry h => rest entry (first entry h))
      fun _ _ h => h.2.1

/-- Four failure reports, the last of which archives the job, and a cancellation. -/
def failingCalls : List (Event ℕ) :=
  [⟨1, .job (.dispatch true 7 "render" "s3://scene")⟩,
    ⟨2, .job (.retry true 3 7 "out of memory")⟩, ⟨4, .job (.retry true 5 7 "out of memory")⟩,
    ⟨6, .job (.retry true 7 7 "out of memory")⟩, ⟨8, .job (.retry true 9 7 "out of memory")⟩,
    ⟨10, .job (.cancel 7)⟩]

theorem bounded_of_run_failing : ∃ t : Timeline ℕ,
    Run Timeline.step ThroughRetry (.opening ⟨⟨twoNodes, [], [], []⟩, .new⟩) failingCalls t ∧
      t.world.store.deadLetters.length = 1 ∧ t.Bounded := by
  have accepted : (exec Timeline.step ThroughRetry
      (.opening ⟨⟨twoNodes, [], [], []⟩, .new⟩) failingCalls).any
      fun t => t.world.store.deadLetters.length = 1 := by decide +kernel
  obtain ⟨t, run, once⟩ := run_of_any accepted
  exact ⟨t, run, of_decide_eq_true once, bounded_of_run run rfl rfl⟩

end RenderTrust.Scheduler
