import RenderTrust.Scheduler.Retries

/-!
# The archive and the failures reported

A failure is reported through `schedule_retry`. The entry of a job in the archive holds
the new message and the one that is stored, at most.
-/
namespace RenderTrust.Scheduler
open Lib Lib.Hoare Lib.Keyed Lib.Runs Lib.Stages

variable {L : Type}

/-- The failure of the job that was reported and taken. -/
def Exchange.report (x : Exchange L) (jobId : Uuid) : Option String :=
  match x.call, x.answer with
  | .job (.retry _ _ id errorMessage), .ok (.job _) =>
      if id = jobId then some errorMessage else none
  | .job (.retry _ _ id errorMessage), .ok (.deadLetter _) =>
      if id = jobId then some errorMessage else none
  | _, _ => none

/-- The failures reported of a job, in order; `past` is the newest first. -/
def reports (jobId : Uuid) : List (Exchange L) → List String
  | [] => []
  | x :: past => reports jobId past ++ (x.report jobId).toList

/-- Every failed attempt is in the one entry of its job. -/
structure Timeline.Archive (t : Timeline L) : Prop where
  once : DistinctKeys DeadLetterEntry.jobId t.world.store.deadLetters
  complete : ∀ entry ∈ t.world.store.deadLetters,
    (reports entry.jobId t.past).Sublist entry.errorHistory

/-! ## What an entry can hold -/

/-- With the new message, `earlier` fit in the entry. -/
def Fits (job : JobDispatch ℕ) (errorMessage : String) : List String → Bool
  | [] => true
  | [earlier] => job.errorMessage = some earlier ∧ earlier ≠ "" ∧ earlier ≠ errorMessage
  | _ => false

theorem errorHistory_length (job : JobDispatch ℕ) (errorMessage : String) :
    (errorHistory job errorMessage).length ≤ 2 := by
  unfold errorHistory
  split
  · exact Nat.le_succ 1
  · split
    · exact le_rfl
    · exact Nat.le_succ 1

theorem mem_errorHistory (job : JobDispatch ℕ) (errorMessage : String) :
    errorMessage ∈ errorHistory job errorMessage := by
  unfold errorHistory
  split
  · exact List.mem_singleton_self _
  · split
    · exact List.mem_cons_of_mem _ (List.mem_singleton_self _)
    · exact List.mem_singleton_self _

/-- The earlier message is in front when it is stored and another one. -/
theorem errorHistory_eq_pair {job : JobDispatch ℕ} {errorMessage earlier : String} :
    errorHistory job errorMessage = [earlier, errorMessage] ↔
      job.errorMessage = some earlier ∧ earlier ≠ "" ∧ earlier ≠ errorMessage := by
  unfold errorHistory
  cases job.errorMessage with
  | none => simp
  | some old =>
      simp only [Option.some.injEq]
      split
      · rename_i other
        constructor
        · rintro same
          obtain rfl := (List.cons.inj same).1
          exact ⟨rfl, other⟩
        · rintro ⟨rfl, -⟩
          rfl
      · rename_i other
        constructor
        · rintro ⟨⟩
        · rintro ⟨rfl, differs⟩
          exact absurd differs other

/-- The entry takes exactly these. -/
theorem fits_iff {job : JobDispatch ℕ} {errorMessage : String} {earlier : List String} :
    Fits job errorMessage earlier ↔
      (earlier ++ [errorMessage]).Sublist (errorHistory job errorMessage) := by
  have short := errorHistory_length job errorMessage
  match earlier with
  | [] =>
      refine ⟨fun _ => ?_, fun _ => rfl⟩
      exact List.singleton_sublist.mpr (mem_errorHistory job errorMessage)
  | [first] =>
      unfold Fits
      rw [decide_eq_true_eq, ← errorHistory_eq_pair]
      constructor
      · intro same
        rw [same]
        exact List.Sublist.refl _
      · intro inside
        exact (inside.eq_of_length_le short).symm
  | first :: second :: rest =>
      constructor
      · rintro ⟨⟩
      · intro inside
        have long := inside.length_le
        simp only [List.length_append, List.length_cons] at long
        omega

/-! ## Runs that keep the history -/

/-- A report that archives its job finds no entry of it, and room for the earlier ones. -/
def KeepsHistory (t : Timeline L) : Call L → Bool
  | .job (.retry _ _ jobId errorMessage) =>
      (t.world.store.jobById jobId).all fun job =>
        (¬ shouldRetry job ∧ job.archivable errorMessage) →
          (t.world.store.deadLetters.all fun entry => entry.jobId ≠ jobId) ∧
            Fits job errorMessage (reports jobId t.past)
  | .job (.archive _ _ _) => false
  | _ => true

def Recorded (t : Timeline L) (e : Event L) : Prop := KeepsHistory t e.call

instance (t : Timeline L) (e : Event L) : Decidable (Recorded t e) :=
  inferInstanceAs (Decidable (_ = true))

section Served
variable {x : Exchange L} {now : ℕ} {call : Call L} {w : World ℕ L}

theorem Exchange.report_eq_none
    (other : ∀ redis later id errorMessage, x.call ≠ .job (.retry redis later id errorMessage))
    (jobId : Uuid) : x.report jobId = none := by
  unfold Exchange.report
  split
  · rename_i called _
    exact absurd called (other _ _ _ _)
  · rename_i called _
    exact absurd called (other _ _ _ _)
  · rfl

/-- What one exchange does to the archive and to the reports. -/
inductive Filed (w : World ℕ L) (call : Call L) (x : Exchange L) : Prop
  | kept (deadLetters : x.after.store.deadLetters = w.store.deadLetters)
      (left : ∀ jobId errorMessage, x.report jobId = some errorMessage →
        ∃ job, w.store.jobById jobId = some job ∧ shouldRetry job)
  | archived {redis : Bool} {later : ℕ} {job : JobDispatch ℕ} {errorMessage : String}
      (called : call = .job (.retry redis later job.id errorMessage))
      (current : w.store.jobById job.id = some job) (used : ¬ shouldRetry job)
      (archivable : job.archivable errorMessage)
      (deadLetters : x.after.store.deadLetters =
        w.store.deadLetters ++ [job.deadLetter later errorMessage])
      (report : ∀ jobId, x.report jobId = if job.id = jobId then some errorMessage else none)

variable [LinearOrder L]

theorem filed_retry (distinct : w.store.Distinct) (redis : Bool) (later : ℕ) (jobId : Uuid)
    (errorMessage : String) :
    Filed w (.job (.retry redis later jobId errorMessage))
      (serveJob now (.retry redis later jobId errorMessage) w) := by
  have ends := flushes_retry now redis later jobId errorMessage distinct (w.store, [])
    ⟨rfl, .start⟩
  cases ran : (JobCall.run now (.retry redis later jobId errorMessage)).run (w.store, []) with
  | ok answer p =>
      rw [ran] at ends
      rw [serveJob_ok ran]
      have answered := ends.1
      cases answer with
      | job record =>
          obtain ⟨job, found, left, deadLetters⟩ := answered
          refine .kept deadLetters fun id message reported => ?_
          change (if jobId = id then some errorMessage else none) = some message at reported
          split at reported
          · rename_i same
            exact ⟨job, same ▸ found, left⟩
          · cases reported
      | deadLetter entry =>
          obtain ⟨job, found, used, archivable, rfl, deadLetters⟩ := answered
          obtain rfl := (Store.jobById_eq_some found).2
          exact .archived rfl found used archivable deadLetters fun _ => rfl
      | absent =>
          refine .kept (congrArg Store.deadLetters answered) ?_
          rintro id message ⟨⟩
      | _ => exact answered.elim
  | error e p =>
      rw [ran] at ends
      rw [serveJob_error ran]
      split
      · refine .kept rfl ?_
        rintro id message ⟨⟩
      · rename_i stands
        refine .kept ?_ ?_
        · rcases ends.1 with same | refused
          · exact congrArg Store.deadLetters same
          · rw [refused] at stands
            exact absurd rfl stands
        · rintro id message ⟨⟩

/-- Only a retry, or a direct archive, adds an entry. -/
theorem filed_serve [Zero L] [One L] (now : ℕ) (call : Call L) (distinct : w.store.Distinct)
    (indirect : ∀ later jobId errorMessage, call ≠ .job (.archive later jobId errorMessage)) :
    Filed w call (serve now call w) := by
  by_cases retried : ∃ redis later jobId errorMessage,
      call = .job (.retry redis later jobId errorMessage)
  · obtain ⟨redis, later, jobId, errorMessage, rfl⟩ := retried
    exact filed_retry distinct redis later jobId errorMessage
  · have other : ∀ redis later id errorMessage,
        (serve now call w).call ≠ .job (.retry redis later id errorMessage) := by
      intro redis later id errorMessage same
      rw [(serve_asked now call w).2.1] at same
      exact retried ⟨redis, later, id, errorMessage, same⟩
    have path := path_serve now call distinct
    have kept := path.invariant (I := fun s => s.deadLetters = w.store.deadLetters) ?_ rfl
    · refine .kept kept fun jobId errorMessage reported => ?_
      rw [Exchange.report_eq_none other] at reported
      cases reported
    · intro u v flush same
      rcases flush.deadLetters with keeps | ⟨job, entry, later, errorMessage, -, archived⟩
      · exact keeps.trans same
      · rcases archived.archives with direct | ⟨redis, called, -⟩
        · exact absurd direct (indirect later job.id errorMessage)
        · exact absurd ⟨redis, later, job.id, errorMessage, called⟩ retried

end Served

/-- The retries of the job are used up. -/
def Spent (jobId : Uuid) (s : Store ℕ L) : Prop :=
  ∃ job ∈ s.jobs, job.id = jobId ∧ ¬ shouldRetry job

theorem Spent.flush {before : World ℕ L} {now : ℕ} {call : Call L} {u v : Store ℕ L} {jobId : Uuid}
    (flush : Flush before now call u v) (h : Spent jobId u) : Spent jobId v := by
  obtain ⟨job, inside, same, used⟩ := h
  obtain ⟨row, member, change⟩ := flush.target inside
  refine ⟨row, member, change.id.trans same, fun left => used ?_⟩
  exact decide_eq_true (change.retryCount_le.trans_lt (of_decide_eq_true left))

/-- A job that is spent has no more retries. -/
theorem Spent.not_left {s : Store ℕ L} {jobId : Uuid} (h : Spent jobId s) (distinct : s.Distinct)
    {job : JobDispatch ℕ} (found : s.jobById jobId = some job) : ¬ shouldRetry job := by
  obtain ⟨row, member, rfl, used⟩ := h
  rw [distinct.jobById member] at found
  cases found
  exact used

structure Archiving (t : Timeline L) : Prop where
  distinct : t.world.store.Distinct
  archive : t.Archive
  spent : ∀ entry ∈ t.world.store.deadLetters, Spent entry.jobId t.world.store

section Step
variable [LinearOrder L] [Zero L] [One L] {t : Timeline L} {e : Event L}

theorem Archiving.kept (h : Archiving t)
    (deadLetters : (serve e.now e.call t.world).after.store.deadLetters =
      t.world.store.deadLetters)
    (left : ∀ jobId errorMessage, (serve e.now e.call t.world).report jobId = some errorMessage →
      ∃ job, t.world.store.jobById jobId = some job ∧ shouldRetry job) :
    Timeline.Archive ⟨(serve e.now e.call t.world).after,
      serve e.now e.call t.world :: t.past⟩ where
  once := by
    rw [deadLetters]
    exact h.archive.once
  complete := by
    intro entry member
    rw [deadLetters] at member
    have unreported : (serve e.now e.call t.world).report entry.jobId = none := by
      cases reported : (serve e.now e.call t.world).report entry.jobId with
      | none => rfl
      | some errorMessage =>
          obtain ⟨job, found, more⟩ := left _ _ reported
          exact absurd more ((h.spent entry member).not_left h.distinct found)
    rw [reports, unreported, Option.toList_none, List.append_nil]
    exact h.archive.complete entry member

theorem Archiving.archived (h : Archiving t) (recorded : Recorded t e) {redis : Bool} {later : ℕ}
    {job : JobDispatch ℕ} {errorMessage : String}
    (called : e.call = .job (.retry redis later job.id errorMessage))
    (current : t.world.store.jobById job.id = some job) (used : ¬ shouldRetry job)
    (archivable : job.archivable errorMessage)
    (deadLetters : (serve e.now e.call t.world).after.store.deadLetters =
      t.world.store.deadLetters ++ [job.deadLetter later errorMessage])
    (report : ∀ jobId, (serve e.now e.call t.world).report jobId =
      if job.id = jobId then some errorMessage else none) :
    Timeline.Archive ⟨(serve e.now e.call t.world).after,
      serve e.now e.call t.world :: t.past⟩ := by
  have room : (∀ entry ∈ t.world.store.deadLetters, entry.jobId ≠ job.id) ∧
      Fits job errorMessage (reports job.id t.past) := by
    unfold Recorded at recorded
    rw [called, KeepsHistory, current, Option.all_some, decide_eq_true_eq] at recorded
    obtain ⟨others, fits⟩ := recorded ⟨used, archivable⟩
    refine ⟨fun entry member => ?_, fits⟩
    exact of_decide_eq_true (List.all_eq_true.mp others entry member)
  constructor
  · rw [deadLetters]
    refine h.archive.once.append_singleton fun present => ?_
    obtain ⟨entry, member, same⟩ := List.mem_map.mp present
    exact room.1 entry member same
  · intro entry member
    rw [deadLetters] at member
    rcases List.mem_append.mp member with old | new
    · have other : job.id ≠ entry.jobId := (room.1 entry old).symm
      rw [reports, report, if_neg other, Option.toList_none, List.append_nil]
      exact h.archive.complete entry old
    · rw [List.mem_singleton.mp new]
      change (reports job.id _).Sublist (errorHistory job errorMessage)
      rw [reports, report, if_pos rfl, Option.toList_some]
      exact fits_iff.mp room.2

theorem Archiving.step (h : Archiving t) (recorded : Recorded t e) :
    Archiving ⟨(serve e.now e.call t.world).after, serve e.now e.call t.world :: t.past⟩ := by
  have path := path_serve e.now e.call h.distinct
  have indirect : ∀ later jobId errorMessage,
      e.call ≠ .job (.archive later jobId errorMessage) := by
    intro later jobId errorMessage called
    unfold Recorded at recorded
    rw [called] at recorded
    cases recorded
  have spends : ∀ jobId, Spent jobId t.world.store →
      Spent jobId (serve e.now e.call t.world).after.store := fun jobId =>
    path.invariant fun _ _ flush => Spent.flush flush
  have distinct := path.invariant (fun _ _ flush => flush.distinct) h.distinct
  cases filed_serve e.now e.call h.distinct indirect with
  | kept deadLetters left =>
      refine ⟨distinct, h.kept deadLetters left, fun entry member => ?_⟩
      rw [deadLetters] at member
      exact spends _ (h.spent entry member)
  | archived called current used archivable deadLetters report =>
      refine ⟨distinct, h.archived recorded called current used archivable deadLetters report, ?_⟩
      intro entry member
      rw [deadLetters] at member
      refine spends _ ?_
      rcases List.mem_append.mp member with old | new
      · exact h.spent entry old
      · rw [List.mem_singleton.mp new]
        exact ⟨_, (Store.jobById_eq_some current).1, rfl, used⟩

theorem archive_of_run {w : World ℕ L} {es : List (Event L)}
    (run : Run Timeline.step Recorded (.opening w) es t) (empty : w.store.jobs = [])
    (fresh : w.store.deadLetters = []) : t.Archive := by
  have none : (Timeline.opening w).world.store.deadLetters = [] := fresh
  have start : Archiving (.opening w) := by
    refine ⟨Store.distinct_of_empty empty, ⟨?_, ?_⟩, ?_⟩
    · rw [none]
      exact List.nodup_nil
    · rw [none]
      exact fun entry member => absurd member List.not_mem_nil
    · rw [none]
      exact fun entry member => absurd member List.not_mem_nil
  have archiving := run.invariant (I := Archiving) ?_ start
  · exact archiving.archive
  · rintro t e _ h recorded ⟨⟩
    exact h.step recorded

end Step

/-- The retries are used up by status updates; the only report archives the job. -/
def updatedCalls : List (Event ℕ) :=
  [⟨1, .job (.dispatch true 7 "render" "s3://scene")⟩, ⟨2, .job (.update 7 .QUEUED none none)⟩,
    ⟨3, .job (.update 7 .DISPATCHED none none)⟩, ⟨4, .job (.update 7 .QUEUED none none)⟩,
    ⟨5, .job (.update 7 .DISPATCHED none none)⟩, ⟨6, .job (.update 7 .QUEUED none none)⟩,
    ⟨7, .job (.retry true 8 7 "out of memory")⟩]

theorem archive_of_run_updated : ∃ t : Timeline ℕ,
    Run Timeline.step Recorded (.opening ⟨⟨twoNodes, [], [], []⟩, .new⟩) updatedCalls t ∧
      t.world.store.deadLetters.length = 1 ∧ t.Archive := by
  have accepted : (exec Timeline.step Recorded
      (.opening ⟨⟨twoNodes, [], [], []⟩, .new⟩) updatedCalls).any
      fun t => t.world.store.deadLetters.length = 1 := by decide +kernel
  obtain ⟨t, run, once⟩ := run_of_any accepted
  exact ⟨t, run, of_decide_eq_true once, archive_of_run run rfl rfl⟩

/-- Four failures, and the last report once more. -/
def repeatedCalls : List (Event ℕ) :=
  [⟨1, .job (.dispatch true 7 "render" "s3://scene")⟩, ⟨2, .job (.retry true 3 7 "out of memory")⟩,
    ⟨4, .job (.retry true 5 7 "disk full")⟩, ⟨6, .job (.retry true 7 7 "timeout")⟩,
    ⟨8, .job (.retry true 9 7 "node lost")⟩, ⟨10, .job (.retry true 11 7 "node lost")⟩]

/-- The job has two entries, and neither holds the first two failures. -/
theorem not_archive_repeated : ∃ t : Timeline ℕ,
    Run Timeline.step Always (.opening ⟨⟨twoNodes, [], [], []⟩, .new⟩) repeatedCalls t ∧
      ¬ DistinctKeys DeadLetterEntry.jobId t.world.store.deadLetters ∧
      ∀ entry ∈ t.world.store.deadLetters,
        ¬ (reports entry.jobId t.past).Sublist entry.errorHistory := by
  have accepted : (exec Timeline.step Always
      (.opening ⟨⟨twoNodes, [], [], []⟩, .new⟩) repeatedCalls).any fun t =>
      ¬ (t.world.store.deadLetters.map DeadLetterEntry.jobId).Nodup ∧
        ∀ entry ∈ t.world.store.deadLetters,
          ¬ (reports entry.jobId t.past).Sublist entry.errorHistory := by decide +kernel
  obtain ⟨t, run, bad⟩ := run_of_any accepted
  obtain ⟨twice, missing⟩ := of_decide_eq_true bad
  exact ⟨t, run, twice, missing⟩

end RenderTrust.Scheduler
