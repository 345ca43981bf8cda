import Mathlib.Logic.Function.Basic
import RenderTrust.Lib.Runs
import RenderTrust.Scheduler.Models

/-!
# The hook `useJob` of `hooks/useJobs.ts`

Each effect that loads the job has a flag of its own, which its cleanup sets; an interval that
runs while the job that is shown is active starts such an effect anew. A job at the server goes
through versions, and a load is answered with the version the server then has. Times are in
milliseconds, and the interval fires when it is due, never later.
-/
namespace RenderTrust.Frontend.Jobs
open Lib.Runs Scheduler

def POLL_INTERVAL_MS : ℕ := 5000

def isJobActive : JobStatus → Bool
  | .QUEUED | .DISPATCHED | .RUNNING => true
  | .COMPLETED | .FAILED => false

/-- A call of `load`, with the `cancelled` of its effect and what the server has answered. -/
structure Load where
  id : ℕ
  jobId : String
  started : ℕ
  cancelled : Bool
  answer : Option (Except String ℕ)

/-- The hook beside the versions that the server has of each job. `displays` are the jobs that
were set, with their versions, newest first. -/
structure Hook where
  now : ℕ
  version : String → ℕ
  mounted : Bool
  jobId : Option String
  displays : List (String × ℕ)
  error : Option String
  isLoading : Bool
  interval : Option ℕ
  effect : Option ℕ
  started : ℕ
  loads : List Load

inductive Event where
  | elapse (later : ℕ)
  | change (jobId : String)
  | serve (id : ℕ)
  | fail (id : ℕ) (detail : String)
  | arrive (id : ℕ)
  | tick
  | refetch
  | navigate (jobId : Option String)
  | unmount
  deriving DecidableEq, Repr

namespace Hook

def job (s : Hook) : Option (String × ℕ) := s.displays.head?

/-- `cancelled = true`, in the effect that runs. -/
def cleanup (s : Hook) : Hook :=
  { s with
    effect := none
    loads := s.loads.map fun l => if s.effect = some l.id then { l with cancelled := true } else l }

/-- The effect on `[jobId, tick]`. -/
def runEffect (s : Hook) : Hook :=
  match s.jobId.filter (· ≠ "") with
  | none => { s with isLoading := false }
  | some jobId =>
      { s with
        effect := some s.started
        started := s.started + 1
        loads := ⟨s.started, jobId, s.now, false, none⟩ :: s.loads }

def rerun (s : Hook) : Hook := s.cleanup.runEffect

section Intervals
variable (status : String → ℕ → JobStatus)

def isActive (s : Hook) : Bool := s.job.any fun shown => isJobActive (status shown.1 shown.2)

/-- The effect on `[job]`, which runs anew with every job that is set. -/
def runInterval (s : Hook) : Hook :=
  { s with interval := if s.isActive status then some (s.now + POLL_INTERVAL_MS) else none }

/-- What is left of `load` once its request is answered. -/
def settle (s : Hook) (l : Load) : Except String ℕ → Hook
  | .ok version =>
      if l.cancelled then s
      else
        runInterval status
          { s with displays := (l.jobId, version) :: s.displays, error := none, isLoading := false }
  | .error detail =>
      if l.cancelled then s
      else
        { s with
          error := some (if detail = "" then "Failed to load job" else detail)
          isLoading := false }

def answered (s : Hook) (id : ℕ) (answer : Load → Except String ℕ) : Hook :=
  { s with
    loads := s.loads.map fun l =>
      if l.id = id ∧ l.answer.isNone then { l with answer := some (answer l) } else l }

def step (s : Hook) : Event → Option Hook
  | .elapse later =>
      if s.now ≤ later ∧ s.interval.all (later ≤ ·) then some { s with now := later } else none
  | .change jobId =>
      some { s with version := Function.update s.version jobId (s.version jobId + 1) }
  | .serve id => some (s.answered id fun l => .ok (s.version l.jobId))
  | .fail id detail => some (s.answered id fun _ => .error detail)
  | .arrive id =>
      match s.loads.find? (fun l => l.id = id ∧ l.answer.isSome) with
      | none => none
      | some l =>
          l.answer.map
            ({ s with loads := s.loads.filter fun other => other.id ≠ id }.settle status l)
  | .tick =>
      if s.interval = some s.now then
        some (rerun { s with interval := some (s.now + POLL_INTERVAL_MS) })
      else none
  | .refetch => if s.mounted then some s.rerun else none
  | .navigate jobId =>
      if s.mounted ∧ jobId ≠ s.jobId then some (rerun { s with jobId }) else none
  | .unmount =>
      if s.mounted then some { s.cleanup with mounted := false, interval := none } else none

end Intervals

def mount (jobId : Option String) (now : ℕ) (version : String → ℕ) : Hook :=
  runEffect
    { now
      version
      mounted := true
      jobId
      displays := []
      error := none
      isLoading := true
      interval := none
      effect := none
      started := 0
      loads := [] }

end Hook

/-! ## What is shown -/

namespace Hook
variable {status : String → ℕ → JobStatus} {s t : Hook}

/-- The jobs that are set do not go back, and the interval runs exactly while the last is active. -/
structure Orderly (status : String → ℕ → JobStatus) (s : Hook) : Prop where
  known : ∀ shown ∈ s.displays, shown.2 ≤ s.version shown.1
  forward : s.displays.Pairwise fun newer older => newer.1 = older.1 → older.2 ≤ newer.2
  polls : s.interval.isSome ↔ s.mounted ∧ s.isActive status
  punctual : ∀ due ∈ s.interval, s.now ≤ due ∧ due ≤ s.now + POLL_INTERVAL_MS

/-- A load that is not cancelled is of the effect that runs. What it has been answered is not older
than what was shown, and the interval fires before it is older than a period. -/
structure Live (s : Hook) (l : Load) : Prop where
  effect : s.effect = some l.id
  jobId : s.jobId = some l.jobId
  mounted : s.mounted = true
  ahead : ∀ version, l.answer = some (.ok version) → version ≤ s.version l.jobId ∧
    ∀ shown ∈ s.displays, shown.1 = l.jobId → shown.2 ≤ version
  due : ∀ due ∈ s.interval, due ≤ l.started + POLL_INTERVAL_MS

structure Sound (status : String → ℕ → JobStatus) (s : Hook) : Prop where
  orderly : s.Orderly status
  live : ∀ l ∈ s.loads, l.cancelled = false → s.Live l

theorem cancelled_cleanup (own : ∀ l ∈ s.loads, l.cancelled = false → s.effect = some l.id) :
    ∀ l ∈ s.cleanup.loads, l.cancelled = true := by
  intro l member
  obtain ⟨l, old, rfl⟩ := List.mem_map.mp member
  by_cases running : s.effect = some l.id
  · rw [if_pos running]
  · rw [if_neg running]
    cases fate : l.cancelled with
    | true => rfl
    | false => exact absurd (own l old fate) running

theorem Orderly.sound (orderly : s.Orderly status) (quiet : ∀ l ∈ s.loads, l.cancelled = true) :
    s.Sound status := by
  refine ⟨orderly, ?_⟩
  intro l member running
  rw [quiet l member] at running
  cases running

theorem Orderly.runEffect (orderly : s.Orderly status) (mounted : s.mounted = true)
    (quiet : ∀ l ∈ s.loads, l.cancelled = true) : s.runEffect.Sound status := by
  unfold Hook.runEffect
  cases wanted : s.jobId.filter (· ≠ "") with
  | none =>
      have same : ({ s with isLoading := false } : Hook).Orderly status :=
        ⟨orderly.known, orderly.forward, orderly.polls, orderly.punctual⟩
      exact same.sound quiet
  | some jobId =>
      refine ⟨⟨orderly.known, orderly.forward, orderly.polls, orderly.punctual⟩, ?_⟩
      intro l member running
      rcases List.mem_cons.mp member with rfl | member
      · constructor
        · rfl
        · exact (Option.filter_eq_some_iff.mp wanted).1
        · exact mounted
        · intro version answered
          cases answered
        · intro due set
          exact (orderly.punctual due set).2
      · rw [quiet l member] at running
        cases running

theorem Sound.own (sound : s.Sound status) :
    ∀ l ∈ s.loads, l.cancelled = false → s.effect = some l.id :=
  fun l member running => (sound.live l member running).effect

theorem Sound.subset (sound : s.Sound status) (loads : List Load) (sub : loads ⊆ s.loads) :
    ({ s with loads } : Hook).Sound status := by
  obtain ⟨orderly, live⟩ := sound
  refine ⟨⟨orderly.known, orderly.forward, orderly.polls, orderly.punctual⟩, ?_⟩
  intro l member running
  obtain ⟨effect, jobId, mounted, ahead, due⟩ := live l (sub member) running
  exact ⟨effect, jobId, mounted, ahead, due⟩

/-- An answer is the version of the server, or none of it. -/
theorem Sound.answered (sound : s.Sound status) (id : ℕ) {answer : Load → Except String ℕ}
    (current : ∀ l version, answer l = .ok version → version = s.version l.jobId) :
    (s.answered id answer).Sound status := by
  obtain ⟨orderly, live⟩ := sound
  refine ⟨⟨orderly.known, orderly.forward, orderly.polls, orderly.punctual⟩, ?_⟩
  intro l member running
  obtain ⟨l, old, rfl⟩ := List.mem_map.mp member
  by_cases answers : l.id = id ∧ l.answer.isNone
  · rw [if_pos answers] at running ⊢
    obtain ⟨effect, jobId, mounted, -, due⟩ := live l old running
    refine ⟨effect, jobId, mounted, ?_, due⟩
    intro version given
    rw [current l version (Option.some.inj given)]
    refine ⟨le_rfl, ?_⟩
    intro shown member same
    have known := orderly.known shown member
    rw [same] at known
    exact known
  · rw [if_neg answers] at running ⊢
    obtain ⟨effect, jobId, mounted, ahead, due⟩ := live l old running
    exact ⟨effect, jobId, mounted, ahead, due⟩

theorem Sound.elapse (sound : s.Sound status) {later : ℕ} (forth : s.now ≤ later)
    (before : s.interval.all (later ≤ ·)) : ({ s with now := later } : Hook).Sound status := by
  obtain ⟨orderly, live⟩ := sound
  constructor
  · refine ⟨orderly.known, orderly.forward, orderly.polls, ?_⟩
    intro due set
    have mayWait := (Option.all_eq_true _ _).mp before due set
    have near := (orderly.punctual due set).2
    exact ⟨of_decide_eq_true mayWait, near.trans (Nat.add_le_add_right forth _)⟩
  · intro l member running
    obtain ⟨effect, jobId, mounted, ahead, due⟩ := live l member running
    exact ⟨effect, jobId, mounted, ahead, due⟩

theorem Sound.change (sound : s.Sound status) (jobId : String) :
    ({ s with version := Function.update s.version jobId (s.version jobId + 1) } : Hook).Sound
      status := by
  obtain ⟨orderly, live⟩ := sound
  have grows : ∀ other, s.version other ≤
      Function.update s.version jobId (s.version jobId + 1) other := by
    intro other
    by_cases same : other = jobId
    · subst same
      rw [Function.update_self]
      exact Nat.le_succ _
    · rw [Function.update_of_ne same]
  constructor
  · refine ⟨?_, orderly.forward, orderly.polls, orderly.punctual⟩
    intro shown member
    exact (orderly.known shown member).trans (grows shown.1)
  · intro l member running
    obtain ⟨effect, jobId, mounted, ahead, due⟩ := live l member running
    refine ⟨effect, jobId, mounted, ?_, due⟩
    intro version answered
    exact ⟨(ahead version answered).1.trans (grows _), (ahead version answered).2⟩

/-- The other loads of a load that is not cancelled are. -/
theorem Sound.others (sound : s.Sound status) {l : Load} (member : l ∈ s.loads)
    (running : l.cancelled = false) :
    ∀ other ∈ s.loads.filter (fun other : Load => other.id ≠ l.id), other.cancelled = true := by
  intro other kept
  obtain ⟨old, differs⟩ := List.mem_filter.mp kept
  cases fate : other.cancelled with
  | true => rfl
  | false =>
      have same := (sound.own other old fate).symm.trans (sound.own l member running)
      exact absurd (Option.some.inj same) (of_decide_eq_true differs)

theorem Sound.settle (sound : s.Sound status) {l : Load} (member : l ∈ s.loads)
    {answer : Except String ℕ} (answered : l.answer = some answer) :
    (({ s with loads := s.loads.filter fun other => other.id ≠ l.id } : Hook).settle status l
      answer).Sound status := by
  have rest := sound.subset (s.loads.filter fun other => other.id ≠ l.id)
    fun _ kept => List.mem_of_mem_filter kept
  cases fate : l.cancelled with
  | true =>
      cases answer <;>
        · simp only [Hook.settle, fate, if_true]
          exact rest
  | false =>
      have quiet := sound.others member fate
      obtain ⟨effect, jobId, mounted, ahead, due⟩ := sound.live l member fate
      cases answer with
      | error detail =>
          simp only [Hook.settle, fate, Bool.false_eq_true, if_false]
          obtain ⟨orderly, live⟩ := rest
          have same := orderly
          apply Orderly.sound _ quiet
          exact ⟨same.known, same.forward, same.polls, same.punctual⟩
      | ok version =>
          simp only [Hook.settle, fate, Bool.false_eq_true, if_false]
          obtain ⟨fresh, newest⟩ := ahead version answered
          apply Orderly.sound _ quiet
          constructor
          · intro shown displayed
            rcases List.mem_cons.mp displayed with rfl | displayed
            · exact fresh
            · exact sound.orderly.known shown displayed
          · apply List.Pairwise.cons _ sound.orderly.forward
            intro older displayed same
            exact newest older displayed same.symm
          · simp only [runInterval]
            split
            · rename_i active
              simp only [Option.isSome_some, true_iff]
              exact ⟨mounted, active⟩
            · rename_i inactive
              simp only [Option.isSome_none, Bool.false_eq_true, false_iff]
              exact fun both => inactive both.2
          · intro due set
            simp only [runInterval] at set
            split at set
            · obtain rfl := Option.some.inj set
              exact ⟨Nat.le_add_right _ _, le_rfl⟩
            · cases set

theorem Orderly.cleanup (orderly : s.Orderly status) : s.cleanup.Orderly status :=
  ⟨orderly.known, orderly.forward, orderly.polls, orderly.punctual⟩

theorem Sound.rerun (sound : s.Sound status) (mounted : s.mounted = true) :
    s.rerun.Sound status :=
  sound.orderly.cleanup.runEffect mounted (cancelled_cleanup sound.own)

theorem Sound.tick (sound : s.Sound status) (fires : s.interval = some s.now) :
    (Hook.rerun { s with interval := some (s.now + POLL_INTERVAL_MS) }).Sound status := by
  have polls : s.mounted ∧ s.isActive status := by
    rw [← sound.orderly.polls, fires]
    rfl
  have orderly := sound.orderly
  let waiting : Hook := { s with interval := some (s.now + POLL_INTERVAL_MS) }
  have quiet : ∀ l ∈ waiting.cleanup.loads, l.cancelled = true := cancelled_cleanup sound.own
  have later : waiting.cleanup.Orderly status := by
    refine ⟨orderly.known, orderly.forward, iff_of_true rfl polls, ?_⟩
    intro due set
    obtain rfl := Option.some.inj set
    exact ⟨Nat.le_add_right _ _, le_rfl⟩
  exact later.runEffect polls.1 quiet

theorem Sound.unmount (sound : s.Sound status) :
    ({ s.cleanup with mounted := false, interval := none } : Hook).Sound status := by
  have orderly := sound.orderly
  apply Orderly.sound (s := { s.cleanup with mounted := false, interval := none }) _
    (cancelled_cleanup sound.own)
  constructor
  · exact orderly.known
  · exact orderly.forward
  · simp only [Option.isSome_none, Bool.false_eq_true, false_and]
  · intro due set
    cases set

theorem Sound.step (sound : s.Sound status) {event : Event}
    (stepped : Hook.step status s event = some t) : t.Sound status := by
  cases event with
  | elapse later =>
      obtain ⟨⟨forth, before⟩, ⟨⟩⟩ := Option.ite_none_right_eq_some.mp stepped
      exact sound.elapse forth before
  | change jobId =>
      obtain rfl := Option.some.inj stepped
      exact sound.change jobId
  | serve id =>
      obtain rfl := Option.some.inj stepped
      apply sound.answered id
      intro l version answer
      exact (Except.ok.inj answer).symm
  | fail id detail =>
      obtain rfl := Option.some.inj stepped
      apply sound.answered id
      intro l version answer
      cases answer
  | arrive id =>
      simp only [Hook.step] at stepped
      split at stepped
      · cases stepped
      · rename_i l found
        obtain ⟨answer, answered, rfl⟩ := Option.map_eq_some_iff.mp stepped
        have matched := List.find?_some found
        obtain ⟨rfl, -⟩ := of_decide_eq_true matched
        exact sound.settle (List.mem_of_find?_eq_some found) answered
  | tick =>
      obtain ⟨fires, ⟨⟩⟩ := Option.ite_none_right_eq_some.mp stepped
      exact sound.tick fires
  | refetch =>
      obtain ⟨mounted, ⟨⟩⟩ := Option.ite_none_right_eq_some.mp stepped
      exact sound.rerun mounted
  | navigate jobId =>
      obtain ⟨⟨mounted, -⟩, ⟨⟩⟩ := Option.ite_none_right_eq_some.mp stepped
      have orderly := sound.orderly
      let elsewhere : Hook := { s with jobId }
      have quiet : ∀ l ∈ elsewhere.cleanup.loads, l.cancelled = true := cancelled_cleanup sound.own
      have same : elsewhere.cleanup.Orderly status :=
        ⟨orderly.known, orderly.forward, orderly.polls, orderly.punctual⟩
      exact same.runEffect mounted quiet
  | unmount =>
      obtain ⟨-, ⟨⟩⟩ := Option.ite_none_right_eq_some.mp stepped
      exact sound.unmount

theorem sound_mount (jobId : Option String) (now : ℕ) (version : String → ℕ) :
    (mount jobId now version).Sound status := by
  unfold mount
  apply Orderly.runEffect _ rfl
  · intro l member
    cases member
  · constructor
    · intro shown member
      cases member
    · exact .nil
    · simp [isActive, job]
    · intro due set
      cases set

theorem sound_of_run {jobId : Option String} {now : ℕ} {version : String → ℕ} {events : List Event}
    (run : Run (Hook.step status) Always (mount jobId now version) events t) : t.Sound status := by
  apply Run.invariant (I := Sound status) _ run (sound_mount jobId now version)
  intro s event t sound _ stepped
  exact sound.step stepped

/-- The jobs that `useJob` sets do not go back to an older version, whatever the order in which
the answers arrive, and it polls exactly while it shows an active job. -/
theorem orderly_of_run {jobId : Option String} {now : ℕ} {version : String → ℕ}
    {events : List Event}
    (run : Run (Hook.step status) Always (mount jobId now version) events t) :
    t.Orderly status :=
  (sound_of_run run).orderly

/-- A job that is queued, then runs, then is completed. -/
def soon (_ : String) : ℕ → JobStatus
  | 0 => .QUEUED
  | 1 => .RUNNING
  | _ => .COMPLETED

/-- The job is shown once it is completed, and the answer to a load before that is ignored. -/
def overtaken : List Event :=
  [.serve 0, .elapse 200, .arrive 0, .elapse 5200, .tick, .serve 1, .change "j", .change "j",
    .refetch, .serve 2, .elapse 5300, .arrive 2, .arrive 1]

theorem orderly_overtaken : ∃ t : Hook,
    Run (Hook.step soon) Always (mount (some "j") 0 fun _ => 0) overtaken t ∧
      t.displays = [("j", 2), ("j", 0)] ∧ t.Orderly soon := by
  have shows : (exec (Hook.step soon) Always (mount (some "j") 0 fun _ => 0) overtaken).any
      fun t => t.displays = [("j", 2), ("j", 0)] := by decide
  obtain ⟨t, run, shown⟩ := run_of_any shows
  exact ⟨t, run, of_decide_eq_true shown, orderly_of_run run⟩

/-! ## Slow answers -/

theorem displays_rerun (s : Hook) : s.rerun.displays = s.displays := by
  unfold rerun runEffect
  cases s.cleanup.jobId.filter (· ≠ "") <;> rfl

/-- An answer arrives later than a period after its request. -/
def Slow (s : Hook) : Event → Prop
  | .arrive id => ∀ l ∈ s.loads, l.id = id → l.started + POLL_INTERVAL_MS < s.now
  | _ => True

instance (s : Hook) (event : Event) : Decidable (Slow s event) :=
  match event with
  | .arrive id => inferInstanceAs (Decidable (∀ l ∈ s.loads, l.id = id → _))
  | .elapse _ | .change _ | .serve _ | .fail _ _ | .tick | .refetch | .navigate _ | .unmount =>
      inferInstanceAs (Decidable True)

/-- The interval cancels a load before a slow answer to it. -/
theorem Sound.displays_step (sound : s.Sound status) (active : s.isActive status = true)
    {event : Event} (slow : Slow s event) (stepped : Hook.step status s event = some t) :
    t.displays = s.displays := by
  cases event with
  | elapse later =>
      obtain ⟨-, ⟨⟩⟩ := Option.ite_none_right_eq_some.mp stepped
      rfl
  | change | serve | fail =>
      obtain rfl := Option.some.inj stepped
      rfl
  | arrive id =>
      simp only [Hook.step] at stepped
      split at stepped
      · cases stepped
      · rename_i l found
        obtain ⟨answer, answered, rfl⟩ := Option.map_eq_some_iff.mp stepped
        have member := List.mem_of_find?_eq_some found
        have matched := List.find?_some found
        have late := slow l member (of_decide_eq_true matched).1
        have cancelled : l.cancelled = true := by
          by_contra running
          have live := sound.live l member (Bool.not_eq_true _ ▸ running)
          obtain ⟨due, set⟩ := Option.isSome_iff_exists.mp
            (sound.orderly.polls.mpr ⟨live.mounted, active⟩)
          have soon := (sound.orderly.punctual due set).1
          have early := live.due due set
          omega
        cases answer <;> simp only [Hook.settle, cancelled, if_true]
  | tick | refetch | navigate =>
      obtain ⟨-, ⟨⟩⟩ := Option.ite_none_right_eq_some.mp stepped
      exact displays_rerun _
  | unmount =>
      obtain ⟨-, ⟨⟩⟩ := Option.ite_none_right_eq_some.mp stepped
      rfl

/-- Once an active job is shown, answers that take longer than a period are all thrown away: the
job that is shown stays as it is, whatever becomes of it at the server. -/
theorem frozen_of_run {jobId : Option String} {now : ℕ} {version : String → ℕ}
    {before after : List Event}
    (opening : Run (Hook.step status) Always (mount jobId now version) before s)
    (active : s.isActive status = true) (run : Run (Hook.step status) Slow s after t) :
    t.displays = s.displays := by
  have kept : t.Sound status ∧ t.displays = s.displays := by
    apply Run.invariant (I := fun u : Hook => u.Sound status ∧ u.displays = s.displays) _ run
      ⟨sound_of_run opening, rfl⟩
    rintro u event v ⟨sound, same⟩ slow stepped
    have still : u.isActive status = true := by
      rw [isActive, job, same]
      exact active
    exact ⟨sound.step stepped, (sound.displays_step still slow stepped).trans same⟩
  exact kept.2

def opened : List Event := [.serve 0, .elapse 200, .arrive 0]

/-- The job is completed at once, and every answer takes longer than a period. -/
def slowAnswers : List Event :=
  [.change "j", .change "j", .elapse 5200, .tick, .serve 1, .elapse 10200, .tick, .serve 2,
    .elapse 10300, .arrive 1, .elapse 15200, .tick, .elapse 15300, .arrive 2]

theorem isSome_opened :
    (exec (Hook.step soon) Always (mount (some "j") 0 fun _ => 0) opened).isSome := by decide

def firstShown : Hook := (exec (Hook.step soon) Always (mount (some "j") 0 fun _ => 0) opened).get
  isSome_opened

theorem frozen_slowAnswers : ∃ t : Hook,
    Run (Hook.step soon) Always (mount (some "j") 0 fun _ => 0) opened firstShown ∧
      Run (Hook.step soon) Slow firstShown slowAnswers t ∧ firstShown.job = some ("j", 0) ∧
      soon "j" (t.version "j") = .COMPLETED ∧ t.displays = firstShown.displays := by
  have opening : Run (Hook.step soon) Always (mount (some "j") 0 fun _ => 0) opened firstShown :=
    exec_eq_some.mp (Option.some_get isSome_opened).symm
  have completes : (exec (Hook.step soon) Slow firstShown slowAnswers).any
      fun t => soon "j" (t.version "j") = .COMPLETED := by decide
  obtain ⟨t, run, completed⟩ := run_of_any completes
  exact ⟨t, opening, run, by decide, of_decide_eq_true completed,
    frozen_of_run opening (by decide) run⟩

end Hook
end RenderTrust.Frontend.Jobs
