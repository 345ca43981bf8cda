import RenderTrust.Edge.Executor

/-!
# The statuses of a job

The calls of `_send_status` in `handle_job`, for plugins of every conduct: one that runs past the
timeout need not end with the cancellation, and what it raises need not have a text.
-/
namespace RenderTrust.Edge
open Lib Lib.Hoare

/-- How a run past the timeout ends: `asyncio.wait_for` cancels it and waits. It ends in its own
way where it catches the cancellation, or leaves the event loop no time for it. -/
inductive Past where
  | cancelled
  | ended (outcome : Outcome)
  | hanging

/-- `printable` says whether `str` of what is raised returns. -/
structure Conduct where
  past : Past
  printable : Bool

/-- A plugin that ends when it is cancelled and raises what has a text. -/
def Conduct.tame : Conduct := ⟨.cancelled, true⟩

/-- A call of `send_status_update`. -/
structure Status where
  status : String
  progress : Option ℚ
  detail : Option String

inductive Ending where
  | returned
  | raised (error : ClientError)
  | hanging

structure Trace where
  calls : List Status
  ending : Ending

namespace Executor
variable (e : Executor)

/-- What `asyncio.wait_for` comes to; `none` if to nothing. -/
def awaited (execution : Execution) : Past → Option Outcome
  | past =>
      if execution.duration < e.timeout then some execution.outcome
      else match past with
        | .cancelled => some .timeoutError
        | .ended outcome => some outcome
        | .hanging => none

/-- The last call; `none` if its detail cannot be written. -/
def report (printable : Bool) : Outcome → Option Status
  | .timeoutError =>
      some ⟨"failed", none, some ("Job timed out after " ++ e.timeoutText ++ "s")⟩
  | .raised text =>
      if printable then some ⟨"failed", none, some ("Plugin raised exception: " ++ text)⟩ else none
  | .returned result =>
      if result.success then some ⟨"completed", some 1, result.resultRef⟩
      else some ⟨"failed", none, result.error⟩

/-- The calls after the first. -/
def conclude (execution : Execution) (conduct : Conduct) : Trace :=
  match e.awaited execution conduct.past with
  | none => ⟨[], .hanging⟩
  | some outcome =>
      match e.report conduct.printable outcome with
      | none => ⟨[], .raised .typeError⟩
      | some last => ⟨[last], .returned⟩

/-- `handle_job`. -/
def trace (conduct : Uuid → Fields → Conduct) (jobData : Fields) : Trace :=
  match e.jobId jobData with
  | none => ⟨[], .returned⟩
  | some jobId =>
      let jobType := (jobData.lookup "job_type").getD .null
      if !jobType.truthy then
        ⟨[⟨"failed", none, some "Missing job_type in job data"⟩], .returned⟩
      else
        match e.plugin jobType with
        | .error error => ⟨[], .raised error⟩
        | .ok none =>
            ⟨[⟨"failed", none, some ("Unknown job_type: " ++ e.str jobType)⟩], .returned⟩
        | .ok (some plugin) =>
            let rest := e.conclude (plugin jobId jobData) (conduct jobId jobData)
            ⟨⟨"running", none, none⟩ :: rest.calls, rest.ending⟩

end Executor

/-! ## The client under the calls -/

def Status.send (jobId : Uuid) (s : Status) : ClientM Unit :=
  Executor.sendStatus jobId s.status s.progress s.detail

/-- The calls, with the time that the plugin takes after the first of two. -/
def attempt (jobId : Uuid) (duration : ℕ) : List Status → ClientM Unit
  | [] => return
  | [last] => last.send jobId
  | first :: rest => do
      first.send jobId
      Executor.wait duration
      attempt jobId duration rest

/-- What is made of the calls by a client; a job that hangs is not over. -/
def Trace.play (trace : Trace) (jobId : Uuid) (duration : ℕ) : ClientM Unit := do
  attempt jobId duration trace.calls
  match trace.ending with
  | .raised error => throw error
  | _ => return

/-- No call raises, whatever is sent. -/
theorem attempt_ok (jobId : Uuid) (duration : ℕ) (calls : List Status) (c : Client) :
    ∃ d, (attempt jobId duration calls).run c = .ok () d := by
  induction calls generalizing c with
  | nil => exact ⟨c, rfl⟩
  | cons first rest ih =>
      obtain ⟨d, sent, -⟩ := Executor.sendStatus_ok jobId first.status first.progress first.detail c
      cases rest with
      | nil => exact ⟨d, sent⟩
      | cons second rest =>
          obtain ⟨d', rest_sent⟩ := ih { d with now := d.now + duration }
          refine ⟨d', ?_⟩
          have first_sent : (first.send jobId).run c = .ok () d := sent
          rw [attempt, run_bind_ok first_sent]
          · exact rest_sent
          · exact List.cons_ne_nil _ _

theorem play_ok_iff {trace : Trace} {jobId : Uuid} {duration : ℕ} {c : Client} :
    (∃ d, (trace.play jobId duration).run c = .ok () d) ↔
      ∀ error, trace.ending ≠ .raised error := by
  obtain ⟨d, attempted⟩ := attempt_ok jobId duration trace.calls c
  unfold Trace.play
  rw [run_bind_ok attempted]
  cases trace.ending with
  | returned | hanging => exact iff_of_true ⟨d, rfl⟩ nofun
  | raised error =>
      refine iff_of_false ?_ fun all => all error rfl
      rintro ⟨d, ran⟩
      cases ran

namespace Executor
variable {e : Executor} {jobData : Fields} {jobId : Uuid}

theorem report_printable (outcome : Outcome) : ∃ last, e.report true outcome = some last := by
  cases outcome with
  | timeoutError | raised => exact ⟨_, rfl⟩
  | returned result =>
      simp only [report]
      split <;> exact ⟨_, rfl⟩

theorem execute_eq {execution : Execution} {last : Status}
    (reported : e.report true (if execution.duration < e.timeout then execution.outcome
      else .timeoutError) = some last) :
    e.execute jobId execution =
      wait (min execution.duration e.timeout) >>= fun _ => last.send jobId := by
  unfold execute
  congr 1
  funext _
  dsimp only
  generalize (if execution.duration < e.timeout then execution.outcome else .timeoutError) =
    outcome at reported ⊢
  cases outcome with
  | timeoutError | raised =>
      obtain rfl := Option.some.inj reported
      rfl
  | returned result =>
      simp only [report] at reported
      dsimp only
      split at reported
      · rename_i success
        obtain rfl := Option.some.inj reported
        exact if_pos success
      · rename_i failure
        obtain rfl := Option.some.inj reported
        exact if_neg failure

theorem conclude_tame {execution : Execution} {last : Status}
    (reported : e.report true (if execution.duration < e.timeout then execution.outcome
      else .timeoutError) = some last) : e.conclude execution .tame = ⟨[last], .returned⟩ := by
  have ended : e.awaited execution Conduct.tame.past = some (if execution.duration < e.timeout then
      execution.outcome else .timeoutError) := by
    unfold awaited
    split <;> rfl
  unfold conclude
  rw [ended]
  change (match e.report true _ with
    | none => _
    | some last => _) = _
  rw [reported]

/-- Under tame plugins `handle_job` makes the calls of its trace. -/
theorem handleJob_tame (valid : e.jobId jobData = some jobId) :
    e.handleJob jobData =
      (e.trace (fun _ _ => .tame) jobData).play jobId (e.duration jobData) := by
  unfold handleJob trace duration
  rw [valid]
  dsimp only
  split
  · exact (bind_pure_unit ..).symm
  · cases e.plugin ((jobData.lookup "job_type").getD .null) with
    | error error => rfl
    | ok found =>
        cases found with
        | none => exact (bind_pure_unit ..).symm
        | some plugin =>
            obtain ⟨last, reported⟩ := report_printable (e := e)
              (if (plugin jobId jobData).duration < e.timeout then (plugin jobId jobData).outcome
                else .timeoutError)
            dsimp only
            rw [conclude_tame reported, execute_eq reported]
            exact (bind_pure_unit ..).symm

/-! ## One terminal status -/

def jobType (jobData : Fields) : Json := (jobData.lookup "job_type").getD .null

/-- The plugin of the job returned success before the timeout. -/
def Succeeded (e : Executor) (jobId : Uuid) (jobData : Fields) : Prop :=
  ∃ text plugin result, jobType jobData = .str text ∧ e.plugins.lookup text = some plugin ∧
    (plugin jobId jobData).duration < e.timeout ∧
    (plugin jobId jobData).outcome = .returned result ∧ result.success

/-- One terminal status is sent, or tried to, after a running one at most. -/
structure Settled (e : Executor) (jobId : Uuid) (jobData : Fields) (trace : Trace) : Prop where
  ending : trace.ending = .returned
  runs : ∀ duration c, ∃ d, (trace.play jobId duration).run c = .ok () d
  calls : ∃ last, (trace.calls = [last] ∨
      ∃ first, trace.calls = [first, last] ∧ first.status = "running") ∧
    (last.status = "failed" ∨ last.status = "completed" ∧ e.Succeeded jobId jobData)

/-- What is raised has a text. -/
def Printed (printable : Bool) (outcome : Outcome) : Prop :=
  ∀ text, outcome = .raised text → printable

/-- A run ends in time, or with the cancellation, or late and without success. -/
def Orderly (e : Executor) (execution : Execution) (conduct : Conduct) : Prop :=
  if execution.duration < e.timeout then Printed conduct.printable execution.outcome
  else match conduct.past with
    | .cancelled => True
    | .ended outcome =>
        Printed conduct.printable outcome ∧
          ∀ result, outcome = .returned result → result.success = false
    | .hanging => False

/-- The job type has a hash, if there is one, and its plugin is orderly. -/
def Settleable (e : Executor) (conduct : Uuid → Fields → Conduct) (jobId : Uuid)
    (jobData : Fields) : Prop :=
  (jobType jobData).truthy → (jobType jobData).hashable ∧
    ∀ text plugin, jobType jobData = .str text → e.plugins.lookup text = some plugin →
      e.Orderly (plugin jobId jobData) (conduct jobId jobData)

theorem report_isSome_iff {printable : Bool} {outcome : Outcome} :
    (∃ last, e.report printable outcome = some last) ↔ Printed printable outcome := by
  cases outcome with
  | timeoutError => exact iff_of_true ⟨_, rfl⟩ nofun
  | raised text =>
      cases printable with
      | true => exact iff_of_true ⟨_, rfl⟩ fun _ _ => rfl
      | false =>
          refine iff_of_false ?_ fun printed => Bool.false_ne_true (printed text rfl)
          rintro ⟨last, ⟨⟩⟩
  | returned result =>
      refine iff_of_true ?_ nofun
      simp only [report]
      split <;> exact ⟨_, rfl⟩

/-- Success is reported as completed, and everything else as failed. -/
theorem report_status {printable : Bool} {outcome : Outcome} {last : Status}
    (reported : e.report printable outcome = some last) :
    last.status = "failed" ∧ (∀ result, outcome = .returned result → result.success = false) ∨
      last.status = "completed" ∧ ∃ result, outcome = .returned result ∧ result.success := by
  cases outcome with
  | timeoutError =>
      obtain rfl := Option.some.inj reported
      exact .inl ⟨rfl, nofun⟩
  | raised text =>
      obtain ⟨-, same⟩ := Option.ite_none_right_eq_some.mp reported
      obtain rfl := Option.some.inj same
      exact .inl ⟨rfl, nofun⟩
  | returned result =>
      cases success : result.success with
      | true =>
          simp only [report, success, if_true] at reported
          obtain rfl := Option.some.inj reported
          exact .inr ⟨rfl, result, rfl, success⟩
      | false =>
          simp only [report, success, Bool.false_eq_true, if_false] at reported
          obtain rfl := Option.some.inj reported
          left
          refine ⟨rfl, ?_⟩
          rintro _ ⟨⟩
          exact success

theorem conclude_ended {execution : Execution} {conduct : Conduct} {outcome : Outcome}
    (ended : e.awaited execution conduct.past = some outcome) {Good : Prop} :
    ((e.conclude execution conduct).ending = .returned ∧
      ∃ last, (e.conclude execution conduct).calls = [last] ∧
        (last.status = "failed" ∨ last.status = "completed" ∧ Good)) ↔
      Printed conduct.printable outcome ∧
        ((∃ result, outcome = .returned result ∧ result.success) → Good) := by
  have printed : _ ↔ Printed conduct.printable outcome := report_isSome_iff (e := e)
  unfold conclude
  rw [ended]
  cases reported : e.report conduct.printable outcome with
  | none =>
      simp only [reported]
      refine iff_of_false nofun ?_
      rintro ⟨written, -⟩
      obtain ⟨last, some⟩ := printed.mpr written
      rw [reported] at some
      cases some
  | some last =>
      have written := printed.mp ⟨last, reported⟩
      simp only [reported, written, true_and]
      rcases report_status reported with ⟨failed, unsuccessful⟩ | ⟨completed, success⟩
      · refine iff_of_true ⟨last, rfl, .inl failed⟩ ?_
        rintro ⟨result, same, success⟩
        rw [unsuccessful result same] at success
        cases success
      · constructor
        · rintro ⟨_, ⟨⟩, failed | ⟨-, good⟩⟩ -
          · rw [completed] at failed
            exact absurd failed (by decide)
          · exact good
        · intro good
          exact ⟨last, rfl, .inr ⟨completed, good success⟩⟩

/-- The run of a plugin is reported once, and as completed only if it succeeded in time, exactly
if it is orderly. -/
theorem conclude_iff {execution : Execution} {conduct : Conduct} :
    ((e.conclude execution conduct).ending = .returned ∧
      ∃ last, (e.conclude execution conduct).calls = [last] ∧
        (last.status = "failed" ∨ last.status = "completed" ∧ execution.duration < e.timeout ∧
          ∃ result, execution.outcome = .returned result ∧ result.success)) ↔
      e.Orderly execution conduct := by
  unfold Orderly
  by_cases inTime : execution.duration < e.timeout
  · rw [if_pos inTime, conclude_ended (if_pos inTime)]
    exact and_iff_left fun success => ⟨inTime, success⟩
  · obtain ⟨past, printable⟩ := conduct
    rw [if_neg inTime]
    cases past with
    | cancelled =>
        have ended : e.awaited execution .cancelled = some .timeoutError := if_neg inTime
        rw [conclude_ended ended]
        refine iff_of_true ⟨nofun, ?_⟩ trivial
        rintro ⟨result, ⟨⟩, -⟩
    | ended outcome =>
        have ended : e.awaited execution (.ended outcome) = some outcome := if_neg inTime
        rw [conclude_ended ended]
        apply and_congr_right'
        constructor
        · intro late result same
          by_contra success
          exact inTime (late ⟨result, same, Bool.not_eq_false _ ▸ success⟩).1
        · rintro unsuccessful ⟨result, same, success⟩
          rw [unsuccessful result same] at success
          cases success
    | hanging =>
        have ended : e.awaited execution .hanging = none := if_neg inTime
        unfold conclude
        rw [ended]
        exact iff_of_false nofun id

end Executor

section Settle
variable {e : Executor} {conduct : Uuid → Fields → Conduct} {jobData : Fields} {jobId : Uuid}

theorem Executor.Settled.of_calls {trace : Trace} (ending : trace.ending = .returned)
    (calls : ∃ last, (trace.calls = [last] ∨
        ∃ first, trace.calls = [first, last] ∧ first.status = "running") ∧
      (last.status = "failed" ∨ last.status = "completed" ∧ e.Succeeded jobId jobData)) :
    e.Settled jobId jobData trace where
  ending := ending
  runs := fun _ _ => play_ok_iff.mpr fun _ raised => by
    rw [ending] at raised
    cases raised
  calls := calls

/-- After a running status there is one more to come. -/
theorem settled_running {text : String} {plugin : Uuid → Fields → Execution} {rest : Trace}
    (type : Executor.jobType jobData = .str text) (found : e.plugins.lookup text = some plugin) :
    e.Settled jobId jobData ⟨⟨"running", none, none⟩ :: rest.calls, rest.ending⟩ ↔
      rest.ending = .returned ∧ ∃ last, rest.calls = [last] ∧
        (last.status = "failed" ∨ last.status = "completed" ∧
          (plugin jobId jobData).duration < e.timeout ∧
          ∃ result, (plugin jobId jobData).outcome = .returned result ∧ result.success) := by
  constructor
  · rintro ⟨ending, -, last, shape, terminal⟩
    refine ⟨ending, last, ?_⟩
    rcases shape with alone | ⟨first, second, -⟩
    · obtain ⟨rfl, -⟩ := List.cons.inj alone
      rcases terminal with failed | ⟨completed, -⟩
      · exact absurd failed (by decide)
      · exact absurd completed (by decide)
    · obtain ⟨rfl, after⟩ := List.cons.inj second
      refine ⟨after, terminal.imp_right ?_⟩
      rintro ⟨completed, text', plugin', result, type', found', inTime, outcome, success⟩
      rw [type] at type'
      cases type'
      rw [found] at found'
      cases found'
      exact ⟨completed, inTime, result, outcome, success⟩
  · rintro ⟨ending, last, after, terminal⟩
    refine .of_calls ending ⟨last, .inr ⟨_, congrArg _ after, rfl⟩, terminal.imp_right ?_⟩
    rintro ⟨completed, inTime, result, outcome, success⟩
    exact ⟨completed, text, plugin, result, type, found, inTime, outcome, success⟩

/-- A job gets its one terminal status exactly if it is settleable. -/
theorem settled_iff_settleable {text : String} (named : jobData.lookup "job_id" = some (.str text))
    (parsed : Uuid.parse text = some jobId) :
    e.Settled jobId jobData (e.trace conduct jobData) ↔ e.Settleable conduct jobId jobData := by
  have valid : e.jobId jobData = some jobId := by
    unfold Executor.jobId
    rw [named]
    exact parsed
  have failed_once : ∀ detail, e.Settled jobId jobData ⟨[⟨"failed", none, detail⟩], .returned⟩ :=
    fun detail => .of_calls rfl ⟨_, .inl rfl, .inl rfl⟩
  have raises : ∀ error, ¬ e.Settled jobId jobData ⟨[], .raised error⟩ := fun error settled =>
    absurd settled.ending nofun
  unfold Executor.trace Executor.Settleable
  rw [valid]
  simp only
  change e.Settled jobId jobData (if !(Executor.jobType jobData).truthy then _
    else match e.plugin (Executor.jobType jobData) with
      | .error error => _
      | .ok none => _
      | .ok (some plugin) => _) ↔ _
  cases given : (Executor.jobType jobData).truthy with
  | false => exact iff_of_true (failed_once _) nofun
  | true =>
      simp only [Bool.not_true, Bool.false_eq_true, if_false, true_imp_iff]
      cases type : Executor.jobType jobData with
      | arr | obj => exact iff_of_false (raises _) fun both => Bool.false_ne_true both.1
      | null | bool | num => exact iff_of_true (failed_once _) ⟨rfl, nofun⟩
      | str jobType =>
          cases found : e.plugins.lookup jobType with
          | none =>
              simp only [Executor.plugin, found]
              refine iff_of_true (failed_once _) ⟨rfl, ?_⟩
              rintro _ plugin ⟨⟩ there
              rw [found] at there
              cases there
          | some plugin =>
              simp only [Executor.plugin, found]
              have selected : (∀ text plugin', Json.str jobType = .str text →
                  e.plugins.lookup text = some plugin' →
                    e.Orderly (plugin' jobId jobData) (conduct jobId jobData)) ↔
                  e.Orderly (plugin jobId jobData) (conduct jobId jobData) := by
                constructor
                · exact fun all => all jobType plugin rfl found
                · rintro orderly _ plugin' ⟨⟩ there
                  rw [found] at there
                  cases there
                  exact orderly
              rw [selected, ← Executor.conclude_iff, settled_running type found]
              exact (and_iff_right rfl).symm

end Settle

/-- One plugin, that echoes. -/
def echoExecutor : Executor where
  plugins := [("echo", fun _ _ => ⟨1, .returned ⟨true, none, none⟩⟩)]
  timeout := DEFAULT_TIMEOUT_SECONDS * 1000000
  timeoutText := "300"
  printed _ := ""
  distinct := by decide

def echoJob (jobType : Json) : Fields :=
  [("job_id", .str "00000000-0000-0000-0000-000000000001"), ("job_type", jobType)]

theorem settled_echoJob :
    echoExecutor.Settled 1 (echoJob (.str "echo"))
        (echoExecutor.trace (fun _ _ => .tame) (echoJob (.str "echo"))) ↔
      echoExecutor.Settleable (fun _ _ => .tame) 1 (echoJob (.str "echo")) :=
  settled_iff_settleable rfl (by decide +kernel)

/-- A list has no hash. -/
theorem not_settled : ¬ ∀ (e : Executor) (conduct : Uuid → Fields → Conduct) (jobData : Fields)
    (text : String) (jobId : Uuid), jobData.lookup "job_id" = some (.str text) →
      Uuid.parse text = some jobId → e.Settled jobId jobData (e.trace conduct jobData) := by
  intro settled
  have parsed : Uuid.parse "00000000-0000-0000-0000-000000000001" = some 1 := by decide +kernel
  have ending := (settled echoExecutor (fun _ _ => .tame) (echoJob (.arr [.str "echo"])) _ 1 rfl
    parsed).ending
  have valid : echoExecutor.jobId (echoJob (.arr [.str "echo"])) = some 1 := parsed
  unfold Executor.trace at ending
  rw [valid] at ending
  cases ending

end RenderTrust.Edge
