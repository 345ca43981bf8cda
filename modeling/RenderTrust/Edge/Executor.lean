import RenderTrust.Edge.Client

/-!
# `edgekit/workers/executor.py`

The callback of the relay client: it runs a job in the plugin of its type and reports the
status.
-/
namespace RenderTrust.Edge
open Lib Lib.Hoare

structure WorkerResult where
  success : Bool
  resultRef : Option String
  error : Option String

/-- How a plugin ends that is left alone. -/
inductive Outcome where
  | returned (result : WorkerResult)
  | timeoutError
  | raised (text : String)

structure Execution where
  duration : ℕ
  outcome : Outcome

/-- `printed` is what `str` makes of a value that is not a string, and `timeoutText` what it
makes of the timeout. -/
structure Executor where
  plugins : List (String × (Uuid → Fields → Execution))
  timeout : ℕ
  timeoutText : String
  printed : Json → String
  distinct : (plugins.map Prod.fst).Nodup

def DEFAULT_TIMEOUT_SECONDS : ℕ := 300

namespace Executor

def str (e : Executor) : Json → String
  | .str text => text
  | value => e.printed value

/-- `_send_status`. -/
def sendStatus (jobId : Uuid) (status : String) (progress : Option ℚ) (detail : Option String) :
    ClientM Unit := do
  try sendStatusUpdate jobId status progress detail
  catch _ => pure ()

def wait (duration : ℕ) : ClientM Unit :=
  modify fun c => { c with now := c.now + duration }

/-- `asyncio.wait_for(plugin.execute(job_id, job_data), timeout)`, and the report. -/
def execute (e : Executor) (jobId : Uuid) (execution : Execution) : ClientM Unit := do
  wait (min execution.duration e.timeout)
  let outcome :=
    if execution.duration < e.timeout then execution.outcome else .timeoutError
  match outcome with
  | .timeoutError =>
      sendStatus jobId "failed" none (some ("Job timed out after " ++ e.timeoutText ++ "s"))
  | .raised text => sendStatus jobId "failed" none (some ("Plugin raised exception: " ++ text))
  | .returned result =>
      if result.success then sendStatus jobId "completed" (some 1) result.resultRef
      else sendStatus jobId "failed" none result.error

/-- `self._plugins.get(job_type)`: the keys are strings, and a list or a dictionary has no
hash. -/
def plugin (e : Executor) : Json → Except ClientError (Option (Uuid → Fields → Execution))
  | .str jobType => .ok (e.plugins.lookup jobType)
  | .arr _ => .error .typeError
  | .obj _ => .error .typeError
  | _ => .ok none

/-- The `job_id` that is read; without one the job is dropped. -/
def jobId (e : Executor) (jobData : Fields) : Option Uuid :=
  match (jobData.lookup "job_id").getD .null with
  | .null => none
  | rawJobId => Uuid.parse (e.str rawJobId)

def handleJob (e : Executor) (jobData : Fields) : ClientM Unit :=
  match e.jobId jobData with
  | none => return
  | some jobId =>
      let jobType := (jobData.lookup "job_type").getD .null
      if !jobType.truthy then
        sendStatus jobId "failed" none (some "Missing job_type in job data")
      else
        match e.plugin jobType with
        | .error error => throw error
        | .ok none => sendStatus jobId "failed" none (some ("Unknown job_type: " ++ e.str jobType))
        | .ok (some plugin) => do
            sendStatus jobId "running" none none
            e.execute jobId (plugin jobId jobData)

/-! ## How long it takes -/

/-- How long the job runs, if there is a plugin for it. -/
def duration (e : Executor) (jobData : Fields) : ℕ :=
  match e.jobId jobData with
  | none => 0
  | some jobId =>
      let jobType := (jobData.lookup "job_type").getD .null
      if !jobType.truthy then 0
      else
        match e.plugin jobType with
        | .ok (some plugin) => min (plugin jobId jobData).duration e.timeout
        | _ => 0

/-- A status that cannot be sent is dropped. -/
theorem sendStatus_ok (jobId : Uuid) (status : String) (progress : Option ℚ)
    (detail : Option String) (c : Client) :
    ∃ d, (sendStatus jobId status progress detail).run c = .ok () d ∧ Took 0 c d := by
  exact run_tried (takes_sendStatusUpdate jobId status progress detail) c

theorem takes_sendStatus (jobId : Uuid) (status : String) (progress : Option ℚ)
    (detail : Option String) : Takes 0 (sendStatus jobId status progress detail) := by
  rintro c d rfl
  obtain ⟨e, sent, took⟩ := sendStatus_ok jobId status progress detail d
  rw [sent]
  exact took

/-- A wait that is over, and then a report. -/
theorem Takes.report {duration : ℕ} {x : ClientM Unit} (report : Takes 0 x) :
    Takes duration (wait duration >>= fun _ => x) := by
  rintro c d rfl
  have ends := report { d with now := d.now + duration } _ rfl
  exact ends.imp (fun _ _ took => ⟨took.now, took.ws, took.delivers⟩)
    fun _ _ took => ⟨took.now, took.ws, took.delivers⟩

theorem takes_execute (e : Executor) (jobId : Uuid) (execution : Execution) :
    Takes (min execution.duration e.timeout) (e.execute jobId execution) := by
  unfold execute
  apply Takes.report
  simp only
  split
  · exact takes_sendStatus _ _ _ _
  · exact takes_sendStatus _ _ _ _
  · split <;> exact takes_sendStatus _ _ _ _

theorem takes_handleJob (e : Executor) (jobData : Fields) :
    Takes (e.duration jobData) (e.handleJob jobData) := by
  unfold handleJob duration
  cases e.jobId jobData with
  | none =>
      rintro c d rfl
      exact .refl d
  | some jobId =>
      simp only
      split
      · exact takes_sendStatus _ _ _ _
      · cases e.plugin ((jobData.lookup "job_type").getD .null) with
        | error error =>
            rintro c d rfl
            exact .refl d
        | ok found =>
            cases found with
            | none => exact takes_sendStatus _ _ _ _
            | some plugin =>
                rintro c d rfl
                obtain ⟨c, sent, first⟩ := sendStatus_ok jobId "running" none none d
                rw [run_bind_ok sent]
                exact (takes_execute e jobId (plugin jobId jobData) c c rfl).imp
                  (fun _ _ second => first.andThen second) fun _ _ second => first.andThen second

/-- The executor as the callback of the client. -/
def callback (e : Executor) : Callback := ⟨e.handleJob, e.duration, e.takes_handleJob⟩

end Executor
end RenderTrust.Edge
