import RenderTrust.Lib.Hoare
import RenderTrust.Lib.Json
import RenderTrust.Lib.Uuid

/-!
# `edgekit/relay/client.py`

What the relay client does with a frame. Time passes in `on_job_assigned` alone: a send
hands the message to the socket. Times are in microseconds.
-/
namespace RenderTrust.Edge
open Lib Lib.Hoare

/-- A JSON object as `json.loads` returns it. -/
abbrev Fields := List (String × Json)

/-- A frame from the socket. Bytes may not be UTF-8; `none` is a text that is not JSON. -/
inductive Frame where
  | undecodable
  | message (raw : Option Json)

inductive ClientError where
  | runtimeError (message : String)
  | connectionClosed
  | attributeError
  | typeError
  | unicodeDecodeError
  | raised (text : String)
  deriving DecidableEq, Repr

/-- `ws` says whether `_ws` is set, `delivers` which sends return. The messages that were sent,
or tried to, are the newest first. -/
structure Client where
  now : ℕ
  ws : Bool
  delivers : ℕ → Bool
  attempts : List (ℕ × Json)

abbrev ClientM := EStateM ClientError Client

def send (message : Json) : ClientM Unit := do
  let c ← get
  modify fun c => { c with attempts := (c.now, message) :: c.attempts }
  if !c.delivers c.attempts.length then throw .connectionClosed

def notConnected : ClientError := .runtimeError "Not connected to relay server"

def sendJobAck (jobId : Uuid) (accepted : Bool) : ClientM Unit := do
  if !(← get).ws then throw notConnected
  send (.obj [("type", .str "job_ack"), ("job_id", .str jobId.str), ("accepted", .bool accepted)])

def sendStatusUpdate (jobId : Uuid) (status : String) (progress : Option ℚ)
    (detail : Option String) : ClientM Unit := do
  if !(← get).ws then throw notConnected
  send (.obj ([("type", .str "status_update"), ("job_id", .str jobId.str),
      ("status", .str status)] ++
    (progress.map fun value => ("progress", Json.num value)).toList ++
    (detail.map fun text => ("detail", Json.str text)).toList))

def heartbeatPong : Json := .obj [("type", .str "heartbeat_pong"), ("payload", .obj [])]

/-- Only a string has a `replace` for `uuid.UUID` to call. -/
def acknowledge : Option Json → ClientM Unit
  | none => return
  | some jobId =>
      if jobId.truthy then
        match jobId with
        | .str text =>
            match Uuid.parse text with
            | none => return
            | some jobId => sendJobAck jobId true
        | _ => throw .attributeError
      else return

/-- `_handle_message`. -/
def handleMessage (onJobAssigned : Option (Fields → ClientM Unit)) : Option Json → ClientM Unit
  | none => return
  | some (.obj fields) => do
      if Json.getIs fields "type" "heartbeat_ping" then
        if (← get).ws then send heartbeatPong
      else if Json.getIs fields "type" "job_assign" then
        acknowledge (fields.lookup "job_id")
        match onJobAssigned with
        | none => return
        | some callback =>
            try callback fields
            catch _ => pure ()
  | some _ => throw .attributeError

/-- The body of `_receive_loop`. -/
def receive (onJobAssigned : Option (Fields → ClientM Unit)) : Frame → ClientM Unit
  | .undecodable => throw .unicodeDecodeError
  | .message raw => handleMessage onJobAssigned raw

/-! ## How long it takes -/

/-- From `c` to `d` in so much time, with the same connection. -/
structure Took (duration : ℕ) (c d : Client) : Prop where
  now : d.now = c.now + duration
  ws : d.ws = c.ws
  delivers : d.delivers = c.delivers

theorem Took.refl (c : Client) : Took 0 c c := ⟨rfl, rfl, rfl⟩

theorem Took.andThen {n : ℕ} {b c d : Client} (first : Took 0 b c) (second : Took n c d) :
    Took n b d :=
  ⟨second.now.trans (congrArg (· + n) first.now), second.ws.trans first.ws,
    second.delivers.trans first.delivers⟩

/-- The program takes so much time, whether it raises or not. -/
def Takes (duration : ℕ) (x : ClientM Unit) : Prop :=
  ∀ c, Triple (fun d => d = c) x (fun _ => Took duration c) (fun _ => Took duration c)

theorem send_run (message : Json) (c : Client) : (send message).run c =
    if c.delivers c.attempts.length then
      .ok () { c with attempts := (c.now, message) :: c.attempts }
    else .error .connectionClosed { c with attempts := (c.now, message) :: c.attempts } := by
  simp only [send, EStateM.run_bind, EStateM.run_get, EStateM.run_modify]
  cases c.delivers c.attempts.length <;> rfl

theorem takes_send (message : Json) : Takes 0 (send message) := by
  rintro c d rfl
  rw [send_run]
  split <;> exact ⟨rfl, rfl, rfl⟩

theorem takes_sendStatusUpdate (jobId : Uuid) (status : String) (progress : Option ℚ)
    (detail : Option String) : Takes 0 (sendStatusUpdate jobId status progress detail) := by
  intro c
  unfold sendStatusUpdate
  refine .read ?_
  rintro d rfl
  refine .ite (fun _ => .raise ?_) fun _ => takes_send _ d
  rintro c rfl
  exact .refl c

/-- The exceptions of a program are caught. -/
theorem run_tried {duration : ℕ} {x : ClientM Unit} (takes : Takes duration x) (c : Client) :
    ∃ d, (tryCatch x fun _ => pure () : ClientM Unit).run c = .ok () d ∧ Took duration c d := by
  have ends := takes c c rfl
  change ∃ d, EStateM.tryCatch x _ c = _ ∧ _
  rw [EStateM.run] at ends
  unfold EStateM.tryCatch
  cases ran : x c with
  | ok a d =>
      rw [ran] at ends
      exact ⟨d, rfl, ends⟩
  | error e d =>
      rw [ran] at ends
      exact ⟨d, rfl, ends⟩

/-- What the receive loop sees of `on_job_assigned`: it takes its time. -/
structure Callback where
  run : Fields → ClientM Unit
  duration : Fields → ℕ
  takes : ∀ fields, Takes (duration fields) (run fields)

/-- `uuid.UUID` is called with a string, if it is called. -/
def acknowledgeable : Option Json → Bool
  | none => true
  | some (.str _) => true
  | some jobId => !jobId.truthy

/-- An object or no JSON at all; the `job_id` of a job is `acknowledgeable`. -/
def Frame.wellFormed : Frame → Bool
  | .undecodable => false
  | .message none => true
  | .message (some (.obj fields)) =>
      Json.getIs fields "type" "job_assign" → acknowledgeable (fields.lookup "job_id")
  | .message (some _) => false

def Frame.isPing : Frame → Bool
  | .message (some (.obj fields)) => Json.getIs fields "type" "heartbeat_ping"
  | _ => false

/-- How long the receive loop is busy with the frame. -/
def Frame.cost (callback : Callback) : Frame → ℕ
  | .message (some (.obj fields)) =>
      if Json.getIs fields "type" "job_assign" then callback.duration fields else 0
  | _ => 0

theorem Frame.cost_of_isPing (callback : Callback) {frame : Frame} (ping : frame.isPing) :
    frame.cost callback = 0 := by
  unfold isPing at ping
  split at ping
  · exact if_neg fun job => absurd (Json.getIs_unique ping job) (by decide)
  · cases ping

/-- The socket is open. -/
structure Client.Open (c : Client) : Prop where
  ws : c.ws = true
  delivers : ∀ n, c.delivers n = true

section Open
variable {c : Client}

theorem Client.Open.took {n : ℕ} {d : Client} (h : c.Open) (took : Took n c d) : d.Open :=
  ⟨took.ws.trans h.ws, fun n => by rw [took.delivers, h.delivers]⟩

theorem run_send (h : c.Open) (message : Json) : (send message).run c =
    .ok () { c with attempts := (c.now, message) :: c.attempts } := by
  rw [send_run, if_pos (h.delivers _)]

theorem run_sendJobAck (h : c.Open) (jobId : Uuid) (accepted : Bool) :
    ∃ d, (sendJobAck jobId accepted).run c = .ok () d ∧ Took 0 c d := by
  simp only [sendJobAck, EStateM.run_bind, EStateM.run_get, h.ws]
  exact ⟨_, run_send h _, rfl, rfl, rfl⟩

theorem run_acknowledge (h : c.Open) {jobId : Option Json} (formed : acknowledgeable jobId) :
    ∃ d, (acknowledge jobId).run c = .ok () d ∧ Took 0 c d := by
  have skipped : ∃ d, (pure () : ClientM Unit).run c = .ok () d ∧ Took 0 c d :=
    ⟨c, rfl, .refl c⟩
  cases jobId with
  | none => exact skipped
  | some jobId =>
      by_cases truthy : jobId.truthy
      · simp only [acknowledge, if_pos truthy]
        cases jobId with
        | str text =>
            simp only
            cases Uuid.parse text with
            | none => exact skipped
            | some jobId => exact run_sendJobAck h jobId true
        | null | bool | num | arr | obj =>
            simp only [acknowledgeable, truthy] at formed
            cases formed
      · simp only [acknowledge, if_neg truthy]
        exact skipped

/-- A ping is answered at once. -/
theorem run_receive_ping (h : c.Open) (callback : Callback) {frame : Frame} (ping : frame.isPing) :
    (receive (some callback.run) frame).run c =
      .ok () { c with attempts := (c.now, heartbeatPong) :: c.attempts } := by
  unfold Frame.isPing at ping
  split at ping
  · rename_i fields
    simp only [receive, handleMessage, if_pos ping, EStateM.run_bind, EStateM.run_get, if_pos h.ws]
    exact run_send h _
  · cases ping

theorem run_receive_job (h : c.Open) (callback : Callback) {fields : Fields}
    (ping : ¬ Json.getIs fields "type" "heartbeat_ping")
    (job : Json.getIs fields "type" "job_assign")
    (formed : acknowledgeable (fields.lookup "job_id")) :
    ∃ d, (receive (some callback.run) (.message (some (.obj fields)))).run c = .ok () d ∧
      Took (callback.duration fields) c d := by
  obtain ⟨d, acknowledged, took⟩ := run_acknowledge h formed
  obtain ⟨e, called, later⟩ := run_tried (callback.takes fields) d
  simp only [receive, handleMessage, if_neg ping, if_pos job]
  refine ⟨e, ?_, took.andThen later⟩
  rw [run_bind_ok acknowledged]
  exact called

/-- The receive loop goes on after a frame that is well formed. -/
theorem run_receive (h : c.Open) (callback : Callback) {frame : Frame} (formed : frame.wellFormed) :
    ∃ d, (receive (some callback.run) frame).run c = .ok () d ∧
      Took (frame.cost callback) c d := by
  by_cases ping : frame.isPing
  · rw [run_receive_ping h callback ping, Frame.cost_of_isPing callback ping]
    exact ⟨_, rfl, rfl, rfl, rfl⟩
  cases frame with
  | undecodable => cases formed
  | message raw =>
      cases raw with
      | none => exact ⟨c, rfl, .refl c⟩
      | some data =>
          cases data with
          | null | bool | num | str | arr => cases formed
          | obj fields =>
              change ¬ Json.getIs fields "type" "heartbeat_ping" at ping
              by_cases job : Json.getIs fields "type" "job_assign"
              · simp only [Frame.cost, if_pos job]
                exact run_receive_job h callback ping job (of_decide_eq_true formed job)
              · simp only [Frame.cost, receive, handleMessage, if_neg ping, if_neg job]
                exact ⟨c, rfl, .refl c⟩

end Open

end RenderTrust.Edge
