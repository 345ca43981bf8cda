import RenderTrust.Edge.Client
import RenderTrust.Relay.Server

/-!
# Frames that end a connection

What a text frame does to the receive loop of the client and to that of the server. `json.loads`
is a parameter: it returns a value, or raises `JSONDecodeError`, or something else where a text is
nested too deep or a number in it is too long.
-/
namespace RenderTrust.Edge
open Lib Lib.Hoare
open Relay (Handler)

inductive Loaded where
  | value (data : Json)
  | decodeError
  | raised (text : String)

/-- `_handle_message` from the text on. -/
def handleText (loads : String → Loaded) (onJobAssigned : Option (Fields → ClientM Unit))
    (raw : String) : ClientM Unit :=
  match loads raw with
  | .value data => handleMessage onJobAssigned (some data)
  | .decodeError => handleMessage onJobAssigned none
  | .raised text => throw (.raised text)

/-- `_receive_loop` for the frames that come until the connection is closed. -/
def receiveLoop (loads : String → Loaded) (onJobAssigned : Option (Fields → ClientM Unit)) :
    List String → ClientM Unit
  | [] => return
  | raw :: rest => do
      handleText loads onJobAssigned raw
      receiveLoop loads onJobAssigned rest

/-- The receive loop of `relay_websocket` from the text on: `receive_json` calls `json.loads`. -/
def receivedText (loads : String → Loaded) (h : Handler) (raw : String) : Handler :=
  match loads raw with
  | .value data => h.received data
  | .decodeError => h.leave
  | .raised _ => h.leave

/-! ## Which frames go on -/

/-- No JSON, or an object, with an acknowledgeable `job_id` if it is a job. -/
def Handled (loads : String → Loaded) (raw : String) : Prop :=
  match loads raw with
  | .value data => (Frame.message (some data)).wellFormed
  | .decodeError => True
  | .raised _ => False

def IsObject (loads : String → Loaded) (raw : String) : Prop :=
  ∃ fields, loads raw = .value (.obj fields)

/-- The callback leaves the connection open. -/
def Lasting (onJobAssigned : Option (Fields → ClientM Unit)) : Prop :=
  ∀ callback ∈ onJobAssigned, ∀ fields, Keeps Client.Open (callback fields)

section Client
variable {loads : String → Loaded} {onJobAssigned : Option (Fields → ClientM Unit)} {c : Client}
  {raw : String} {fields : Fields}

/-- A callback that raises is as good as one that returns. -/
theorem run_caught (x : ClientM Unit) (c : Client) :
    ∃ d, (tryCatch x fun _ => pure () : ClientM Unit).run c = .ok () d ∧
      (Keeps Client.Open x → c.Open → d.Open) := by
  change ∃ d, EStateM.tryCatch x _ c = _ ∧ _
  unfold EStateM.tryCatch
  cases ran : x c with
  | ok a d => exact ⟨d, rfl, fun keeps h => keeps.ok h ran⟩
  | error e d => exact ⟨d, rfl, fun keeps h => keeps.error h ran⟩

theorem run_handleMessage (h : c.Open) {data : Option Json}
    (formed : (Frame.message data).wellFormed) :
    ∃ d, (handleMessage onJobAssigned data).run c = .ok () d ∧
      (Lasting onJobAssigned → d.Open) := by
  cases data with
  | none => exact ⟨c, rfl, fun _ => h⟩
  | some data =>
      cases data with
      | null | bool | num | str | arr => cases formed
      | obj fields =>
          by_cases ping : Json.getIs fields "type" "heartbeat_ping"
          · simp only [handleMessage, if_pos ping, EStateM.run_bind, EStateM.run_get, if_pos h.ws]
            exact ⟨_, run_send h _, fun _ => ⟨h.ws, h.delivers⟩⟩
          · simp only [handleMessage, if_neg ping]
            by_cases job : Json.getIs fields "type" "job_assign"
            · obtain ⟨d, acknowledged, took⟩ := run_acknowledge h (of_decide_eq_true formed job)
              rw [if_pos job, run_bind_ok acknowledged]
              cases onJobAssigned with
              | none => exact ⟨d, rfl, fun _ => h.took took⟩
              | some callback =>
                  obtain ⟨e, called, kept⟩ := run_caught (callback fields) d
                  exact ⟨e, called, fun lasting =>
                    kept (lasting callback rfl fields) (h.took took)⟩
            · rw [if_neg job]
              exact ⟨c, rfl, fun _ => h⟩

theorem acknowledge_raises {jobId : Option Json} (other : acknowledgeable jobId = false)
    (c : Client) : (acknowledge jobId).run c = .error .attributeError c := by
  cases jobId with
  | none => cases other
  | some jobId =>
      have filled : jobId.truthy := by
        cases jobId with
        | str text => cases other
        | null | bool | num | arr | obj => simpa [acknowledgeable] using other
      simp only [acknowledge, if_pos filled]
      cases jobId with
      | str text => cases other
      | null | bool | num | arr | obj => rfl

theorem handleMessage_raises {data : Option Json} (other : (Frame.message data).wellFormed = false)
    (c : Client) : (handleMessage onJobAssigned data).run c = .error .attributeError c := by
  cases data with
  | none => cases other
  | some data =>
      cases data with
      | null | bool | num | str | arr => rfl
      | obj fields =>
          obtain ⟨job, unacknowledgeable⟩ := Classical.not_imp.mp (of_decide_eq_false other)
          have ping : ¬ Json.getIs fields "type" "heartbeat_ping" := fun ping =>
            absurd (Json.getIs_unique ping job) (by decide)
          simp only [handleMessage, if_neg ping, if_pos job]
          exact run_bind_error (acknowledge_raises (Bool.not_eq_true _ ▸ unacknowledgeable) c)

theorem run_handleText (h : c.Open) (handled : Handled loads raw) :
    ∃ d, (handleText loads onJobAssigned raw).run c = .ok () d ∧
      (Lasting onJobAssigned → d.Open) := by
  unfold Handled at handled
  unfold handleText
  cases loaded : loads raw with
  | value data =>
      rw [loaded] at handled
      exact run_handleMessage h handled
  | decodeError => exact run_handleMessage h rfl
  | raised text =>
      rw [loaded] at handled
      exact handled.elim

theorem handleText_raises (other : ¬ Handled loads raw) (c : Client) :
    ∃ e, (handleText loads onJobAssigned raw).run c = .error e c := by
  unfold Handled at other
  unfold handleText
  cases loaded : loads raw with
  | value data =>
      rw [loaded] at other
      exact ⟨_, handleMessage_raises (Bool.not_eq_true _ ▸ other) c⟩
  | decodeError =>
      rw [loaded] at other
      exact absurd trivial other
  | raised text => exact ⟨_, rfl⟩

theorem handleText_iff (h : c.Open) :
    (∃ d, (handleText loads onJobAssigned raw).run c = .ok () d) ↔ Handled loads raw := by
  constructor
  · rintro ⟨d, ran⟩
    by_contra other
    have raises : ∃ e, (handleText loads onJobAssigned raw).run c = .error e c :=
      handleText_raises other c
    obtain ⟨e, raised⟩ := raises
    rw [ran] at raised
    cases raised
  · intro handled
    obtain ⟨d, ran, -⟩ := run_handleText h handled
    exact ⟨d, ran⟩

theorem receiveLoop_iff (lasting : Lasting onJobAssigned) (frames : List String) (h : c.Open) :
    (∃ d, (receiveLoop loads onJobAssigned frames).run c = .ok () d) ↔
      ∀ raw ∈ frames, Handled loads raw := by
  induction frames generalizing c with
  | nil => exact iff_of_true ⟨c, rfl⟩ fun _ member => absurd member List.not_mem_nil
  | cons raw rest ih =>
      rw [List.forall_mem_cons, receiveLoop]
      by_cases handled : Handled loads raw
      · obtain ⟨d, ran, kept⟩ := run_handleText h handled
        rw [run_bind_ok ran, ih (kept lasting)]
        exact (and_iff_right handled).symm
      · have raises : ∃ e, (handleText loads onJobAssigned raw).run c = .error e c :=
          handleText_raises handled c
        obtain ⟨e, raised⟩ := raises
        rw [run_bind_error raised]
        refine iff_of_false ?_ fun all => handled all.1
        rintro ⟨d, ran⟩
        cases ran

end Client

section Server
variable {loads : String → Loaded} {h : Handler} {raw : String}

theorem leave_phase (h : Handler) : h.leave.phase ≠ .receiving := by
  simp [Handler.leave]

theorem receivedText_iff :
    (receivedText loads h raw).phase = .receiving ↔
      h.phase = .receiving ∧ IsObject loads raw := by
  unfold receivedText IsObject
  cases loads raw with
  | decodeError | raised =>
      refine iff_of_false (leave_phase h) ?_
      rintro ⟨-, fields, ⟨⟩⟩
  | value data =>
      cases data with
      | obj fields =>
          have same : (h.received (.obj fields)).phase = h.phase := by
            simp only [Handler.received]
            split <;> rfl
          simp only [same]
          exact ⟨fun phase => ⟨phase, fields, rfl⟩, And.left⟩
      | null | bool | num | str | arr =>
          refine iff_of_false (leave_phase h) ?_
          rintro ⟨-, fields, ⟨⟩⟩

theorem foldl_receivedText_iff (frames : List String) (h : Handler) :
    (frames.foldl (receivedText loads) h).phase = .receiving ↔
      h.phase = .receiving ∧ ∀ raw ∈ frames, IsObject loads raw := by
  induction frames generalizing h with
  | nil => simp
  | cons raw rest ih =>
      rw [List.foldl_cons, ih, receivedText_iff, List.forall_mem_cons, and_assoc]

end Server

/-- Which frames the client handles, and which ones either loop goes on after. -/
theorem frames_handled_iff {loads : String → Loaded}
    {onJobAssigned : Option (Fields → ClientM Unit)} {c : Client} {h : Handler} (opened : c.Open)
    (receiving : h.phase = .receiving) :
    (∀ raw, (∃ d, (handleText loads onJobAssigned raw).run c = .ok () d) ↔ Handled loads raw) ∧
    (Lasting onJobAssigned → ∀ frames,
      (∃ d, (receiveLoop loads onJobAssigned frames).run c = .ok () d) ↔
        ∀ raw ∈ frames, Handled loads raw) ∧
    ∀ frames : List String, (frames.foldl (receivedText loads) h).phase = .receiving ↔
      ∀ raw ∈ frames, IsObject loads raw := by
  refine ⟨fun raw => handleText_iff opened, fun lasting frames => ?_, fun frames => ?_⟩
  · exact receiveLoop_iff lasting frames opened
  · rw [foldl_receivedText_iff]
    exact and_iff_right receiving

/-- A ping, and an empty list; of nothing else is it known what it is. -/
def sampleLoads (raw : String) : Loaded :=
  if raw = "[]" then .value (.arr [])
  else if raw = "\x7b\"type\": \"heartbeat_ping\"\x7d" then
    .value (.obj [("type", .str "heartbeat_ping")])
  else .decodeError

def openClient : Client := ⟨0, true, fun _ => true, []⟩

theorem frames_handled_ping :
    let ping := "\x7b\"type\": \"heartbeat_ping\"\x7d"
    ((∃ d, (handleText sampleLoads none ping).run openClient = .ok () d) ↔
      Handled sampleLoads ping) ∧
    ((∃ d, (receiveLoop sampleLoads none [ping, ping]).run openClient = .ok () d) ↔
      ∀ raw ∈ [ping, ping], Handled sampleLoads raw) ∧
    (([ping, ping].foldl (receivedText sampleLoads)
        { Handler.new with phase := .receiving }).phase = .receiving ↔
      ∀ raw ∈ [ping, ping], IsObject sampleLoads raw) := by
  obtain ⟨each, client, server⟩ := @frames_handled_iff sampleLoads none openClient
    { Handler.new with phase := .receiving } ⟨rfl, fun _ => rfl⟩ rfl
  exact ⟨each _, client nofun _, server _⟩

theorem not_handled : ¬ ∀ (loads : String → Loaded)
    (onJobAssigned : Option (Fields → ClientM Unit)) (c : Client) (raw : String), c.Open →
      ∃ d, (handleText loads onJobAssigned raw).run c = .ok () d := by
  intro handled
  obtain ⟨d, ran⟩ := handled sampleLoads none openClient "[]" ⟨rfl, fun _ => rfl⟩
  cases ran

end RenderTrust.Edge
