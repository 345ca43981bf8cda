import RenderTrust.Lib.Json
import RenderTrust.Lib.Tasks
import RenderTrust.Relay.Manager
import RenderTrust.Scheduler.Auth

/-!
# `core/relay/server.py`

The handlers of the WebSocket endpoint, each with its heartbeat loop. A step is what runs
between two awaits. Times are in microseconds.
-/
namespace RenderTrust.Relay
open Lib Lib.Tasks
open Scheduler (NodeJwt verifyNodeToken)

/-- Seconds. -/
def HEARTBEAT_INTERVAL_SECONDS : ℕ := 30

def HEARTBEAT_TIMEOUT_SECONDS : ℕ := 90

def WS_CLOSE_AUTH_FAILED : ℕ := 4001

def WS_CLOSE_HEARTBEAT_TIMEOUT : ℕ := 4002

variable {J ι : Type}

/-- The error is the code that the socket is closed with. `none` is a query without a
token, or with an empty one. -/
def authenticateWebsocket (jwt : NodeJwt J) (seconds : ℕ) (token : Option J) (nodeId : Uuid) :
    Except ℕ Unit :=
  match token with
  | none => .error WS_CLOSE_AUTH_FAILED
  | some token =>
      match verifyNodeToken jwt seconds token with
      | .error _ => .error WS_CLOSE_AUTH_FAILED
      | .ok payload =>
          if some nodeId.str ≠ payload.sub then .error WS_CLOSE_AUTH_FAILED else .ok ()

/-! ## One connection -/

/-- Where `relay_websocket` is. -/
inductive Phase where
  | connecting
  | accepting
  | receiving
  | closing
  | closed
  deriving DecidableEq, Repr

/-- Where `_heartbeat_loop` is. A ping has left the process some time before `send_json`
returns; the loop waits for the pong until the deadline. -/
inductive Heartbeat where
  | stopped
  | sleeping (wake : ℕ)
  | sending (left : Option ℕ)
  | waiting (deadline : ℕ)
  deriving DecidableEq, Repr

/-- `asked` is the time at which the last ping left, until a pong is received or the loop
ends without one. -/
structure Handler where
  phase : Phase
  heartbeat : Heartbeat
  lastPong : Bool
  asked : Option ℕ
  closeCode : Option ℕ
  deriving DecidableEq, Repr

/-- `registered` is the handler that last called `connect` for the node. -/
structure Server (ι : Type) where
  now : ℕ
  manager : ConnectionManager ι
  registered : Uuid → Option ι

namespace Server
variable (r : Server ι) {nodeId other : Uuid} {i : ι}

def connect (r : Server ι) (nodeId : Uuid) (i : ι) : Server ι :=
  { r with
    manager := r.manager.connect nodeId i
    registered := Function.update r.registered nodeId (some i) }

def disconnect (r : Server ι) (nodeId : Uuid) : Server ι :=
  { r with manager := r.manager.disconnect nodeId }

@[simp] theorem manager_connect : (r.connect nodeId i).manager = r.manager.connect nodeId i := rfl

@[simp] theorem registered_connect : (r.connect nodeId i).registered nodeId = some i :=
  Function.update_self ..

theorem registered_connect_of_ne (differs : other ≠ nodeId) :
    (r.connect nodeId i).registered other = r.registered other :=
  Function.update_of_ne differs _ _

@[simp] theorem manager_disconnect :
    (r.disconnect nodeId).manager = r.manager.disconnect nodeId := rfl

@[simp] theorem registered_disconnect : (r.disconnect nodeId).registered = r.registered := rfl

end Server

inductive HandlerStep (J : Type) where
  | authenticate (token : Option J)
  | connect
  | acceptFails
  | receive (data : Json)
  | disconnected
  | cleanUp

inductive Beat where
  | wake
  | leave
  | sent
  | sendFails
  | answered
  | timeOut
  deriving DecidableEq, Repr

inductive Action (J : Type) where
  | handler (step : HandlerStep J)
  | heartbeat (beat : Beat)

namespace Handler

def new : Handler := ⟨.connecting, .stopped, false, none, none⟩

/-- The `finally` block up to its first await: the heartbeat task is cancelled. -/
def leave (h : Handler) : Handler :=
  { h with phase := .closing, heartbeat := .stopped, asked := none }

def pong (h : Handler) : Handler := { h with lastPong := true, asked := none }

/-- What the receive loop does with a message; without a `get` it raises. -/
def received (h : Handler) : Json → Handler
  | .obj fields =>
      if Json.getIs fields "type" "heartbeat_pong" then h.pong else h
  | _ => h.leave

section Serve
variable (jwt : NodeJwt J) (node : ι → Uuid) (i : ι) (r : Server ι) (h : Handler)

/-- `relay_websocket`. -/
def serve : HandlerStep J → Option (Server ι × Handler)
  | .authenticate token =>
      if h.phase = .connecting then
        match authenticateWebsocket jwt (r.now / 1000000) token (node i) with
        | .ok () => some (r, { h with phase := .accepting })
        | .error code => some (r, { h with phase := .closed, closeCode := some code })
      else none
  | .connect =>
      if h.phase = .accepting then
        some (r.connect (node i) i,
          { h with
            phase := .receiving
            heartbeat := .sleeping (r.now + HEARTBEAT_INTERVAL_SECONDS * 1000000)
            lastPong := false })
      else none
  | .acceptFails => if h.phase = .accepting then some (r, { h with phase := .closed }) else none
  | .receive data => if h.phase = .receiving then some (r, h.received data) else none
  | .disconnected => if h.phase = .receiving then some (r, h.leave) else none
  | .cleanUp =>
      if h.phase = .closing then
        some (r.disconnect (node i), { h with phase := .closed })
      else none

end Serve

/-- `_heartbeat_loop`. A pong that is received before the deadline wakes the loop before the
timer does. -/
def beat (h : Handler) (now : ℕ) : Beat → Option Handler
  | .wake =>
      match h.heartbeat with
      | .sleeping wake => if wake ≤ now then some { h with heartbeat := .sending none } else none
      | _ => none
  | .leave =>
      match h.heartbeat with
      | .sending none => some { h with heartbeat := .sending (some now), asked := some now }
      | _ => none
  | .sent =>
      match h.heartbeat with
      | .sending (some _) =>
          some { h with
            heartbeat := .waiting (now + HEARTBEAT_TIMEOUT_SECONDS * 1000000)
            lastPong := false }
      | _ => none
  | .sendFails =>
      match h.heartbeat with
      | .sending _ => some { h with heartbeat := .stopped, asked := none }
      | _ => none
  | .answered =>
      match h.heartbeat with
      | .waiting _ =>
          if h.lastPong then
            some { h with heartbeat := .sleeping (now + HEARTBEAT_INTERVAL_SECONDS * 1000000) }
          else none
      | _ => none
  | .timeOut =>
      match h.heartbeat with
      | .waiting deadline =>
          if deadline ≤ now ∧ ¬ h.lastPong then
            some { h with heartbeat := .stopped, closeCode := some WS_CLOSE_HEARTBEAT_TIMEOUT }
          else none
      | _ => none

/-! ## What a step finds and what it leaves -/

/-- The steps of `_heartbeat_loop`. -/
inductive Beats (now : ℕ) (h : Handler) : Beat → Handler → Prop
  | wake {wake : ℕ} (slept : h.heartbeat = .sleeping wake) (due : wake ≤ now) :
      Beats now h .wake { h with heartbeat := .sending none }
  | leave (sending : h.heartbeat = .sending none) :
      Beats now h .leave { h with heartbeat := .sending (some now), asked := some now }
  | sent {left : ℕ} (sending : h.heartbeat = .sending (some left)) :
      Beats now h .sent
        { h with
          heartbeat := .waiting (now + HEARTBEAT_TIMEOUT_SECONDS * 1000000)
          lastPong := false }
  | sendFails {left : Option ℕ} (sending : h.heartbeat = .sending left) :
      Beats now h .sendFails { h with heartbeat := .stopped, asked := none }
  | answered {deadline : ℕ} (waited : h.heartbeat = .waiting deadline) (pong : h.lastPong) :
      Beats now h .answered
        { h with heartbeat := .sleeping (now + HEARTBEAT_INTERVAL_SECONDS * 1000000) }
  | timeOut {deadline : ℕ} (waited : h.heartbeat = .waiting deadline) (late : deadline ≤ now)
      (silent : ¬ h.lastPong) :
      Beats now h .timeOut
        { h with heartbeat := .stopped, closeCode := some WS_CLOSE_HEARTBEAT_TIMEOUT }

theorem beats_of_beat {now : ℕ} {h h' : Handler} {beat : Beat} (moved : h.beat now beat = some h') :
    Beats now h beat h' := by
  cases beat with
  | wake =>
      simp only [Handler.beat] at moved
      split at moved
      · rename_i slept
        obtain ⟨due, ⟨⟩⟩ := Option.ite_none_right_eq_some.mp moved
        exact .wake slept due
      · cases moved
  | leave =>
      simp only [Handler.beat] at moved
      split at moved
      · rename_i sending
        cases moved
        exact .leave sending
      · cases moved
  | sent =>
      simp only [Handler.beat] at moved
      split at moved
      · rename_i sending
        cases moved
        exact .sent sending
      · cases moved
  | sendFails =>
      simp only [Handler.beat] at moved
      split at moved
      · rename_i sending
        cases moved
        exact .sendFails sending
      · cases moved
  | answered =>
      simp only [Handler.beat] at moved
      split at moved
      · rename_i waited
        obtain ⟨pong, ⟨⟩⟩ := Option.ite_none_right_eq_some.mp moved
        exact .answered waited pong
      · cases moved
  | timeOut =>
      simp only [Handler.beat] at moved
      split at moved
      · rename_i waited
        obtain ⟨⟨late, silent⟩, ⟨⟩⟩ := Option.ite_none_right_eq_some.mp moved
        exact .timeOut waited late silent
      · cases moved

theorem Beats.phase {now : ℕ} {h h' : Handler} {beat : Beat} (moved : Beats now h beat h') :
    h'.phase = h.phase := by
  cases moved <;> rfl

/-- Only a ping that leaves asks for a pong. -/
theorem Beats.asked {now left : ℕ} {h h' : Handler} {beat : Beat} (moved : Beats now h beat h')
    (asked : h'.asked = some left) : h.asked = some left ∨ beat = .leave ∧ left = now := by
  cases moved with
  | wake | sent | answered | timeOut => exact .inl asked
  | leave =>
      cases asked
      exact .inr ⟨rfl, rfl⟩
  | sendFails => cases asked

section Serves
variable {jwt : NodeJwt J} {node : ι → Uuid} {i : ι} {r r' : Server ι}
  {h h' : Handler}

/-- The steps of `relay_websocket`. -/
inductive Serves (node : ι → Uuid) (i : ι) (r : Server ι) (h : Handler) :
    HandlerStep J → Server ι → Handler → Prop
  | accepts {token : Option J} (phase : h.phase = .connecting) :
      Serves node i r h (.authenticate token) r { h with phase := .accepting }
  | refuses {token : Option J} (phase : h.phase = .connecting) :
      Serves node i r h (.authenticate token) r
        { h with phase := .closed, closeCode := some WS_CLOSE_AUTH_FAILED }
  | connects (phase : h.phase = .accepting) :
      Serves node i r h .connect (r.connect (node i) i)
        { h with
          phase := .receiving
          heartbeat := .sleeping (r.now + HEARTBEAT_INTERVAL_SECONDS * 1000000)
          lastPong := false }
  | gone (phase : h.phase = .accepting) :
      Serves node i r h .acceptFails r { h with phase := .closed }
  | receives {data : Json} (phase : h.phase = .receiving) :
      Serves node i r h (.receive data) r (h.received data)
  | disconnects (phase : h.phase = .receiving) : Serves node i r h .disconnected r h.leave
  | cleansUp (phase : h.phase = .closing) :
      Serves node i r h .cleanUp (r.disconnect (node i)) { h with phase := .closed }

theorem authenticateWebsocket_error {seconds : ℕ} {token : Option J} {nodeId : Uuid} {code : ℕ}
    (refused : authenticateWebsocket jwt seconds token nodeId = .error code) :
    code = WS_CLOSE_AUTH_FAILED := by
  unfold authenticateWebsocket at refused
  split at refused
  · cases refused
    rfl
  · split at refused
    · cases refused
      rfl
    · split at refused
      · cases refused
        rfl
      · cases refused

theorem Serves.now {step : HandlerStep J} (moved : Serves node i r h step r' h') :
    r'.now = r.now := by
  cases moved <;> rfl

theorem Serves.asked {left : ℕ} {step : HandlerStep J} (moved : Serves node i r h step r' h')
    (asked : h'.asked = some left) : h.asked = some left := by
  cases moved with
  | accepts | refuses | connects | gone | cleansUp => exact asked
  | disconnects => cases asked
  | @receives data _ =>
      cases data with
      | obj fields =>
          simp only [received] at asked
          split at asked
          · cases asked
          · exact asked
      | null | bool | num | str | arr => cases asked

theorem serves_of_serve {step : HandlerStep J}
    (moved : h.serve jwt node i r step = some (r', h')) : Serves node i r h step r' h' := by
  cases step with
  | authenticate token =>
      obtain ⟨phase, moved⟩ := Option.ite_none_right_eq_some.mp moved
      split at moved
      · cases moved
        exact .accepts phase
      · rename_i refused
        cases moved
        rw [authenticateWebsocket_error refused]
        exact .refuses phase
  | connect =>
      obtain ⟨phase, moved⟩ := Option.ite_none_right_eq_some.mp moved
      cases moved
      exact .connects phase
  | acceptFails =>
      obtain ⟨phase, moved⟩ := Option.ite_none_right_eq_some.mp moved
      cases moved
      exact .gone phase
  | receive data =>
      obtain ⟨phase, moved⟩ := Option.ite_none_right_eq_some.mp moved
      cases moved
      exact .receives phase
  | disconnected =>
      obtain ⟨phase, moved⟩ := Option.ite_none_right_eq_some.mp moved
      cases moved
      exact .disconnects phase
  | cleanUp =>
      obtain ⟨phase, moved⟩ := Option.ite_none_right_eq_some.mp moved
      cases moved
      exact .cleansUp phase

end Serves
end Handler

/-! ## All connections -/

/-- The environment lets time pass. -/
def relay (jwt : NodeJwt J) (node : ι → Uuid) : Program ι (Server ι) Handler (Action J) ℕ where
  act i action r h :=
    match action with
    | .handler step => h.serve jwt node i r step
    | .heartbeat beat => (h.beat r.now beat).map fun h => (r, h)
  change later r := if r.now ≤ later then some { r with now := later } else none

theorem act_relay {jwt : NodeJwt J} {node : ι → Uuid} {i : ι} {action : Action J} {r r' : Server ι}
    {h h' : Handler} (acted : (relay jwt node).act i action r h = some (r', h')) :
    (∃ step, action = .handler step ∧ Handler.Serves node i r h step r' h') ∨
      ∃ beat, action = .heartbeat beat ∧ Handler.Beats r.now h beat h' ∧ r' = r := by
  cases action with
  | handler step => exact .inl ⟨step, rfl, Handler.serves_of_serve acted⟩
  | heartbeat beat =>
      obtain ⟨h'', moved, same⟩ := Option.map_eq_some_iff.mp acted
      cases same
      exact .inr ⟨beat, rfl, Handler.beats_of_beat moved, rfl⟩

def opening (now : ℕ) : System ι (Server ι) Handler :=
  ⟨⟨now, .new, fun _ => none⟩, fun _ => .new⟩

/-- Any token is one of the node. -/
def openJwt (nodeId : Uuid) : NodeJwt Unit where
  encode _ := ()
  decode _ _ := some ⟨some nodeId.str, none, none, some "node", none⟩

end RenderTrust.Relay
