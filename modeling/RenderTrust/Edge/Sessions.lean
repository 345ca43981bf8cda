import RenderTrust.Edge.Executor
import RenderTrust.Lib.Backlog
import RenderTrust.Relay.Heartbeats

/-!
# Pings behind jobs

The connection of one node, from the heartbeat loop of the server to the receive loop of the
client and back. The receive loop awaits `on_job_assigned`, so that a ping waits in the inbox
until the jobs before it are done.
-/
namespace RenderTrust.Edge
open Lib Lib.Backlog Lib.Tasks Lib.Runs Relay
open Scheduler (NodeJwt)

variable {J ι : Type}

/-- A frame, when it left the server, and what `on_job_assigned` does if it is a job. -/
structure Delivery where
  frame : Frame
  left : ℕ
  callback : Callback

/-- Microseconds. -/
def heartbeatTimeout : ℕ := HEARTBEAT_TIMEOUT_SECONDS * 1000000

namespace Delivery

def cost (d : Delivery) : ℕ := d.frame.cost d.callback

/-- The time by which the pong has to be sent, if it is a ping. -/
def due (d : Delivery) : Option ℕ :=
  if d.frame.isPing then some (d.left + heartbeatTimeout) else none

def idle : Callback := ⟨fun _ => pure (), fun _ => 0, fun _ _ _ same => same ▸ .refl _⟩

def ping (left : ℕ) : Delivery :=
  ⟨.message (some (.obj [("type", .str "heartbeat_ping"), ("payload", .obj [])])), left, idle⟩

/-- When the pong was sent, of what the client sent while it handled the ping. -/
def reply (d : Delivery) (before after : Client) : Option ℕ :=
  if d.frame.isPing then
    ((after.attempts.take (after.attempts.length - before.attempts.length)).find? fun attempt =>
      isPong attempt.2).map Prod.fst
  else none

end Delivery

/-- Frames on the way to the client are in `wire`, those that it has not handled in `inbox`,
and `replies` are the pings whose pongs are on the way back. The client is busy until its
`now`. In `answered`, each ping that was answered has the time at which it was. -/
structure Session (ι : Type) where
  server : System ι (Server ι) Handler
  wire : List Delivery
  inbox : List Delivery
  client : Client
  replies : List ℕ
  answered : List (ℕ × ℕ)

inductive SessionStep (ι J : Type) where
  | relay (move : Move ι (Action J) ℕ)
  | send (frame : Frame) (callback : Callback)
  | arrive
  | handle
  | pong

namespace Session
variable (i : ι) (s : Session ι)

def now (s : Session ι) : ℕ := s.server.shared.now

/-- When the receive loop is ready for the next frame. -/
def ready (s : Session ι) : ℕ := max s.now s.client.now

/-- The receive loop does not wait when it has a frame, and the pongs that the server
receives are those of the client. -/
def permits [DecidableEq ι] : Move ι (Action J) ℕ → Bool
  | .environment later => s.inbox.isEmpty || !s.client.ws || later ≤ s.client.now
  | .task j (.handler (.receive data)) => j ≠ i || !isPong data
  | _ => true

def pings [DecidableEq ι] : Move ι (Action J) ℕ → List Delivery
  | .task j (.heartbeat .leave) => if j = i then [.ping s.now] else []
  | _ => []

/-- An exception ends the receive loop, and `run` drops the socket. -/
def handled (d : Delivery) (inbox : List Delivery) : Session ι :=
  let before := { s.client with now := s.now }
  match (receive (some d.callback.run) d.frame).run before with
  | .ok () after =>
      let sent := d.reply before after
      { s with
        inbox
        client := after
        replies := s.replies ++ (sent.map fun _ => d.left).toList
        answered := (sent.map fun time => (d.left, time)).toList ++ s.answered }
  | .error _ after => { s with inbox, client := { after with ws := false } }

variable [DecidableEq ι] (jwt : NodeJwt J) (node : ι → Uuid)

def step : SessionStep ι J → Option (Session ι)
  | .relay move =>
      if s.permits i move then
        ((relay jwt node).step s.server move).map fun server =>
          { s with server, wire := s.wire ++ s.pings i move }
      else none
  | .send frame callback => some { s with wire := s.wire ++ [⟨frame, s.now, callback⟩] }
  | .arrive =>
      match s.wire with
      | [] => none
      | d :: wire => some { s with wire, inbox := s.inbox ++ [d] }
  | .handle =>
      match s.inbox with
      | [] => none
      | d :: inbox =>
          if s.client.ws ∧ s.client.now ≤ s.now then some (s.handled d inbox) else none
  | .pong =>
      match s.replies with
      | [] => none
      | _ :: replies =>
          ((relay jwt node).step s.server (.task i (.handler (.receive heartbeatPong)))).map
            fun server => { s with server, replies }

/-- The server has started, and the client is connected. -/
def opening (now : ℕ) : Session ι :=
  ⟨Relay.opening now, [], [], ⟨now, true, fun _ => true, []⟩, [], []⟩

/-- The network delivers pings and pongs before the timeout, frames are well formed, and no
pong overtakes the `send_json` of its ping. -/
def delivered : SessionStep ι J → Bool
  | .relay (.environment later) =>
      (s.wire.all fun d => d.due.all fun deadline => later < deadline) ∧
        s.replies.all fun left => later < left + heartbeatTimeout
  | .send frame _ => frame.wellFormed
  | .pong => ∀ left ∈ (s.server.task i).asked, (s.server.task i).heartbeat ≠ .sending (some left)
  | _ => true

/-- A ping arrives before what is left of the running job, and the jobs before it in the
inbox, take it past the timeout. -/
def unburdened : SessionStep ι J → Bool
  | .arrive =>
      s.wire.head?.all fun d => d.due.all fun deadline =>
        s.ready + backlog Delivery.cost s.inbox < deadline
  | _ => true

def Delivered (s : Session ι) (e : SessionStep ι J) : Prop := s.delivered i e

def Unburdened (s : Session ι) (e : SessionStep ι J) : Prop := s.delivered i e ∧ s.unburdened e

instance (e : SessionStep ι J) : Decidable (s.Delivered i e) :=
  inferInstanceAs (Decidable (_ = true))

instance (e : SessionStep ι J) : Decidable (s.Unburdened i e) :=
  inferInstanceAs (Decidable (_ ∧ _))

end Session

/-- Each ping is answered before the timeout of the server, or can still be, and the server
does not close the connection. -/
structure Answered (i : ι) (s : Session ι) : Prop where
  answered : ∀ entry ∈ s.answered, entry.2 < entry.1 + heartbeatTimeout
  waiting : ∀ d ∈ s.inbox, d.frame.isPing → s.now < d.left + heartbeatTimeout
  opened : (s.server.task i).closeCode ≠ some WS_CLOSE_HEARTBEAT_TIMEOUT

/-! ## What the steps keep -/

/-- The pong that the server waits for is to come: the ping is in the network or in the
inbox, or it was answered. -/
def Session.Expected (s : Session ι) (left : ℕ) : Prop :=
  (∃ d ∈ s.wire, d.due = some (left + heartbeatTimeout)) ∨
    (∃ d ∈ s.inbox, d.due = some (left + heartbeatTimeout)) ∨ left ∈ s.replies

structure Paced (i : ι) (s : Session ι) : Prop where
  timely : Timely s.now (s.server.task i)
  asked : ∀ left, (s.server.task i).asked = some left → s.Expected left
  client : s.client.Open
  formed : ∀ d ∈ s.wire ++ s.inbox, d.frame.wellFormed
  onTime : OnTime Delivery.cost Delivery.due s.ready s.inbox
  answered : ∀ entry ∈ s.answered, entry.2 < entry.1 + heartbeatTimeout

theorem Paced.property {i : ι} {s : Session ι} (h : Paced i s) : Answered i s := by
  refine ⟨h.answered, ?_, h.timely.opened⟩
  intro d member ping
  apply Nat.lt_of_le_of_lt (Nat.le_max_left s.now s.client.now)
  apply h.onTime.mem member
  rw [Delivery.due, if_pos ping]

section Steps
variable {i : ι} {s t : Session ι} {d : Delivery} {inbox : List Delivery}

/-- A ping is answered at once. -/
theorem handled_ping (open_ : s.client.Open) (ping : d.frame.isPing) : s.handled d inbox =
    { s with
      inbox
      client := { s.client with
        now := s.now
        attempts := (s.now, heartbeatPong) :: s.client.attempts }
      replies := s.replies ++ [d.left]
      answered := (d.left, s.now) :: s.answered } := by
  have before : ({ s.client with now := s.now } : Client).Open := ⟨open_.ws, open_.delivers⟩
  have pong : isPong heartbeatPong := by decide
  have ran := run_receive_ping before d.callback ping
  simp only at ran
  simp [Session.handled, ran, Delivery.reply, ping, pong]

/-- Any other frame takes its time. -/
theorem handled_other (inbox : List Delivery) (open_ : s.client.Open) (formed : d.frame.wellFormed)
    (other : ¬ d.frame.isPing) :
    ∃ client, client.Open ∧ client.now = s.now + d.cost ∧
      s.handled d inbox = { s with inbox, client } := by
  have before : ({ s.client with now := s.now } : Client).Open := ⟨open_.ws, open_.delivers⟩
  obtain ⟨client, ran, took⟩ := run_receive before d.callback formed
  refine ⟨client, before.took took, took.now, ?_⟩
  simp only at ran
  simp [Session.handled, ran, Delivery.reply, other]

theorem Paced.pass {later : ℕ} (paced : Paced i s) (le : s.now ≤ later)
    (busy : s.inbox = [] ∨ later ≤ s.client.now)
    (wire : ∀ d ∈ s.wire, ∀ deadline, d.due = some deadline → later < deadline)
    (replies : ∀ left ∈ s.replies, later < left + heartbeatTimeout) :
    Paced i { s with
      server := { s.server with shared := { s.server.shared with now := later } } } where
  timely := by
    apply paced.timely.pass le
    intro left asked
    rcases paced.asked left asked with ⟨d, member, due⟩ | ⟨d, member, due⟩ | member
    · exact wire d member _ due
    · rcases busy with empty | before
      · rw [empty] at member
        cases member
      · have start := paced.onTime.mem member due
        exact Nat.lt_of_le_of_lt (before.trans (Nat.le_max_right _ _)) start
    · exact replies left member
  asked := paced.asked
  client := paced.client
  formed := paced.formed
  onTime := by
    rcases busy with empty | before
    · rw [empty]
      trivial
    · apply paced.onTime.mono
      exact (max_eq_right before).le.trans (Nat.le_max_right _ _)
  answered := paced.answered

/-- The server moves, and the time stays. -/
theorem Paced.serve {server : System ι (Server ι) Handler} {pings : List Delivery}
    (paced : Paced i s) (now : server.shared.now = s.now) (timely : Timely s.now (server.task i))
    (asked : ∀ left, (server.task i).asked = some left →
      (s.server.task i).asked = some left ∨ ∃ d ∈ pings, d.due = some (left + heartbeatTimeout))
    (formed : ∀ d ∈ pings, d.frame.wellFormed) :
    Paced i { s with server, wire := s.wire ++ pings } where
  timely := by
    rw [Session.now, now]
    exact timely
  asked left waits := by
    rcases asked left waits with before | ⟨d, member, due⟩
    · rcases paced.asked left before with ⟨d, member, due⟩ | later
      · exact .inl ⟨d, List.mem_append_left _ member, due⟩
      · exact .inr later
    · exact .inl ⟨d, List.mem_append_right _ member, due⟩
  client := paced.client
  formed d member := by
    simp only [List.append_assoc, List.mem_append] at member
    rcases member with old | new | old
    · exact paced.formed d (List.mem_append_left _ old)
    · exact formed d new
    · exact paced.formed d (List.mem_append_right _ old)
  onTime := by
    simp only [Session.ready, Session.now, now]
    exact paced.onTime
  answered := paced.answered

theorem Paced.arrive {wire : List Delivery} (paced : Paced i s) (first : s.wire = d :: wire)
    (within : ∀ deadline, d.due = some deadline →
      s.ready + backlog Delivery.cost s.inbox < deadline) :
    Paced i { s with wire, inbox := s.inbox ++ [d] } where
  timely := paced.timely
  asked left asked := by
    rcases paced.asked left asked with ⟨e, member, due⟩ | ⟨e, member, due⟩ | member
    · rw [first] at member
      rcases List.mem_cons.mp member with rfl | later
      · exact .inr (.inl ⟨e, List.mem_append_right _ List.mem_cons_self, due⟩)
      · exact .inl ⟨e, later, due⟩
    · exact .inr (.inl ⟨e, List.mem_append_left _ member, due⟩)
    · exact .inr (.inr member)
  client := paced.client
  formed e member := by
    apply paced.formed
    rw [first]
    simp only [List.mem_append, List.mem_cons] at member ⊢
    tauto
  onTime := onTime_append_singleton.mpr ⟨paced.onTime, within⟩
  answered := paced.answered

/-- What the server waits for when the first frame of the inbox is taken. -/
theorem Session.Expected.tail {left : ℕ} (h : s.Expected left) (first : s.inbox = d :: inbox) :
    d.due = some (left + heartbeatTimeout) ∨ { s with inbox }.Expected left := by
  rcases h with waits | ⟨e, member, due⟩ | member
  · exact .inr (.inl waits)
  · rw [first] at member
    rcases List.mem_cons.mp member with rfl | later
    · exact .inl due
    · exact .inr (.inr (.inl ⟨e, later, due⟩))
  · exact .inr (.inr (.inr member))

theorem Paced.handle (paced : Paced i s) (first : s.inbox = d :: inbox)
    (idle : s.client.now ≤ s.now) : Paced i (s.handled d inbox) := by
  have formed : d.frame.wellFormed :=
    paced.formed d (List.mem_append_right _ (first ▸ List.mem_cons_self))
  have rest : ∀ e ∈ s.wire ++ inbox, e.frame.wellFormed := by
    intro e member
    apply paced.formed
    rw [first]
    simp only [List.mem_append, List.mem_cons] at member ⊢
    tauto
  have onTime := paced.onTime
  rw [first, Session.ready, max_eq_left idle] at onTime
  by_cases ping : d.frame.isPing
  · have due : d.due = some (d.left + heartbeatTimeout) := if_pos ping
    rw [handled_ping paced.client ping]
    refine ⟨paced.timely, ?_, ⟨paced.client.ws, paced.client.delivers⟩, rest, ?_, ?_⟩
    · intro left asked
      rcases (paced.asked left asked).tail first with here | waits | waits | replied
      · rw [due] at here
        cases Nat.add_right_cancel (Option.some.inj here)
        exact .inr (.inr (List.mem_append_right _ List.mem_cons_self))
      · exact .inl waits
      · exact .inr (.inl waits)
      · exact .inr (.inr (List.mem_append_left _ replied))
    · apply onTime.2.mono
      exact (max_self s.now).le.trans (Nat.le_add_right _ _)
    · intro entry member
      rcases List.mem_cons.mp member with rfl | older
      · exact onTime.1 _ due
      · exact paced.answered entry older
  · obtain ⟨client, open_, now, handled⟩ := handled_other inbox paced.client formed ping
    rw [handled]
    refine ⟨paced.timely, ?_, open_, rest, ?_, paced.answered⟩
    · intro left asked
      rcases (paced.asked left asked).tail first with here | waits
      · rw [Delivery.due, if_neg ping] at here
        cases here
      · exact waits
    · apply onTime.2.mono
      simp only [Session.ready, now]
      exact max_le (Nat.le_add_right _ _) le_rfl

theorem Paced.pong {server : System ι (Server ι) Handler} {replies : List ℕ} (paced : Paced i s)
    (now : server.shared.now = s.now) (timely : Timely s.now (server.task i))
    (asked : (server.task i).asked = none) : Paced i { s with server, replies } where
  timely := by
    rw [Session.now, now]
    exact timely
  asked left waits := by
    rw [asked] at waits
    cases waits
  client := paced.client
  formed := paced.formed
  onTime := by
    simp only [Session.ready, Session.now, now]
    exact paced.onTime
  answered := paced.answered

end Steps

theorem paced_opening (i : ι) (now : ℕ) : Paced i (Session.opening now) where
  timely := timely_new now
  asked left asked := by cases asked
  client := ⟨rfl, fun _ => rfl⟩
  formed d member := by cases member
  onTime := trivial
  answered entry member := by cases member

/-! ## Runs -/

section Runs
variable [DecidableEq ι] {i : ι} {jwt : NodeJwt J} {node : ι → Uuid} {s t : Session ι}

theorem eq_ping_of_mem_pings {d : Delivery} {m : Move ι (Action J) ℕ} (h : d ∈ s.pings i m) :
    d = .ping s.now := by
  unfold Session.pings at h
  split at h
  · split at h
    · exact List.mem_singleton.mp h
    · cases h
  · cases h

/-- A move of the server that is not the time, and is not a pong. -/
theorem Paced.move {server : System ι (Server ι) Handler} {j : ι} {action : Action J}
    (paced : Paced i s) (permitted : s.permits i (.task j action))
    (moved : (relay jwt node).step s.server (.task j action) = some server) :
    Paced i { s with server, wire := s.wire ++ s.pings i (.task j action) } := by
  obtain ⟨acted, same⟩ := Program.step_task moved
  have now : server.shared.now = s.now := by
    rcases act_relay acted with ⟨step, -, served⟩ | ⟨beat, -, -, kept⟩
    · exact served.now
    · rw [kept]
      rfl
  have formed : ∀ d ∈ s.pings i (.task j action), d.frame.wellFormed := by
    intro d member
    rw [eq_ping_of_mem_pings member]
    rfl
  by_cases here : j = i
  · subst here
    rcases act_relay acted with ⟨step, rfl, served⟩ | ⟨beat, rfl, beats, kept⟩
    · refine paced.serve now ?_ (fun left waits => .inl (served.asked waits)) formed
      rw [← now]
      apply paced.timely.serves _ served
      rintro data rfl pong
      simp [Session.permits, pong] at permitted
    · refine paced.serve now (paced.timely.beats beats) ?_ formed
      intro left waits
      rcases beats.asked waits with before | ⟨rfl, rfl⟩
      · exact .inl before
      · right
        refine ⟨.ping s.now, ?_, rfl⟩
        rw [Session.pings, if_pos rfl]
        exact List.mem_singleton_self _
  · refine paced.serve now ?_ ?_ formed
    · rw [same i (Ne.symm here)]
      exact paced.timely
    · intro left waits
      rw [same i (Ne.symm here)] at waits
      exact .inl waits

theorem Paced.step {e : SessionStep ι J} (paced : Paced i s) (ok : s.Unburdened i e)
    (moved : s.step i jwt node e = some t) : Paced i t := by
  obtain ⟨delivered, unburdened⟩ := ok
  cases e with
  | relay m =>
      obtain ⟨permitted, moved⟩ := Option.ite_none_right_eq_some.mp moved
      obtain ⟨server, served, ⟨⟩⟩ := Option.map_eq_some_iff.mp moved
      cases m with
      | task j action => exact paced.move permitted served
      | environment later =>
          obtain ⟨shared, changed, ⟨⟩⟩ := Option.map_eq_some_iff.mp served
          obtain ⟨le, ⟨⟩⟩ := Option.ite_none_right_eq_some.mp changed
          simp only [Session.pings, List.append_nil]
          apply paced.pass le
          · simpa [Session.permits, paced.client.ws] using permitted
          · intro d member deadline due
            have within := List.all_eq_true.mp (of_decide_eq_true delivered).1 d member
            rw [due, Option.all_some] at within
            exact of_decide_eq_true within
          · intro left member
            have within := List.all_eq_true.mp (of_decide_eq_true delivered).2 left member
            exact of_decide_eq_true within
  | send frame callback =>
      cases moved
      refine paced.serve rfl paced.timely (fun left waits => .inl waits) ?_
      intro d member
      rw [List.mem_singleton.mp member]
      exact delivered
  | arrive =>
      simp only [Session.step] at moved
      split at moved
      · cases moved
      · rename_i d wire first
        cases moved
        apply paced.arrive first
        intro deadline due
        simp only [Session.unburdened, first] at unburdened
        simpa [due] using unburdened
  | handle =>
      simp only [Session.step] at moved
      split at moved
      · cases moved
      · rename_i d inbox first
        obtain ⟨⟨-, idle⟩, ⟨⟩⟩ := Option.ite_none_right_eq_some.mp moved
        exact paced.handle first idle
  | pong =>
      simp only [Session.step] at moved
      split at moved
      · cases moved
      · obtain ⟨server, received, ⟨⟩⟩ := Option.map_eq_some_iff.mp moved
        obtain ⟨acted, -⟩ := Program.step_task received
        rcases act_relay acted with ⟨step, ⟨⟩, served⟩ | ⟨beat, ⟨⟩, -, -⟩
        refine paced.pong served.now ?_ (asked_of_pong (by decide) served)
        rw [← show server.shared.now = s.now from served.now]
        apply paced.timely.serves _ served
        intro data _ _ left asked
        exact of_decide_eq_true delivered left asked

/-- In every run in which each ping finds less than the timeout of work before it, the pings
are answered in time and the connection stays open. -/
theorem answered_of_run {now : ℕ} {es : List (SessionStep ι J)}
    (run : Run (fun s e => s.step i jwt node e) (fun s e => s.Unburdened i e)
      (Session.opening now) es s) : Answered i s := by
  have paced : Paced i s :=
    run.invariant (fun _ _ _ paced ok moved => Paced.step paced ok moved) (paced_opening i now)
  exact paced.property

end Runs

/-! ## One job, one ping -/

/-- An executor whose only plugin renders for so many seconds. -/
def renderer (seconds : ℕ) : Executor where
  plugins := [("render", fun _ _ => ⟨seconds * 1000000, .returned ⟨true, some "s3://image", none⟩⟩)]
  timeout := DEFAULT_TIMEOUT_SECONDS * 1000000
  timeoutText := "300.0"
  printed _ := "None"
  distinct := List.nodup_singleton _

def renderJob : Frame :=
  .message (some (.obj [("type", .str "job_assign"), ("job_type", .str "render"),
    ("job_id", .str "00000000-0000-0000-0000-000000000007")]))

/-- The client has a job to render, and a second later a ping is in its inbox. -/
def rendering (seconds : ℕ) (rest : List (SessionStep ℕ Unit)) : List (SessionStep ℕ Unit) :=
  [.relay (.task 0 (.handler (.authenticate (some ())))), .relay (.task 0 (.handler .connect)),
    .relay (.environment 29000000), .send renderJob (renderer seconds).callback, .arrive, .handle,
    .relay (.environment 30000000), .relay (.task 0 (.heartbeat .wake)),
    .relay (.task 0 (.heartbeat .leave)), .relay (.task 0 (.heartbeat .sent)), .arrive] ++ rest

/-- After a job of a minute the ping is answered in time. -/
theorem answered_of_run_minute : ∃ s : Session ℕ,
    Run (fun s e => s.step 0 (openJwt 5) (fun _ => 5) e) (fun s e => s.Unburdened 0 e)
      (Session.opening 0) (rendering 60 [.relay (.environment 89000000), .handle, .pong,
        .relay (.task 0 (.heartbeat .answered))]) s ∧
      s.answered = [(30000000, 89000000)] ∧ Answered 0 s := by
  have accepted : (exec (fun s e => s.step 0 (openJwt 5) (fun _ => 5) e)
      (fun s e => s.Unburdened 0 e) (Session.opening 0)
      (rendering 60 [.relay (.environment 89000000), .handle, .pong,
        .relay (.task 0 (.heartbeat .answered))])).any fun s =>
      s.answered = [(30000000, 89000000)] := by decide +kernel
  obtain ⟨s, run, answered⟩ := run_of_any accepted
  exact ⟨s, run, of_decide_eq_true answered, answered_of_run run⟩

/-- A job of a hundred seconds is within the timeout of the executor, and the server closes
the connection while it runs. -/
theorem not_answered_hundred :
    ¬ ∀ (es : List (SessionStep ℕ Unit)) (s : Session ℕ),
      Run (fun s e => s.step 0 (openJwt 5) (fun _ => 5) e) (fun s e => s.Delivered 0 e)
        (Session.opening 0) es s → Answered 0 s := by
  intro claim
  have closed : (exec (fun s e => s.step 0 (openJwt 5) (fun _ => 5) e)
      (fun s e => s.Delivered 0 e) (Session.opening 0)
      (rendering 100 [.relay (.environment 120000000), .relay (.task 0 (.heartbeat .timeOut))])).any
      fun s => (s.server.task 0).closeCode = some WS_CLOSE_HEARTBEAT_TIMEOUT := by decide +kernel
  obtain ⟨s, run, code⟩ := run_of_any closed
  exact (claim _ s run).opened (of_decide_eq_true code)

end RenderTrust.Edge
