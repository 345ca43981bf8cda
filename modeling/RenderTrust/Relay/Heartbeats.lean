import RenderTrust.Relay.Server

/-!
# Nodes that answer their pings

The heartbeat loop and the receive loop of one connection share an event: a pong sets it,
and the loop clears it when the ping has been sent.
-/
namespace RenderTrust.Relay
open Lib Lib.Tasks Lib.Runs
open Scheduler (NodeJwt)

variable {J ι : Type} {jwt : NodeJwt J} {node : ι → Uuid}

def isPong : Json → Bool
  | .obj fields => Json.getIs fields "type" "heartbeat_pong"
  | _ => false

section Runs
variable [DecidableEq ι] (i : ι) (s : System ι (Server ι) Handler)

/-- Each pong comes after a ping left, and before the timeout has passed. -/
def responsive : Move ι (Action J) ℕ → Bool
  | .environment later =>
      (s.task i).asked.all fun left => later < left + HEARTBEAT_TIMEOUT_SECONDS * 1000000
  | .task j (.handler (.receive data)) => j = i → isPong data → (s.task i).asked.isSome
  | _ => true

/-- No pong overtakes the `send_json` of its ping. -/
def ordered : Move ι (Action J) ℕ → Bool
  | .task j (.handler (.receive data)) =>
      j = i → isPong data → ∀ left ∈ (s.task i).asked, (s.task i).heartbeat ≠ .sending (some left)
  | _ => true

def Responsive (s : System ι (Server ι) Handler) (m : Move ι (Action J) ℕ) : Prop :=
  responsive i s m

def Ordered (s : System ι (Server ι) Handler) (m : Move ι (Action J) ℕ) : Prop :=
  responsive i s m ∧ ordered i s m

instance (m : Move ι (Action J) ℕ) : Decidable (Responsive i s m) :=
  inferInstanceAs (Decidable (_ = true))

instance (m : Move ι (Action J) ℕ) : Decidable (Ordered i s m) :=
  inferInstanceAs (Decidable (_ ∧ _))

end Runs

/-! ## One connection -/

/-- The timeout of a ping that is not answered has not passed, and the loop waits for no
other pong. -/
structure Timely (now : ℕ) (h : Handler) : Prop where
  asked : ∀ left, h.asked = some left → now < left + HEARTBEAT_TIMEOUT_SECONDS * 1000000
  sending : ∀ left, h.heartbeat = .sending (some left) → h.asked = some left ∧ left ≤ now
  waiting : ∀ deadline, h.heartbeat = .waiting deadline → h.lastPong = true ∨
    ∃ left, h.asked = some left ∧ left + HEARTBEAT_TIMEOUT_SECONDS * 1000000 ≤ deadline
  opened : h.closeCode ≠ some WS_CLOSE_HEARTBEAT_TIMEOUT

theorem timely_new (now : ℕ) : Timely now .new := by
  constructor
  · intro left sent
    cases sent
  · intro left sent
    cases sent
  · intro deadline waited
    cases waited
  · intro closed
    cases closed

section Steps
variable {i : ι} {r r' : Server ι} {now later : ℕ} {h h' : Handler}

/-- After a pong the server waits for no other. -/
theorem asked_of_pong {data : Json} (pong : isPong data)
    (moved : Handler.Serves (J := J) node i r h (.receive data) r' h') : h'.asked = none := by
  cases moved with
  | receives =>
      cases data with
      | obj fields =>
          have received : h.received (.obj fields) = h.pong := if_pos pong
          rw [received]
          rfl
      | null | bool | num | str | arr => cases pong

/-- A ping has left, and the loop is not done with it. -/
def Heartbeat.pending : Heartbeat → Bool
  | .sending left => left.isSome
  | .waiting _ => true
  | _ => false

theorem Timely.idle (timely : Timely now h)
    (asked : ∀ left, h'.asked = some left → h.asked = some left)
    (code : h'.closeCode = h.closeCode) (idle : h'.heartbeat.pending = false) : Timely now h' where
  asked left sent := timely.asked left (asked left sent)
  sending left sent := by
    rw [sent] at idle
    cases idle
  waiting deadline waited := by
    rw [waited] at idle
    cases idle
  opened := by
    rw [code]
    exact timely.opened

theorem Timely.leave (timely : Timely now h) : Timely now h.leave :=
  timely.idle (fun left sent => by cases sent) rfl rfl

theorem Timely.pong (timely : Timely now h)
    (ordered : ∀ left, h.asked = some left → h.heartbeat ≠ .sending (some left)) :
    Timely now h.pong where
  asked left sent := by cases sent
  sending left sent := absurd sent (ordered left (timely.sending left sent).1)
  waiting deadline _ := .inl rfl
  opened := timely.opened

theorem Timely.serves {step : HandlerStep J} (timely : Timely r.now h)
    (ordered : ∀ data, step = .receive data → isPong data →
      ∀ left, h.asked = some left → h.heartbeat ≠ .sending (some left))
    (moved : Handler.Serves node i r h step r' h') : Timely r'.now h' := by
  rw [moved.now]
  cases moved with
  | accepts | gone | cleansUp => exact ⟨timely.asked, timely.sending, timely.waiting, timely.opened⟩
  | refuses =>
      refine ⟨timely.asked, timely.sending, timely.waiting, ?_⟩
      intro same
      cases same
  | connects => exact timely.idle (fun left sent => sent) rfl rfl
  | disconnects => exact timely.leave
  | @receives data _ =>
      cases data with
      | obj fields =>
          simp only [Handler.received]
          split
          · rename_i pong
            exact timely.pong (ordered _ rfl pong)
          · exact timely
      | null | bool | num | str | arr => exact timely.leave

theorem Timely.beats {beat : Beat} (timely : Timely now h) (moved : Handler.Beats now h beat h') :
    Timely now h' := by
  cases moved with
  | wake | answered => exact timely.idle (fun left sent => sent) rfl rfl
  | sendFails => exact timely.idle (fun left sent => by cases sent) rfl rfl
  | leave =>
      constructor
      · intro left sent
        cases sent
        exact Nat.lt_add_of_pos_right (by decide)
      · intro left sent
        cases sent
        exact ⟨rfl, le_rfl⟩
      · intro deadline waited
        cases waited
      · exact timely.opened
  | sent sending =>
      obtain ⟨asked, before⟩ := timely.sending _ sending
      constructor
      · exact timely.asked
      · intro left sent
        cases sent
      · intro deadline waited
        cases waited
        exact .inr ⟨_, asked, Nat.add_le_add_right before _⟩
      · exact timely.opened
  | timeOut waited late silent =>
      rcases timely.waiting _ waited with pong | ⟨left, asked, within⟩
      · exact absurd pong silent
      · have early := timely.asked left asked
        omega

theorem Timely.pass (timely : Timely now h) (le : now ≤ later)
    (responsive : ∀ left, h.asked = some left →
      later < left + HEARTBEAT_TIMEOUT_SECONDS * 1000000) : Timely later h where
  asked := responsive
  sending left sent := ⟨(timely.sending left sent).1, (timely.sending left sent).2.trans le⟩
  waiting := timely.waiting
  opened := timely.opened

end Steps

/-! ## Runs -/

section Runs
variable [DecidableEq ι] {i : ι}

theorem stable_timely :
    Stable (relay jwt node) (Ordered i) (fun _ => True) fun j r h => j = i → Timely r.now h where
  own s j action r h holds allowed acted := by
    refine ⟨trivial, ?_⟩
    rintro rfl
    rcases act_relay acted with ⟨step, rfl, moved⟩ | ⟨beat, -, moved, rfl⟩
    · refine (holds.task j rfl).serves ?_ moved
      rintro data rfl pong left asked
      exact of_decide_eq_true allowed.2 rfl pong left asked
    · exact (holds.task j rfl).beats moved
  others s j action r h holds _ acted k _ here := by
    rcases act_relay acted with ⟨step, -, moved⟩ | ⟨beat, -, -, rfl⟩
    · rw [moved.now]
      exact holds.task k here
    · exact holds.task k here
  environment s later r holds allowed changed := by
    obtain ⟨le, ⟨⟩⟩ := Option.ite_none_right_eq_some.mp changed
    refine ⟨trivial, ?_⟩
    rintro j rfl
    refine (holds.task j rfl).pass le fun left asked => ?_
    have within : (s.task j).asked.all fun left =>
      later < left + HEARTBEAT_TIMEOUT_SECONDS * 1000000 := allowed.1
    rw [asked, Option.all_some] at within
    exact of_decide_eq_true within

/-- A node that answers in time is not closed for a heartbeat timeout, as long as no pong
overtakes the `send_json` of its ping. -/
theorem opened_of_run {now : ℕ} {s : System ι (Server ι) Handler} {ms : List (Move ι (Action J) ℕ)}
    (run : Run (relay jwt node).step (Ordered i) (opening now) ms s) :
    (s.task i).closeCode ≠ some WS_CLOSE_HEARTBEAT_TIMEOUT := by
  have start : Holds (fun _ => True) (fun j r h => j = i → Timely r.now h)
      (opening now : System ι (Server ι) Handler) :=
    ⟨trivial, fun _ _ => timely_new now⟩
  exact ((stable_timely.run run start).task i rfl).opened

end Runs

/-! ## A pong that overtakes -/

/-- The loop waits for a pong that was received before it began to wait. -/
structure Deaf (h : Handler) : Prop where
  phase : h.phase = .receiving
  waiting : ∃ deadline, h.heartbeat = .waiting deadline
  cleared : h.lastPong = false
  answered : h.asked = none

/-- The loop is done, and the handler receives at most. -/
structure Over (h : Handler) : Prop where
  stopped : h.heartbeat = .stopped
  connected : h.phase ≠ .connecting ∧ h.phase ≠ .accepting

section Steps
variable {i : ι} {r r' : Server ι} {now : ℕ} {h h' : Handler}

theorem over_leave (h : Handler) : Over h.leave := by
  refine ⟨rfl, ?_, ?_⟩ <;> intro same <;> cases same

theorem Over.serves {step : HandlerStep J} (done : Over h)
    (moved : Handler.Serves node i r h step r' h') : Over h' := by
  cases moved with
  | accepts phase | refuses phase => exact absurd phase done.connected.1
  | connects phase | gone phase => exact absurd phase done.connected.2
  | disconnects => exact over_leave h
  | cleansUp => exact ⟨done.stopped, by simp, by simp⟩
  | @receives data _ =>
      cases data with
      | obj fields =>
          simp only [Handler.received]
          split
          · exact ⟨done.stopped, done.connected⟩
          · exact done
      | null | bool | num | str | arr => exact over_leave h

theorem Over.beats {beat : Beat} (done : Over h) (moved : Handler.Beats now h beat h') :
    Over h' := by
  cases moved with
  | wake busy | leave busy | sent busy | sendFails busy | answered busy | timeOut busy =>
      rw [done.stopped] at busy
      cases busy

theorem Deaf.serves {step : HandlerStep J} (deaf : Deaf h)
    (responsive : ∀ data, step = .receive data → isPong data → h.asked.isSome)
    (moved : Handler.Serves node i r h step r' h') : Deaf h' ∨ Over h' := by
  cases moved with
  | accepts phase | refuses phase | connects phase | gone phase | cleansUp phase =>
      rw [deaf.phase] at phase
      cases phase
  | disconnects => exact .inr (over_leave h)
  | @receives data _ =>
      cases data with
      | obj fields =>
          simp only [Handler.received]
          split
          · rename_i pong
            have asked := responsive _ rfl pong
            rw [deaf.answered] at asked
            cases asked
          · exact .inl deaf
      | null | bool | num | str | arr => exact .inr (over_leave h)

theorem Deaf.beats {beat : Beat} (deaf : Deaf h) (moved : Handler.Beats now h beat h') :
    Deaf h' ∨ Over h' := by
  obtain ⟨deadline, waiting⟩ := deaf.waiting
  cases moved with
  | wake busy | leave busy | sent busy | sendFails busy =>
      rw [waiting] at busy
      cases busy
  | answered _ pong =>
      rw [deaf.cleared] at pong
      cases pong
  | timeOut => exact .inr ⟨rfl, by simp [deaf.phase], by simp [deaf.phase]⟩

end Steps

section Runs
variable [DecidableEq ι] {i : ι}

/-- From then on a node that answers each ping once is not heard any more. -/
theorem deaf_of_run {s t : System ι (Server ι) Handler} {ms : List (Move ι (Action J) ℕ)}
    (run : Run (relay jwt node).step (Responsive i) s ms t) (deaf : Deaf (s.task i)) :
    Deaf (t.task i) ∨ Over (t.task i) := by
  have stable : Stable (relay jwt node) (Responsive i) (fun _ => True)
      fun j _ h => j = i → Deaf h ∨ Over h := by
    constructor
    · intro s j action r h holds allowed acted
      refine ⟨trivial, ?_⟩
      rintro rfl
      rcases act_relay acted with ⟨step, rfl, moved⟩ | ⟨beat, -, moved, rfl⟩
      · rcases holds.task j rfl with deaf | done
        · refine deaf.serves ?_ moved
          rintro data rfl pong
          exact of_decide_eq_true allowed rfl pong
        · exact .inr (done.serves moved)
      · rcases holds.task j rfl with deaf | done
        · exact deaf.beats moved
        · exact .inr (done.beats moved)
    · intro s j action r h holds _ _ k _
      exact holds.task k
    · intro s later r holds _ _
      exact ⟨trivial, holds.task⟩
  refine (stable.run run ⟨trivial, ?_⟩).task i rfl
  rintro j rfl
  exact .inl deaf

end Runs

/-! ## A pong in time -/

/-- The ping leaves after half a minute; `late` is what happens before the next one. -/
def pinged (rest : List (Move ℕ (Action Unit) ℕ)) : List (Move ℕ (Action Unit) ℕ) :=
  [.task 0 (.handler (.authenticate (some ()))), .task 0 (.handler .connect),
    .environment 30000000, .task 0 (.heartbeat .wake), .task 0 (.heartbeat .leave)] ++ rest

def ponged : Move ℕ (Action Unit) ℕ :=
  .task 0 (.handler (.receive (.obj [("type", .str "heartbeat_pong")])))

/-- The pong comes while the loop waits, and so does the next one. -/
theorem opened_of_run_waiting : ∃ s : System ℕ (Server ℕ) Handler,
    Run (relay (openJwt 5) fun _ => 5).step (Ordered 0) (opening 0)
      (pinged [.task 0 (.heartbeat .sent), .environment 119000000, ponged,
        .task 0 (.heartbeat .answered), .environment 149000000, .task 0 (.heartbeat .wake)]) s ∧
      (s.task 0).closeCode ≠ some WS_CLOSE_HEARTBEAT_TIMEOUT := by
  have accepted : (exec (relay (openJwt 5) fun _ => 5).step (Ordered 0) (opening 0)
      (pinged [.task 0 (.heartbeat .sent), .environment 119000000, ponged,
        .task 0 (.heartbeat .answered), .environment 149000000,
        .task 0 (.heartbeat .wake)])).isSome := by decide +kernel
  obtain ⟨s, run⟩ := run_of_isSome accepted
  exact ⟨s, run, opened_of_run run⟩

/-- The pong is received before `send_json` returns, and the loop clears it. -/
theorem not_opened_overtaken :
    ¬ ∀ (ms : List (Move ℕ (Action Unit) ℕ)) (s : System ℕ (Server ℕ) Handler),
      Run (relay (openJwt 5) fun _ => 5).step (Responsive 0) (opening 0) ms s →
        (s.task 0).closeCode ≠ some WS_CLOSE_HEARTBEAT_TIMEOUT := by
  intro claim
  have closed : (exec (relay (openJwt 5) fun _ => 5).step (Responsive 0) (opening 0)
      (pinged [ponged, .task 0 (.heartbeat .sent), .environment 120000000,
        .task 0 (.heartbeat .timeOut)])).any fun s =>
      (s.task 0).closeCode = some WS_CLOSE_HEARTBEAT_TIMEOUT := by decide +kernel
  obtain ⟨s, run, code⟩ := run_of_any closed
  exact claim _ s run (of_decide_eq_true code)

end RenderTrust.Relay
