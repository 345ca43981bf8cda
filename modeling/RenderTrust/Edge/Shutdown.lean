import RenderTrust.Edge.Run
import RenderTrust.Lib.Runs

/-!
# Disconnecting

`disconnect` clears `_running` and closes the socket that it finds. A connection that is
still being made is not among what it finds.
-/
namespace RenderTrust.Edge
open Lib.Runs

namespace RunState

/-- No connection is made after `disconnect` was called, and no message is left for the
receive loop when it has returned. -/
def settled (s : RunState) : RunStep → Bool
  | .resume .begin | .resume .connectReturns => s.disconnect = .notCalled
  | .resume .received | .resume .handled => s.disconnect = .returned → s.buffer.isEmpty
  | _ => true

def Settled (s : RunState) (e : RunStep) : Prop := s.settled e

instance (s : RunState) (e : RunStep) : Decidable (s.Settled e) :=
  inferInstanceAs (Decidable (_ = true))

end RunState

/-- After `disconnect` has returned the client is not connected, takes no message, and the
await of `run` at that time, which no open socket keeps from ending, is its last. -/
structure Final (s : RunState) : Prop where
  connected : s.disconnect = .returned → s.connected = false
  silent : s.late = []
  closed : s.disconnect = .returned → s.inLoop → s.isOpen = false
  stopped : 0 < s.resumed → s.await = .stopped

/-- What holds before, during and after the call of `disconnect`. -/
inductive Quiet (s : RunState) : Prop
  | before (call : s.disconnect = .notCalled) (late : s.late = []) (resumed : s.resumed = 0)
      (ws : s.inLoop → s.ws = true)
  | closing (call : s.disconnect = .closing) (late : s.late = []) (resumed : s.resumed = 0)
      (running : s.running = false) (connected : s.connected = false)
  | after (call : s.disconnect = .returned) (late : s.late = [])
      (running : s.running = false) (connected : s.connected = false)
      (closed : s.inLoop → s.isOpen = false) (stopped : 0 < s.resumed → s.await = .stopped)

/-- Nothing is asked of the time before the return. -/
theorem final_of_early {s : RunState} (early : s.disconnect ≠ .returned) (late : s.late = [])
    (resumed : s.resumed = 0) : Final s where
  connected returned := absurd returned early
  silent := late
  closed returned := absurd returned early
  stopped positive := by omega

theorem Quiet.final {s : RunState} (h : Quiet s) : Final s := by
  cases h with
  | before call late resumed ws => exact final_of_early (by simp [call]) late resumed
  | closing call late resumed running connected =>
      exact final_of_early (by simp [call]) late resumed
  | after call late running connected closed stopped =>
      exact ⟨fun _ => connected, late, fun _ => closed, stopped⟩

section Steps
open RunState
variable {b : Backoff} {s t : RunState} {resumption : Resumption}

/-- Before `disconnect` returns, `run` takes no message too late. -/
theorem Quiet.resumes_before (call : s.disconnect = .notCalled) (late : s.late = [])
    (resumed : s.resumed = 0) (ws : s.inLoop → s.ws = true) (h : Resumes b s resumption t) :
    Quiet t := by
  cases h with
  | begins | breaks | stops => exact .before call late resumed fun loop => by cases loop
  | fails | raises | ends =>
      refine Quiet.before call late resumed ?_
      intro loop
      rw [lost_inLoop] at loop
      cases loop
  | connects => exact .before call late resumed fun _ => rfl
  | takes _ loop =>
      refine Quiet.before call ?_ resumed fun _ => ws loop
      simp only [call, reduceCtorEq, if_false, late]
  | waits _ loop => exact .before call late resumed fun _ => ws loop
  | wakes =>
      refine Quiet.before call late resumed ?_
      intro loop
      cases running : s.running <;> simp [inLoop, running] at loop

theorem Quiet.resumes_closing (call : s.disconnect = .closing) (late : s.late = [])
    (resumed : s.resumed = 0) (running : s.running = false) (connected : s.connected = false)
    (ok : s.Settled (.resume resumption)) (h : Resumes b s resumption t) : Quiet t := by
  cases h with
  | begins | connects =>
      have early := of_decide_eq_true ok
      rw [call] at early
      cases early
  | fails | raises | ends | breaks => exact .closing call late resumed running rfl
  | takes =>
      refine Quiet.closing call ?_ resumed running connected
      simp only [call, reduceCtorEq, if_false, late]
  | waits | wakes | stops => exact .closing call late resumed running connected

theorem settled_iff_empty (call : s.disconnect = .returned) (asks : resumption.asks) :
    s.Settled (.resume resumption) ↔ s.buffer = [] := by
  cases resumption with
  | received | handled =>
      constructor
      · exact fun ok => List.isEmpty_iff.mp (of_decide_eq_true ok call)
      · exact fun empty => decide_eq_true fun _ => List.isEmpty_iff.mpr empty
  | begin | connectFails | connectReturns | handlerRaises | woken | cancelled => cases asks

/-- After `disconnect` has returned, an await that ends is the last. -/
theorem Quiet.resumes_after (call : s.disconnect = .returned) (late : s.late = [])
    (running : s.running = false) (connected : s.connected = false)
    (closed : s.inLoop → s.isOpen = false) (ok : s.Settled (.resume resumption))
    (h : Resumes b s resumption t) :
    t.disconnect = .returned ∧ t.late = [] ∧ t.running = false ∧ t.connected = false ∧
      t.await = .stopped := by
  cases h with
  | begins | connects =>
      have early := of_decide_eq_true ok
      rw [call] at early
      cases early
  | fails | raises | ends => exact ⟨call, late, running, rfl, lost_await running⟩
  | takes asks _ buffered =>
      rw [(settled_iff_empty call asks).mp ok] at buffered
      cases buffered
  | waits _ loop _ open_ =>
      rw [closed loop] at open_
      cases open_
  | wakes => exact ⟨call, late, running, connected, by simp [running]⟩
  | breaks => exact ⟨call, late, running, rfl, rfl⟩
  | stops => exact ⟨call, late, running, connected, rfl⟩

theorem Quiet.resume (quiet : Quiet s) (ok : s.Settled (.resume resumption))
    (moved : s.step b (.resume resumption) = some t) : Quiet t := by
  obtain ⟨u, resumes, ⟨⟩⟩ := Option.map_eq_some_iff.mp moved
  have resumes := resumes_of_resume resumes
  cases quiet with
  | before call late resumed ws =>
      rw [if_neg (by simp [call])]
      exact .resumes_before call late resumed ws resumes
  | closing call late resumed running connected =>
      rw [if_neg (by simp [call])]
      exact .resumes_closing call late resumed running connected ok resumes
  | after call late running connected closed stopped =>
      obtain ⟨returned, late, running, connected, last⟩ :=
        resumes_after call late running connected closed ok resumes
      rw [if_pos call]
      refine .after returned late running connected ?_ fun _ => last
      intro loop
      simp [inLoop, last] at loop

theorem Quiet.step {e : RunStep} (quiet : Quiet s) (ok : s.Settled e)
    (moved : s.step b e = some t) : Quiet t := by
  cases e with
  | resume resumption => exact quiet.resume ok moved
  | arrives frame =>
      obtain ⟨open_, ⟨⟩⟩ := Option.ite_none_right_eq_some.mp moved
      cases quiet with
      | before call late resumed ws => exact .before call late resumed ws
      | closing call late resumed running connected =>
          exact .closing call late resumed running connected
      | after call late running connected closed stopped =>
          exact .after call late running connected closed stopped
  | drops =>
      cases moved
      cases quiet with
      | before call late resumed ws => exact .before call late resumed ws
      | closing call late resumed running connected =>
          exact .closing call late resumed running connected
      | after call late running connected closed stopped =>
          exact .after call late running connected (fun _ => rfl) stopped
  | disconnect =>
      obtain ⟨notCalled, ⟨⟩⟩ := Option.ite_none_right_eq_some.mp moved
      cases quiet with
      | before call late resumed ws =>
          cases set : s.ws with
          | true => exact .closing rfl late resumed rfl rfl
          | false =>
              refine .after rfl late rfl rfl ?_ ?_
              · intro loop
                rw [ws loop] at set
                cases set
              · intro positive
                rw [resumed] at positive
                cases positive
      | closing call | after call =>
          rw [call] at notCalled
          cases notCalled
  | closeReturns =>
      obtain ⟨closing, ⟨⟩⟩ := Option.ite_none_right_eq_some.mp moved
      cases quiet with
      | closing call late resumed running connected =>
          refine .after rfl late running connected (fun _ => rfl) ?_
          intro positive
          rw [resumed] at positive
          cases positive
      | before call | after call =>
          rw [call] at closing
          cases closing

/-- The condition is exact: an await that ends after `disconnect` has returned leaves the
client as it should be if and only if it is met. -/
theorem settled_iff (quiet : Quiet s) (call : s.disconnect = .returned)
    (moved : s.step b (.resume resumption) = some t) :
    s.Settled (.resume resumption) ↔ Final t := by
  constructor
  · exact fun ok => (quiet.resume ok moved).final
  · intro final
    obtain ⟨u, resumes, ⟨⟩⟩ := Option.map_eq_some_iff.mp moved
    have resumes := resumes_of_resume resumes
    rw [if_pos call] at final
    cases resumes with
    | begins => cases final.stopped (Nat.succ_pos _)
    | connects => cases final.connected call
    | takes =>
        have silent := final.silent
        simp only [call, if_true] at silent
        cases silent
    | waits asks _ empty | ends asks _ empty => exact (settled_iff_empty call asks).mpr empty
    | fails | raises | wakes | breaks | stops => rfl

end Steps

theorem quiet_new : Quiet .new := .before rfl rfl rfl fun loop => by cases loop

/-- In every run in which no connection is made after `disconnect` was called, and no message
is left in the buffer when it has returned, `disconnect` is final. -/
theorem final_of_run {b : Backoff} {es : List RunStep} {s : RunState}
    (run : Run (RunState.step b) RunState.Settled .new es s) : Final s :=
  (run.invariant (fun _ _ _ quiet ok moved => Quiet.step quiet ok moved) quiet_new).final

/-! ## Connections that are being made -/

def ping : Frame := .message (some (.obj [("type", .str "heartbeat_ping")]))

/-- `disconnect` while the receive loop waits for a message. -/
theorem final_of_run_receiving : ∃ s, Run (RunState.step defaultBackoff) RunState.Settled .new
      [.resume .begin, .resume .connectReturns, .arrives ping, .resume .received,
        .resume .handled, .disconnect, .closeReturns, .resume .received] s ∧ Final s := by
  have accepted : (exec (RunState.step defaultBackoff) RunState.Settled .new
      [.resume .begin, .resume .connectReturns, .arrives ping, .resume .received,
        .resume .handled, .disconnect, .closeReturns, .resume .received]).isSome := by
    decide +kernel
  obtain ⟨s, run⟩ := run_of_isSome accepted
  exact ⟨s, run, final_of_run run⟩

/-- `disconnect` while a connection is being made: the client is connected afterwards, and
answers the next ping. -/
theorem not_final_connecting : ¬ ∀ (es : List RunStep) (s : RunState),
    Run (RunState.step defaultBackoff) Always .new es s → Final s := by
  intro claim
  have connected : (exec (RunState.step defaultBackoff) Always .new
      [.resume .begin, .disconnect, .resume .connectReturns, .arrives ping,
        .resume .received]).any fun s =>
      s.disconnect = .returned ∧ s.connected = true ∧ s.late.length = 1 := by decide +kernel
  obtain ⟨s, run, holds⟩ := run_of_any connected
  obtain ⟨returned, connected, -⟩ := of_decide_eq_true holds
  have final := (claim _ s run).connected returned
  rw [connected] at final
  cases final

end RenderTrust.Edge
