import RenderTrust.Edge.Client

/-!
# `RelayClient.run`

The task of `run` and a call of `disconnect` beside it. A step of the task goes from one
await to the next.
-/
namespace RenderTrust.Edge

structure Backoff where
  initialBackoff : ℚ
  maxBackoff : ℚ
  backoffMultiplier : ℚ

def defaultBackoff : Backoff := ⟨1, 30, 2⟩

/-- What `run` awaits. -/
inductive Await where
  | started
  | connect
  | message
  | handler (frame : Frame)
  | sleep (seconds : ℚ)
  | stopped

inductive Disconnect where
  | notCalled
  | closing
  | returned
  deriving DecidableEq, Repr

/-- The socket is the one that `websockets.connect` returned last, `ws` says whether `_ws` is
set to it, and `buffer` has the frames that it received and the receive loop has not taken.
After `disconnect` has returned, `late` collects the frames that the loop takes, and
`resumed` counts the awaits of `run` that end. -/
structure RunState where
  running : Bool
  connected : Bool
  ws : Bool
  backoff : ℚ
  isOpen : Bool
  buffer : List Frame
  await : Await
  disconnect : Disconnect
  late : List Frame
  resumed : ℕ

/-- How an await of `run` ends. -/
inductive Resumption where
  | begin
  | connectFails
  | connectReturns
  | received
  | handled
  | handlerRaises
  | woken
  | cancelled
  deriving DecidableEq, Repr

/-- The receive loop asks for a message next. -/
def Resumption.asks : Resumption → Bool
  | .received | .handled => true
  | _ => false

inductive RunStep where
  | resume (resumption : Resumption)
  | arrives (frame : Frame)
  | drops
  | disconnect
  | closeReturns

namespace RunState

def new : RunState := ⟨false, false, false, 0, false, [], .started, .notCalled, [], 0⟩

/-- The connection is over: the `finally` block, and what follows it in the loop. -/
def lost (s : RunState) : RunState :=
  { s with
    connected := false
    ws := false
    await := if s.running then .sleep s.backoff else .stopped }

/-- The receive loop asks for the next message. What a closed socket has in its buffer is
still delivered. -/
def next (s : RunState) : RunState :=
  match s.buffer with
  | frame :: buffer =>
      { s with
        buffer
        await := .handler frame
        late := if s.disconnect = .returned then frame :: s.late else s.late }
  | [] => if s.isOpen then { s with await := .message } else s.lost

def resume (b : Backoff) (s : RunState) : Resumption → Option RunState
  | .begin =>
      match s.await with
      | .started =>
          some { s with running := true, backoff := b.initialBackoff, await := .connect }
      | _ => none
  | .connectFails =>
      match s.await with
      | .connect => some s.lost
      | _ => none
  | .connectReturns =>
      match s.await with
      | .connect =>
          some (next { s with
            ws := true
            connected := true
            backoff := b.initialBackoff
            isOpen := true
            buffer := [] })
      | _ => none
  | .received =>
      match s.await with
      | .message => if s.buffer.isEmpty ∧ s.isOpen then none else some s.next
      | _ => none
  | .handled =>
      match s.await with
      | .handler _ => some s.next
      | _ => none
  | .handlerRaises =>
      match s.await with
      | .handler _ => some s.lost
      | _ => none
  | .woken =>
      match s.await with
      | .sleep _ =>
          some { s with
            backoff := min (s.backoff * b.backoffMultiplier) b.maxBackoff
            await := if s.running then .connect else .stopped }
      | _ => none
  | .cancelled =>
      match s.await with
      | .connect | .message | .handler _ =>
          some { s with connected := false, ws := false, await := .stopped }
      | .sleep _ | .started => some { s with await := .stopped }
      | .stopped => none

def step (b : Backoff) (s : RunState) : RunStep → Option RunState
  | .resume resumption =>
      (s.resume b resumption).map fun t =>
        if s.disconnect = .returned then { t with resumed := t.resumed + 1 } else t
  | .arrives frame => if s.isOpen then some { s with buffer := s.buffer ++ [frame] } else none
  | .drops => some { s with isOpen := false }
  | .disconnect =>
      if s.disconnect = .notCalled then
        some { s with
          running := false
          connected := false
          disconnect := if s.ws then .closing else .returned }
      else none
  | .closeReturns =>
      if s.disconnect = .closing then
        some { s with isOpen := false, ws := false, disconnect := .returned }
      else none

/-! ## What an await that ends finds and what it leaves -/

/-- The receive loop runs. -/
def inLoop (s : RunState) : Bool :=
  match s.await with
  | .message | .handler _ => true
  | _ => false

inductive Resumes (b : Backoff) (s : RunState) : Resumption → RunState → Prop
  | begins (await : s.await = .started) :
      Resumes b s .begin
        { s with running := true, backoff := b.initialBackoff, await := .connect }
  | fails (await : s.await = .connect) : Resumes b s .connectFails s.lost
  | connects (await : s.await = .connect) :
      Resumes b s .connectReturns
        { s with
          ws := true
          connected := true
          backoff := b.initialBackoff
          isOpen := true
          buffer := []
          await := .message }
  | takes {resumption : Resumption} {frame : Frame} {buffer : List Frame}
      (asks : resumption.asks) (loop : s.inLoop) (buffered : s.buffer = frame :: buffer) :
      Resumes b s resumption
        { s with
          buffer
          await := .handler frame
          late := if s.disconnect = .returned then frame :: s.late else s.late }
  | waits {resumption : Resumption} (asks : resumption.asks) (loop : s.inLoop)
      (empty : s.buffer = []) (open_ : s.isOpen) :
      Resumes b s resumption { s with await := .message }
  | ends {resumption : Resumption} (asks : resumption.asks) (loop : s.inLoop)
      (empty : s.buffer = []) : Resumes b s resumption s.lost
  | raises (loop : s.inLoop) : Resumes b s .handlerRaises s.lost
  | wakes {seconds : ℚ} (await : s.await = .sleep seconds) :
      Resumes b s .woken
        { s with
          backoff := min (s.backoff * b.backoffMultiplier) b.maxBackoff
          await := if s.running then .connect else .stopped }
  | breaks (alive : s.await ≠ .stopped) :
      Resumes b s .cancelled { s with connected := false, ws := false, await := .stopped }
  | stops (alive : s.await ≠ .stopped) : Resumes b s .cancelled { s with await := .stopped }

theorem resumes_next {b : Backoff} {s : RunState} {resumption : Resumption}
    (asks : resumption.asks) (loop : s.inLoop) : Resumes b s resumption s.next := by
  unfold next
  split
  · rename_i frame buffer buffered
    exact .takes asks loop buffered
  · rename_i empty
    split
    · rename_i open_
      exact .waits asks loop empty open_
    · exact .ends asks loop empty

theorem resumes_of_resume {b : Backoff} {s t : RunState} {resumption : Resumption}
    (resumed : s.resume b resumption = some t) : Resumes b s resumption t := by
  cases resumption with
  | begin | connectFails | woken =>
      simp only [resume] at resumed
      split at resumed
      · rename_i await
        cases resumed
        constructor
        exact await
      · cases resumed
  | connectReturns =>
      simp only [resume] at resumed
      split at resumed
      · rename_i await
        cases resumed
        exact .connects await
      · cases resumed
  | received =>
      simp only [resume] at resumed
      split at resumed
      · rename_i await
        obtain ⟨_, ⟨⟩⟩ := Option.ite_none_left_eq_some.mp resumed
        apply resumes_next rfl
        simp only [inLoop, await]
      · cases resumed
  | handled =>
      simp only [resume] at resumed
      split at resumed
      · rename_i await
        cases resumed
        apply resumes_next rfl
        simp only [inLoop, await]
      · cases resumed
  | handlerRaises =>
      simp only [resume] at resumed
      split at resumed
      · rename_i await
        cases resumed
        apply Resumes.raises
        simp only [inLoop, await]
      · cases resumed
  | cancelled =>
      simp only [resume] at resumed
      split at resumed
      · rename_i await
        cases resumed
        exact .breaks (by simp [await])
      · rename_i await
        cases resumed
        exact .breaks (by simp [await])
      · rename_i await
        cases resumed
        exact .breaks (by simp [await])
      · rename_i await
        cases resumed
        exact .stops (by simp [await])
      · rename_i await
        cases resumed
        exact .stops (by simp [await])
      · cases resumed

/-! ## The end of a connection -/

section Lost
variable {s : RunState}

@[simp] theorem lost_inLoop : s.lost.inLoop = false := by
  unfold lost inLoop
  cases s.running <;> rfl

theorem lost_await (halted : s.running = false) : s.lost.await = .stopped := by
  simp [lost, halted]

end Lost

end RunState
end RenderTrust.Edge
