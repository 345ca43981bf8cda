import Mathlib.Logic.Function.Basic
import RenderTrust.Lib.Runs
import RenderTrust.Lib.Windows

/-!
# `core/auth/rate_limit.py`

A counter in Redis for each path and client. Each command may fail, or take effect with its answer
lost; the commands of one request are taken at one time of the server's clock, in milliseconds.
-/
namespace RenderTrust.Auth
open Lib.Runs Lib.Windows

/-- A key is gone once its time to live has passed. -/
structure Counter where
  count : ℕ
  deadline : Option ℤ
  deriving DecidableEq, Repr

abbrev Counters := String → Option Counter

def live (now : ℤ) (counter : Option Counter) : Option Counter :=
  counter.filter fun c => c.deadline.all fun deadline => now < deadline

inductive Ending where
  | answered
  | lost
  | failed
  deriving DecidableEq, Repr

/-- How the calls that a request makes of Redis end; those it does not make have no effect. -/
structure Calls where
  fromUrl : Bool
  incr : Ending
  expire : Ending
  ttl : Ending
  aclose : Bool
  deriving DecidableEq, Repr

def Calls.available : Calls := ⟨true, .answered, .answered, .answered, true⟩

inductive RateLimitError where
  | httpException (statusCode : ℕ) (detail : String) (retryAfter : String)
  | redisError
  deriving DecidableEq, Repr

abbrev RateLimitM := EStateM RateLimitError Counters

def command {α : Type} (ending : Ending) (effect : RateLimitM α) : RateLimitM α :=
  match ending with
  | .answered => effect
  | .lost => do
      let _ ← effect
      throw .redisError
  | .failed => throw .redisError

def connected (up : Bool) : RateLimitM Unit := if up then pure () else throw .redisError

/-- `INCR`: a key that is not there counts from 0 and has no time to live. -/
def incr (now : ℤ) (key : String) : RateLimitM ℕ := do
  let counters ← get
  let counter := (live now (counters key)).getD ⟨0, none⟩
  set (Function.update counters key (some { counter with count := counter.count + 1 }) : Counters)
  return counter.count + 1

def expire (now : ℤ) (key : String) (seconds : ℤ) : RateLimitM Unit := do
  let counters ← get
  let counter := (live now (counters key)).map fun c =>
    { c with deadline := some (now + 1000 * seconds) }
  set (Function.update counters key counter : Counters)

/-- `TTL`, in whole seconds; -1 for a key without a time to live, -2 for no key. -/
def ttl (now : ℤ) (key : String) : RateLimitM ℤ := do
  let counters ← get
  match live now (counters key) with
  | none => return -2
  | some ⟨_, none⟩ => return -1
  | some ⟨_, some deadline⟩ => return (deadline - now + 500) / 1000

structure Client where
  path : String
  host : Option String
  deriving DecidableEq, Repr

def Client.key (request : Client) : String :=
  "rate_limit:" ++ request.path ++ ":" ++ request.host.getD "unknown"

structure RateLimiter where
  maxRequests : ℤ
  windowSeconds : ℤ
  deriving DecidableEq, Repr

namespace RateLimiter
variable (limiter : RateLimiter)

/-- `if current > self.max_requests: …`. -/
def compare (key : String) (now : ℤ) (calls : Calls) (current : ℕ) : RateLimitM Unit := do
  if limiter.maxRequests < current then
    let ttl ← command calls.ttl (ttl now key)
    throw (.httpException 429 "Too many requests" (toString (max ttl 1)))

/-- What is done between the opening and the closing of the connection. -/
def check (key : String) (now : ℤ) (calls : Calls) : RateLimitM Unit := do
  let current ← command calls.incr (incr now key)
  if current = 1 then command calls.expire (expire now key limiter.windowSeconds)
  compare limiter key now calls current

/-- A request that raises nothing goes on to its endpoint. -/
def call (request : Client) (now : ℤ) (calls : Calls) : RateLimitM Unit :=
  try
    connected calls.fromUrl
    try
      check limiter request.key now calls
    finally
      connected calls.aclose
  catch
    | .httpException statusCode detail retryAfter =>
        throw (.httpException statusCode detail retryAfter)
    | .redisError => pure ()

end RateLimiter

/-- The window in milliseconds. -/
def RateLimiter.window (limiter : RateLimiter) : ℤ := 1000 * limiter.windowSeconds

def loginLimiter : RateLimiter := ⟨5, 60⟩

/-! ## What a request does to its counter -/

/-- The counter after `INCR`. -/
def counted (now : ℤ) (counter : Option Counter) : Counter :=
  let c := (live now counter).getD ⟨0, none⟩
  { c with count := c.count + 1 }

/-- The counter after `INCR` and the `EXPIRE` of a first request. -/
def RateLimiter.started (limiter : RateLimiter) (now : ℤ) (counter : Option Counter) :
    Option Counter :=
  if (counted now counter).count = 1 then
    (live now (some (counted now counter))).map fun c =>
      { c with deadline := some (now + 1000 * limiter.windowSeconds) }
  else some (counted now counter)

section Counter
variable {limiter : RateLimiter} {now : ℤ} {counter : Option Counter} {c : Counter}

theorem live_some : live now (some c) =
    if c.deadline.all fun deadline => now < deadline then some c else none := by
  rw [live, Option.filter_some]

theorem counted_of_gone (gone : live now counter = none) : counted now counter = ⟨1, none⟩ := by
  rw [counted, gone]
  rfl

theorem counted_of_live (there : live now counter = some c) :
    counted now counter = { c with count := c.count + 1 } := by
  rw [counted, there]
  rfl

theorem started_of_gone (gone : live now counter = none) :
    limiter.started now counter = some ⟨1, some (now + limiter.window)⟩ := by
  rw [RateLimiter.started, counted_of_gone gone]
  rfl

theorem started_of_live (there : live now counter = some c) (used : 0 < c.count) :
    limiter.started now counter = some { c with count := c.count + 1 } := by
  have again : c.count + 1 ≠ 1 := by omega
  rw [RateLimiter.started, counted_of_live there, if_neg again]

end Counter

section Call
variable (limiter : RateLimiter) (request : Client) (now : ℤ) (calls : Calls) (counters : Counters)

theorem incr_run (key : String) : (incr now key).run counters =
    .ok (counted now (counters key)).count
      (Function.update counters key (some (counted now (counters key)))) := rfl

theorem ttl_run (key : String) : ∃ seconds, (ttl now key).run counters = .ok seconds counters := by
  unfold ttl
  rw [EStateM.run_bind, EStateM.run_get]
  dsimp only
  split <;> exact ⟨_, rfl⟩

theorem compare_run (key : String) (current : ℕ) :
    ¬ limiter.maxRequests < current ∧
        (limiter.compare key now calls current).run counters = .ok () counters ∨
      calls.ttl ≠ .answered ∧
        (limiter.compare key now calls current).run counters = .error .redisError counters ∨
      limiter.maxRequests < current ∧ ∃ retryAfter,
        (limiter.compare key now calls current).run counters =
          .error (.httpException 429 "Too many requests" retryAfter) counters := by
  unfold RateLimiter.compare
  obtain ⟨seconds, read⟩ := ttl_run now counters key
  split
  · rename_i more
    cases ends : calls.ttl with
    | answered =>
        refine .inr (.inr ⟨more, toString (max seconds 1), ?_⟩)
        rw [EStateM.run_bind, command, read]
        rfl
    | lost =>
        refine .inr (.inl ⟨by simp, ?_⟩)
        rw [EStateM.run_bind, command, EStateM.run_bind, read]
        rfl
    | failed => exact .inr (.inl ⟨by simp, rfl⟩)
  · rename_i within
    exact .inl ⟨within, rfl⟩

/-- What the handlers make of the result of the check: an error of Redis lets the request
through, and so does one that is raised while a refusal closes the connection. -/
theorem call_run (up : calls.fromUrl = true) : (limiter.call request now calls).run counters =
    match (limiter.check request.key now calls).run counters with
    | .ok () after => .ok () after
    | .error .redisError after => .ok () after
    | .error (.httpException statusCode detail retryAfter) after =>
        if calls.aclose then .error (.httpException statusCode detail retryAfter) after
        else .ok () after := by
  have ran : (limiter.call request now calls).run counters =
      (tryCatch (tryFinally (limiter.check request.key now calls) (connected calls.aclose))
        fun error => match error with
          | .httpException statusCode detail retryAfter =>
              throw (.httpException statusCode detail retryAfter)
          | .redisError => pure () : RateLimitM Unit).run counters := by
    rw [RateLimiter.call, up]
    rfl
  rw [ran]
  simp only [tryCatch, tryCatchThe, MonadExceptOf.tryCatch, EStateM.tryCatch, EStateM.run,
    tryFinally, tryFinally', Functor.map, EStateM.map]
  generalize limiter.check request.key now calls counters = checked
  cases calls.aclose <;> rcases checked with ⟨⟩ | ⟨_ | _⟩ <;> rfl

/-- How a request ends: where its commands stop, and what is left of its counter. -/
inductive Called : EStateM.Result RateLimitError Counters Unit → Prop
  | uncounted : calls.fromUrl = false ∨ calls.incr = .failed → Called (.ok () counters)
  | unanswered : calls.fromUrl = true → calls.incr = .lost →
      Called (.ok () (Function.update counters request.key
        (some (counted now (counters request.key)))))
  | unexpired : calls.fromUrl = true → calls.incr = .answered →
      (counted now (counters request.key)).count = 1 → calls.expire = .failed →
      Called (.ok () (Function.update counters request.key
        (some (counted now (counters request.key)))))
  | admitted : calls.incr = .answered →
      (limiter.maxRequests < (counted now (counters request.key)).count → calls ≠ .available) →
      Called (.ok () (Function.update counters request.key
        (limiter.started now (counters request.key))))
  | refused (retryAfter : String) : calls.incr = .answered →
      limiter.maxRequests < (counted now (counters request.key)).count →
      Called (.error (.httpException 429 "Too many requests" retryAfter)
        (Function.update counters request.key (limiter.started now (counters request.key))))

theorem expire_run (first : (counted now (counters request.key)).count = 1) :
    (expire now request.key limiter.windowSeconds).run (Function.update counters request.key
        (some (counted now (counters request.key)))) =
      .ok () (Function.update counters request.key
        (limiter.started now (counters request.key))) := by
  rw [RateLimiter.started, if_pos first, expire, EStateM.run_bind, EStateM.run_get]
  dsimp only
  rw [EStateM.run_set, Function.update_self, Function.update_idem]

/-- The commands after `EXPIRE`, if it was due and is answered. -/
theorem called_compare (answered : calls.incr = .answered) :
    Called limiter request now calls counters
      (match (limiter.compare request.key now calls (counted now (counters request.key)).count).run
          (Function.update counters request.key
            (limiter.started now (counters request.key))) with
        | .ok () after => .ok () after
        | .error .redisError after => .ok () after
        | .error (.httpException statusCode detail retryAfter) after =>
            if calls.aclose then .error (.httpException statusCode detail retryAfter) after
            else .ok () after) := by
  rcases compare_run limiter now calls (Function.update counters request.key
    (limiter.started now (counters request.key))) request.key
    (counted now (counters request.key)).count with
    ⟨within, ran⟩ | ⟨unanswered, ran⟩ | ⟨more, retryAfter, ran⟩
  · rw [ran]
    exact .admitted answered fun more => absurd more within
  · rw [ran]
    refine .admitted answered fun _ same => unanswered ?_
    rw [same]
    rfl
  · rw [ran]
    cases closed : calls.aclose with
    | true => exact .refused retryAfter answered more
    | false =>
        refine .admitted answered fun _ same => ?_
        rw [same] at closed
        cases closed

theorem called : Called limiter request now calls counters
    ((limiter.call request now calls).run counters) := by
  cases up : calls.fromUrl with
  | false =>
      have ran : (limiter.call request now calls).run counters = .ok () counters := by
        rw [RateLimiter.call, up]
        rfl
      rw [ran]
      exact .uncounted (.inl up)
  | true =>
      rw [call_run limiter request now calls counters up]
      unfold RateLimiter.check
      rw [EStateM.run_bind]
      cases incrEnds : calls.incr with
      | failed => exact .uncounted (.inr incrEnds)
      | lost => exact .unanswered up incrEnds
      | answered =>
          rw [command, incr_run]
          dsimp only
          have rest := called_compare limiter request now calls counters incrEnds
          by_cases first : (counted now (counters request.key)).count = 1
          · rw [if_pos first, EStateM.run_bind]
            cases expireEnds : calls.expire with
            | failed => exact .unexpired up incrEnds first expireEnds
            | lost =>
                rw [command, EStateM.run_bind, expire_run limiter request now counters first]
                refine .admitted incrEnds fun _ same => ?_
                rw [same] at expireEnds
                cases expireEnds
            | answered =>
                rw [command, expire_run limiter request now counters first]
                exact rest
          · rw [if_neg first]
            rw [RateLimiter.started, if_neg first] at rest
            exact rest

end Call

end RenderTrust.Auth
