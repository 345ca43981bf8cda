import Mathlib.Algebra.Order.Field.Rat
import Mathlib.Tactic.Linarith
import RenderTrust.Edge.Run
import RenderTrust.Lib.Runs

/-!
# How long `run` sleeps

Between two connections the sleeps grow by the multiplier up to the maximum, and a connection
starts them anew.
-/
namespace RenderTrust.Edge
open Lib.Runs

/-- The task of `run`, and the sleeps since it started or last connected, the last of them at
the end. -/
structure Watched where
  state : RunState
  slept : List ℚ

namespace Watched

def new : Watched := ⟨.new, []⟩

/-- What is slept when the task gets to `t`. -/
def record (w : Watched) (t : RunState) : RunStep → List ℚ
  | .resume .connectReturns => []
  | _ =>
      match w.state.await, t.await with
      | .sleep _, _ => w.slept
      | _, .sleep seconds => w.slept ++ [seconds]
      | _, _ => w.slept

def step (b : Backoff) (w : Watched) (e : RunStep) : Option Watched :=
  (w.state.step b e).map fun t => ⟨t, w.record t e⟩

end Watched

/-- The `k`-th sleep, counted from zero. -/
def Backoff.nth (b : Backoff) (k : ℕ) : ℚ :=
  min (b.initialBackoff * b.backoffMultiplier ^ k) b.maxBackoff

structure Backoff.Growing (b : Backoff) : Prop where
  initial : b.initialBackoff ≤ b.maxBackoff
  multiplier : 1 ≤ b.backoffMultiplier

section Growth
variable {b : Backoff}

theorem nth_zero (growing : b.Growing) : b.nth 0 = b.initialBackoff := by
  unfold Backoff.nth
  rw [pow_zero, mul_one]
  exact min_eq_left growing.initial

theorem nth_le (k : ℕ) : b.nth k ≤ b.maxBackoff := min_le_right _ _

/-- What has reached the maximum stays there. -/
theorem nth_succ (growing : b.Growing) (k : ℕ) :
    min (b.nth k * b.backoffMultiplier) b.maxBackoff = b.nth (k + 1) := by
  have step : b.initialBackoff * b.backoffMultiplier ^ (k + 1) =
      b.initialBackoff * b.backoffMultiplier ^ k * b.backoffMultiplier := by
    rw [pow_succ, mul_assoc]
  have positive : 0 < b.backoffMultiplier := one_pos.trans_le growing.multiplier
  unfold Backoff.nth
  rw [step]
  generalize raw : b.initialBackoff * b.backoffMultiplier ^ k = x
  rcases le_or_gt x b.maxBackoff with below | above
  · rw [min_eq_left below]
  · rw [min_eq_right above.le]
    have high : b.maxBackoff ≤ b.maxBackoff * b.backoffMultiplier := by
      have nonneg : 0 ≤ b.maxBackoff := by
        by_contra negative
        rw [not_le] at negative
        have shrunk : x ≤ b.initialBackoff := by
          rw [← raw]
          exact mul_le_of_one_le_right (growing.initial.trans negative.le)
            (one_le_pow₀ growing.multiplier)
        linarith [growing.initial]
      exact le_mul_of_one_le_right nonneg growing.multiplier
    have higher := high.trans (mul_le_mul_of_nonneg_right above.le positive.le)
    rw [min_eq_right high, min_eq_right higher]

end Growth

/-- The sleeps are those of the law, in order. -/
def Backoff.Follows (b : Backoff) (slept : List ℚ) : Prop :=
  ∀ k (h : k < slept.length), slept[k] = b.nth k

theorem Backoff.Follows.nil {b : Backoff} : b.Follows [] := nofun

theorem Backoff.Follows.concat {b : Backoff} {slept : List ℚ} (follows : b.Follows slept) :
    b.Follows (slept ++ [b.nth slept.length]) := by
  intro k h
  rw [List.length_append, List.length_singleton, Nat.lt_succ_iff_lt_or_eq] at h
  rcases h with before | rfl
  · rw [List.getElem_append_left before]
    exact follows k before
  · exact List.getElem_concat_length rfl _

/-- The sleeps follow the law, and so will the next. -/
inductive Lawful (b : Backoff) : Watched → Prop
  | started {w : Watched} (await : w.state.await = .started) (none : w.slept = []) : Lawful b w
  | awake {w : Watched} (follows : b.Follows w.slept)
      (busy : w.state.await = .connect ∨ w.state.inLoop)
      (next : w.state.backoff = b.nth w.slept.length) : Lawful b w
  | asleep {w : Watched} {seconds : ℚ} {before : List ℚ} (follows : b.Follows w.slept)
      (await : w.state.await = .sleep seconds) (last : w.slept = before ++ [seconds])
      (next : w.state.backoff = b.nth before.length) : Lawful b w
  | stopped {w : Watched} (follows : b.Follows w.slept) (await : w.state.await = .stopped) :
      Lawful b w

theorem Lawful.follows {b : Backoff} {w : Watched} (lawful : Lawful b w) : b.Follows w.slept := by
  cases lawful with
  | started _ none =>
      rw [none]
      exact .nil
  | awake follows | asleep follows | stopped follows => exact follows

section Steps
open RunState
variable {b : Backoff} {w : Watched} {s t : RunState} {resumption : Resumption}

/-- A connection that is lost, or was not made, leads to the next sleep. -/
theorem Lawful.lost {slept : List ℚ} (follows : b.Follows slept)
    (next : s.backoff = b.nth slept.length) :
    Lawful b ⟨s.lost, if s.running then slept ++ [s.backoff] else slept⟩ := by
  cases running : s.running with
  | true =>
      rw [if_pos rfl, next]
      refine .asleep follows.concat ?_ rfl next
      simp [RunState.lost, running, next]
  | false =>
      rw [if_neg (by decide)]
      exact .stopped follows (lost_await running)

/-- Only the await and the delay matter. -/
theorem Lawful.same {slept : List ℚ} (lawful : Lawful b ⟨s, slept⟩) (await : t.await = s.await)
    (backoff : t.backoff = s.backoff) : Lawful b ⟨t, slept⟩ := by
  have loop : t.inLoop = s.inLoop := by
    unfold inLoop
    rw [await]
  cases lawful with
  | started was none => exact .started (await.trans was) none
  | awake follows busy next =>
      exact .awake follows (busy.imp await.trans loop.trans) (backoff.trans next)
  | asleep follows was last next =>
      exact .asleep follows (await.trans was) last (backoff.trans next)
  | stopped follows was => exact .stopped follows (await.trans was)

theorem record_eq {e : RunStep} (other : e ≠ .resume .connectReturns) :
    w.record t e = match w.state.await, t.await with
      | .sleep _, _ => w.slept
      | _, .sleep seconds => w.slept ++ [seconds]
      | _, _ => w.slept := by
  unfold Watched.record
  split
  · exact absurd rfl other
  · rfl

theorem record_resume (other : resumption ≠ .connectReturns) :
    w.record t (.resume resumption) = match w.state.await, t.await with
      | .sleep _, _ => w.slept
      | _, .sleep seconds => w.slept ++ [seconds]
      | _, _ => w.slept :=
  record_eq fun same => other (RunStep.resume.inj same)

/-- No sleep begins. -/
theorem Lawful.quiet (other : resumption ≠ .connectReturns)
    (awake : ∀ seconds, t.await ≠ .sleep seconds) (lawful : Lawful b ⟨t, w.slept⟩) :
    Lawful b ⟨t, w.record t (.resume resumption)⟩ := by
  have same : w.record t (.resume resumption) = w.slept := by
    rw [record_resume other]
    cases await : t.await with
    | sleep seconds => exact absurd await (awake seconds)
    | started | connect | message | handler | stopped => cases w.state.await <;> rfl
  rwa [same]

theorem record_asleep {seconds : ℚ} (other : resumption ≠ .connectReturns)
    (asleep : w.state.await = .sleep seconds) : w.record t (.resume resumption) = w.slept := by
  rw [record_resume other, asleep]

theorem record_lost (other : resumption ≠ .connectReturns)
    (busy : w.state.await = .connect ∨ w.state.inLoop) :
    w.record w.state.lost (.resume resumption) =
      if w.state.running then w.slept ++ [w.state.backoff] else w.slept := by
  rw [record_resume other]
  cases running : w.state.running with
  | true =>
      have asleep : w.state.lost.await = .sleep w.state.backoff := by simp [RunState.lost, running]
      rw [asleep, if_pos rfl]
      cases await : w.state.await with
      | sleep seconds => simp [inLoop, await] at busy
      | started | connect | message | handler | stopped => rfl
  | false =>
      rw [lost_await running, if_neg (by decide)]
      cases w.state.await <;> rfl

/-- Between a connection, or an attempt at one, and the next sleep. -/
theorem Lawful.next (lawful : Lawful b w) (busy : w.state.await = .connect ∨ w.state.inLoop) :
    w.state.backoff = b.nth w.slept.length := by
  cases lawful with
  | awake _ _ next => exact next
  | started await | asleep _ await | stopped _ await => simp [inLoop, await] at busy

theorem Lawful.busy_lost (lawful : Lawful b w) (other : resumption ≠ .connectReturns)
    (busy : w.state.await = .connect ∨ w.state.inLoop) :
    Lawful b ⟨w.state.lost, w.record w.state.lost (.resume resumption)⟩ := by
  rw [record_lost other busy]
  exact .lost lawful.follows (lawful.next busy)

/-- Asleep, the task sleeps the last of the sleeps. -/
theorem Lawful.last {seconds : ℚ} (lawful : Lawful b w) (await : w.state.await = .sleep seconds) :
    ∃ before, w.slept = before ++ [seconds] ∧ w.state.backoff = b.nth before.length := by
  cases lawful with
  | started other | stopped _ other =>
      rw [await] at other
      cases other
  | awake _ busy => simp [inLoop, await] at busy
  | @asleep slept before _ same last next =>
      rw [await] at same
      cases same
      exact ⟨before, last, next⟩

theorem asks_ne (asks : resumption.asks) : resumption ≠ .connectReturns := by
  rintro rfl
  cases asks

theorem Lawful.resumes (growing : b.Growing) (lawful : Lawful b w)
    (moved : Resumes b w.state resumption t) :
    Lawful b ⟨t, w.record t (.resume resumption)⟩ := by
  have follows := lawful.follows
  cases moved with
  | begins await =>
      cases lawful with
      | started _ none =>
          refine .quiet (by decide) (by simp) (.awake follows (.inl rfl) ?_)
          rw [none]
          exact (nth_zero growing).symm
      | awake _ busy => simp [inLoop, await] at busy
      | asleep _ asleep =>
          rw [await] at asleep
          cases asleep
      | stopped _ stopped =>
          rw [await] at stopped
          cases stopped
  | fails await => exact lawful.busy_lost (by decide) (.inl await)
  | connects await => exact .awake .nil (.inr rfl) (nth_zero growing).symm
  | takes asks loop buffered =>
      refine .quiet (asks_ne asks) (by simp) (.awake follows (.inr rfl) ?_)
      exact lawful.next (.inr loop)
  | waits asks loop =>
      refine .quiet (asks_ne asks) (by simp) (.awake follows (.inr rfl) ?_)
      exact lawful.next (.inr loop)
  | ends asks loop => exact lawful.busy_lost (asks_ne asks) (.inr loop)
  | raises loop => exact lawful.busy_lost (by decide) (.inr loop)
  | wakes await =>
      rw [record_asleep (by decide) await]
      obtain ⟨before, last, next⟩ := lawful.last await
      cases w.state.running with
      | true =>
          refine .awake follows (.inl rfl) ?_
          rw [next, nth_succ growing, last, List.length_append]
          rfl
      | false => exact .stopped follows rfl
  | breaks => exact .quiet (by decide) (by simp) (.stopped follows rfl)
  | stops => exact .quiet (by decide) (by simp) (.stopped follows rfl)

/-- A step beside the task. -/
theorem Lawful.beside {e : RunStep} (lawful : Lawful b w) (other : e ≠ .resume .connectReturns)
    (await : t.await = w.state.await) (backoff : t.backoff = w.state.backoff) :
    Lawful b ⟨t, w.record t e⟩ := by
  have same : w.record t e = w.slept := by
    rw [record_eq other, await]
    cases w.state.await <;> rfl
  rw [same]
  exact Lawful.same (s := w.state) lawful await backoff

theorem Lawful.step {w' : Watched} {e : RunStep} (growing : b.Growing) (lawful : Lawful b w)
    (moved : w.step b e = some w') : Lawful b w' := by
  obtain ⟨t, stepped, rfl⟩ := Option.map_eq_some_iff.mp moved
  cases e with
  | resume resumption =>
      obtain ⟨u, resumed, rfl⟩ := Option.map_eq_some_iff.mp stepped
      have next := lawful.resumes growing (resumes_of_resume resumed)
      split
      · exact next.same rfl rfl
      · exact next
  | arrives frame =>
      obtain ⟨-, ⟨⟩⟩ := Option.ite_none_right_eq_some.mp stepped
      exact lawful.beside nofun rfl rfl
  | drops =>
      cases stepped
      exact lawful.beside nofun rfl rfl
  | disconnect =>
      obtain ⟨-, ⟨⟩⟩ := Option.ite_none_right_eq_some.mp stepped
      exact lawful.beside nofun rfl rfl
  | closeReturns =>
      obtain ⟨-, ⟨⟩⟩ := Option.ite_none_right_eq_some.mp stepped
      exact lawful.beside nofun rfl rfl

theorem Lawful.run {w' : Watched} {es : List RunStep} (growing : b.Growing)
    (run : Run (Watched.step b) Always w es w') (lawful : Lawful b w) : Lawful b w' :=
  run.invariant (fun _ _ _ lawful _ moved => lawful.step growing moved) lawful

end Steps

section Runs
variable {b : Backoff} {s t : RunState} {es : List RunStep}

/-- Every run can be watched. -/
theorem watched_of_run (run : Run (RunState.step b) Always s es t) (slept : List ℚ) :
    ∃ slept', Run (Watched.step b) Always ⟨s, slept⟩ es ⟨t, slept'⟩ := by
  induction run generalizing slept with
  | nil s => exact ⟨slept, .nil _⟩
  | @cons s u t e es allowed accepted _ ih =>
      obtain ⟨slept', rest⟩ := ih (Watched.record ⟨s, slept⟩ u e)
      refine ⟨slept', .cons trivial ?_ rest⟩
      exact Option.map_eq_some_iff.mpr ⟨u, accepted, rfl⟩

/-- In every run, the sleeps since the start or the last connection grow from the initial backoff
by the multiplier, up to the maximum. -/
theorem backoff_law (growing : b.Growing) (run : Run (RunState.step b) Always .new es s) :
    ∃ slept, Run (Watched.step b) Always .new es ⟨s, slept⟩ ∧
      (∀ k (h : k < slept.length), slept[k] =
        min (b.initialBackoff * b.backoffMultiplier ^ k) b.maxBackoff) ∧
      (∀ first ∈ slept.head?, first = b.initialBackoff) ∧
      (∀ seconds ∈ slept, seconds ≤ b.maxBackoff) ∧
      ∀ seconds, s.await = .sleep seconds → slept.getLast? = some seconds := by
  obtain ⟨slept, watched⟩ := watched_of_run run []
  have lawful : Lawful b ⟨s, slept⟩ := Lawful.run growing watched (.started rfl rfl)
  have follows : b.Follows slept := lawful.follows
  refine ⟨slept, watched, follows, ?_, ?_, ?_⟩
  · intro first head
    cases slept with
    | nil => cases head
    | cons d rest =>
        obtain rfl := Option.some.inj head
        exact (follows 0 (Nat.zero_lt_succ _)).trans (nth_zero growing)
  · intro seconds member
    obtain ⟨k, h, rfl⟩ := List.mem_iff_getElem.mp member
    rw [follows k h]
    exact nth_le k
  · intro seconds await
    obtain ⟨before, last, -⟩ := lawful.last await
    obtain rfl : slept = _ := last
    exact List.getLast?_concat

end Runs

theorem growing_defaultBackoff : defaultBackoff.Growing := ⟨by decide, by decide⟩

def sampleOutage : List RunStep :=
  [.resume .begin, .resume .connectFails, .resume .woken, .resume .connectFails]

/-- Two attempts that fail: the second sleep is twice as long. -/
theorem backoff_law_sampleOutage : ∃ s slept,
    Run (Watched.step defaultBackoff) Always .new sampleOutage ⟨s, slept⟩ ∧ slept.length = 2 ∧
      ∀ k (h : k < slept.length), slept[k] = min (1 * 2 ^ k) 30 := by
  have accepted : (exec (RunState.step defaultBackoff) Always .new sampleOutage).isSome := by
    decide +kernel
  obtain ⟨s, run⟩ := run_of_isSome accepted
  obtain ⟨slept, watched, law, -⟩ := backoff_law growing_defaultBackoff run
  have two : (exec (Watched.step defaultBackoff) Always .new sampleOutage).map
      (fun w => w.slept.length) = some 2 := by decide +kernel
  rw [exec_eq_some.mpr watched] at two
  exact ⟨s, slept, watched, Option.some.inj two, law⟩

end RenderTrust.Edge
