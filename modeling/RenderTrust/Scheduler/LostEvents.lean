import RenderTrust.Scheduler.Autoscale

/-!
# Scale events that are lost

`emit_scale_event` returns whether the event was published, and `check_and_scale` does not look at
it. Here is in which runs its answers and its cooldowns are still those of the published events.
-/
namespace RenderTrust.Scheduler
open Lib.NonInterference AutoScaleMonitor

variable {τ : Type}

/-- A call publishes an event on the channel. -/
def Publishes (m : AutoScaleMonitor) (c : Check τ) (scale : Scale) : Prop :=
  ∃ event ∈ (m.checkAndScale c).1.published, event.channel = scale.channel

/-- A call returns what it published, and without an event there is no cooldown: the next call
with the load beyond the threshold publishes if Redis lets it. -/
structure Honest (m : AutoScaleMonitor) (c : Check τ) : Prop where
  told : ∀ scale, (m.checkAndScale c).1.returned = some scale ↔ Publishes m c scale
  free : ∀ scale, ¬ Publishes m c scale → (m.checkAndScale c).2.last scale = m.last scale
  next : ∀ scale, m.Attempts c scale → ¬ Publishes m c scale → ∀ later : Check τ,
    c.checked ≤ later.checked → scale.Beyond later.avgLoad → later.redis.time.isSome →
      Publishes (m.checkAndScale c).2 later scale

section Calls
variable {m : AutoScaleMonitor} {c : Check τ} {scale other : Scale}

theorem emitted_iff {channel : String} {avgLoad : ℚ} {nodeCount : ℕ} :
    (emitScaleEvent channel avgLoad nodeCount c).2 ≠ [] ↔ c.redis.time.isSome := by
  unfold emitScaleEvent
  cases c.redis with
  | published | publishedThenRaises => exact iff_of_true (List.cons_ne_nil _ _) rfl
  | unavailable => exact iff_of_false (fun empty => empty rfl) Bool.false_ne_true

/-- What a call tries to publish gets out if Redis lets it. -/
theorem publishes_iff (attempts : m.Attempts c scale) :
    Publishes m c other ↔ other = scale ∧ c.redis.time.isSome := by
  unfold Publishes
  rw [checkAndScale_attempts attempts]
  constructor
  · rintro ⟨event, member, channel⟩
    obtain ⟨same, -⟩ := mem_emitScaleEvent member
    exact ⟨Scale.channel_inj (channel.symm.trans same), emitted_iff.mp (List.ne_nil_of_mem member)⟩
  · rintro ⟨rfl, out⟩
    obtain ⟨event, member⟩ := List.exists_mem_of_ne_nil _ (emitted_iff.mpr out)
    exact ⟨event, member, (mem_emitScaleEvent member).1⟩

theorem not_publishes (idle : ∀ scale, ¬ m.Attempts c scale) : ¬ Publishes m c scale := by
  unfold Publishes
  rw [checkAndScale_idle idle]
  rintro ⟨event, member, -⟩
  exact List.not_mem_nil member

/-- A call is honest exactly if what it tries to publish, if anything, gets out. -/
theorem honest_iff : Honest m c ↔ ∀ scale, m.Attempts c scale → c.redis.time.isSome := by
  constructor
  · intro honest scale attempts
    have returned : (m.checkAndScale c).1.returned = some scale := by
      rw [checkAndScale_attempts attempts]
    exact ((publishes_iff attempts).mp ((honest.told scale).mp returned)).2
  · intro out
    by_cases tried : ∃ scale, m.Attempts c scale
    · obtain ⟨scale, attempts⟩ := tried
      have published : ∀ other, Publishes m c other ↔ other = scale := fun other =>
        (publishes_iff attempts).trans (and_iff_left (out scale attempts))
      have only : ∀ other, m.Attempts c other → other = scale := fun other attempts' =>
        Scale.beyond_unique attempts'.1 attempts.1
      refine ⟨fun other => ?_, fun other lost => ?_, fun other attempts' lost => ?_⟩
      · rw [checkAndScale_attempts attempts, published, Option.some.injEq]
        exact eq_comm
      · rw [checkAndScale_attempts attempts]
        exact last_setLast_of_ne fun same => lost ((published other).mpr same)
      · exact absurd ((published other).mpr (only other attempts')) lost
    · have idle : ∀ scale, ¬ m.Attempts c scale := fun scale attempts => tried ⟨scale, attempts⟩
      refine ⟨fun scale => ?_, fun scale _ => ?_, fun scale attempts => ?_⟩
      · rw [checkAndScale_idle idle]
        exact iff_of_false nofun (not_publishes idle)
      · rw [checkAndScale_idle idle]
      · exact absurd attempts (idle scale)

end Calls

/-- In every run, all calls are honest exactly if every event that is tried is published. -/
theorem honest_run_iff (m : AutoScaleMonitor) (calls : List (Check τ)) :
    (∀ before c after, calls = before ++ c :: after → Honest ((monitor τ).final m before) c) ↔
      ∀ before c after, calls = before ++ c :: after → ∀ scale,
        ((monitor τ).final m before).Attempts c scale → c.redis.time.isSome := by
  constructor
  · intro honest before c after split
    exact honest_iff.mp (honest before c after split)
  · intro out before c after split
    exact honest_iff.mpr (out before c after split)

theorem not_honest : ¬ ∀ (m : AutoScaleMonitor) (calls : List (Check ℕ)) before c after,
    calls = before ++ c :: after → Honest ((monitor ℕ).final m before) c := by
  intro honest
  have lost : Honest .new (⟨loaded [9 / 10], 0, 0, .unavailable, 1⟩ : Check ℕ) :=
    honest .new [_] [] _ [] rfl
  have attempts : AutoScaleMonitor.new.Attempts
      (⟨loaded [9 / 10], 0, 0, .unavailable, 1⟩ : Check ℕ) .up := ⟨by decide +kernel, rfl⟩
  exact Bool.false_ne_true (honest_iff.mp lost .up attempts)

end RenderTrust.Scheduler
