import Mathlib.Algebra.BigOperators.Group.List.Basic
import Mathlib.Data.List.Pairwise
import RenderTrust.Lib.Doubles
import RenderTrust.Lib.NonInterference
import RenderTrust.Scheduler.Models

/-!
# `core/scheduler/autoscale.py`

The fleet monitor with its two cooldowns. Loads are doubles, and their average is computed as the
interpreter of the image, Python 3.11, does. Times are in microseconds.
-/
namespace RenderTrust.Scheduler
open Lib Lib.Doubles Lib.NonInterference

/-- `0.8`. -/
def SCALE_UP_THRESHOLD : ℚ := nearest (4 / 5)

/-- `0.2`. -/
def SCALE_DOWN_THRESHOLD : ℚ := nearest (1 / 5)

/-- Seconds. -/
def COOLDOWN_PERIOD : ℕ := 300

/-- The two kinds of events. -/
inductive Scale where
  | up
  | down
  deriving DecidableEq, Repr

namespace Scale

/-- What `check_and_scale` returns. -/
def value : Scale → String
  | .up => "scale_up"
  | .down => "scale_down"

/-- `SCALE_UP_CHANNEL` and `SCALE_DOWN_CHANNEL`. -/
def channel : Scale → String
  | .up => "fleet:scale_up"
  | .down => "fleet:scale_down"

def Beyond (avgLoad : ℚ) : Scale → Prop
  | .up => SCALE_UP_THRESHOLD < avgLoad
  | .down => avgLoad < SCALE_DOWN_THRESHOLD

instance (avgLoad : ℚ) : ∀ scale, Decidable (Beyond avgLoad scale)
  | .up => inferInstanceAs (Decidable (_ < _))
  | .down => inferInstanceAs (Decidable (_ < _))

theorem channel_inj {s t : Scale} (same : s.channel = t.channel) : s = t := by
  cases s <;> cases t <;> first | rfl | exact absurd same (by decide)

/-- No load is beyond both thresholds. -/
theorem beyond_unique {avgLoad : ℚ} {s t : Scale} (first : s.Beyond avgLoad)
    (second : t.Beyond avgLoad) : s = t := by
  have apart : SCALE_DOWN_THRESHOLD < SCALE_UP_THRESHOLD := by decide +kernel
  cases s with
  | up =>
      cases t with
      | up => rfl
      | down => exact absurd (apart.trans (first.trans second)) (lt_irrefl _)
  | down =>
      cases t with
      | up => exact absurd (apart.trans (second.trans first)) (lt_irrefl _)
      | down => rfl

end Scale

/-- The payload, at the time at which it reaches the channel. -/
structure ScaleEvent where
  channel : String
  avgLoad : ℚ
  nodeCount : ℕ
  timestamp : ℕ
  published : ℕ
  deriving DecidableEq

/-- How the connection to Redis turns out: the event is published and the connection closed, or
it is published and something raises later, or it is not published. -/
inductive Redis where
  | published (time : ℕ)
  | publishedThenRaises (time : ℕ)
  | unavailable
  deriving DecidableEq, Repr

/-- When the event is published. -/
def Redis.time : Redis → Option ℕ
  | .published time => some time
  | .publishedThenRaises time => some time
  | .unavailable => none

/-- A call of `check_and_scale`: the nodes it reads, and the clock where the cooldown is checked,
where the payload is made, and after the event. -/
structure Check (τ : Type) where
  nodes : List (EdgeNode τ ℚ)
  checked : ℕ
  timestamp : ℕ
  redis : Redis
  stamped : ℕ

variable {τ : Type}

namespace Check

def healthy (c : Check τ) : List (EdgeNode τ ℚ) := c.nodes.filter fun node => node.status = .HEALTHY

def avgLoad (c : Check τ) : ℚ :=
  if c.healthy.isEmpty then 0
  else rounded (Doubles.sum (c.healthy.map EdgeNode.currentLoad) / c.healthy.length)

/-- The average of the loads, without any rounding. -/
def exactLoad (c : Check τ) : ℚ :=
  if c.healthy.isEmpty then 0 else (c.healthy.map EdgeNode.currentLoad).sum / c.healthy.length

/-- The readings of the clock do not decrease within the call. -/
def Ordered (c : Check τ) : Prop :=
  c.checked ≤ c.timestamp ∧ c.timestamp ≤ c.stamped ∧
    ∀ time ∈ c.redis.time, c.timestamp ≤ time ∧ time ≤ c.stamped

instance (c : Check τ) : Decidable c.Ordered :=
  inferInstanceAs (Decidable (_ ∧ _ ∧ ∀ time ∈ c.redis.time, _))

end Check

/-- `emit_scale_event`: the returned flag, and the events that get to the channel. -/
def emitScaleEvent (channel : String) (avgLoad : ℚ) (nodeCount : ℕ) (c : Check τ) :
    Bool × List ScaleEvent :=
  let payload := ScaleEvent.mk channel (Doubles.round avgLoad 4) nodeCount c.timestamp
  match c.redis with
  | .published time => (true, [payload time])
  | .publishedThenRaises time => (false, [payload time])
  | .unavailable => (false, [])

structure AutoScaleMonitor where
  lastScaleUp : Option ℕ
  lastScaleDown : Option ℕ
  deriving DecidableEq, Repr

/-- What a call returns and what it publishes. -/
structure Scaling where
  returned : Option Scale
  published : List ScaleEvent
  deriving DecidableEq

namespace AutoScaleMonitor
variable (m : AutoScaleMonitor)

def new : AutoScaleMonitor := ⟨none, none⟩

def last : Scale → Option ℕ
  | .up => m.lastScaleUp
  | .down => m.lastScaleDown

def setLast (time : Option ℕ) : Scale → AutoScaleMonitor
  | .up => { m with lastScaleUp := time }
  | .down => { m with lastScaleDown := time }

/-- `_is_cooled_down`. -/
def isCooledDown (lastEvent : Option ℕ) (now : ℕ) : Bool :=
  lastEvent.all fun time => time + COOLDOWN_PERIOD * 1000000 ≤ now

/-- The branch of a threshold that is crossed: what `emit_scale_event` returns is not used. -/
def cross (c : Check τ) (scale : Scale) : Scaling × AutoScaleMonitor :=
  if isCooledDown (m.last scale) c.checked then
    (⟨some scale, (emitScaleEvent scale.channel c.avgLoad c.healthy.length c).2⟩,
      m.setLast (some c.stamped) scale)
  else (⟨none, []⟩, m)

def checkAndScale (c : Check τ) : Scaling × AutoScaleMonitor :=
  if SCALE_UP_THRESHOLD < c.avgLoad then m.cross c .up
  else if c.avgLoad < SCALE_DOWN_THRESHOLD then m.cross c .down
  else (⟨none, []⟩, m)

section Last
variable {m} {s t : Scale} {time : Option ℕ}

@[simp] theorem last_setLast : (m.setLast time s).last s = time := by
  cases s <;> rfl

theorem last_setLast_of_ne (other : t ≠ s) : (m.setLast time s).last t = m.last t := by
  cases s <;> cases t <;> first | rfl | exact absurd rfl other

end Last

/-- The kind of event that a call tries to publish. -/
def Attempts (c : Check τ) (scale : Scale) : Prop :=
  scale.Beyond c.avgLoad ∧ isCooledDown (m.last scale) c.checked

/-- What a call does. -/
inductive Checks (m : AutoScaleMonitor) (c : Check τ) : Scaling × AutoScaleMonitor → Prop
  | attempts {scale : Scale} (attempts : m.Attempts c scale) :
      Checks m c (⟨some scale, (emitScaleEvent scale.channel c.avgLoad c.healthy.length c).2⟩,
        m.setLast (some c.stamped) scale)
  | idle (idle : ∀ scale, ¬ m.Attempts c scale) : Checks m c (⟨none, []⟩, m)

theorem cross_checks {c : Check τ} {scale : Scale} (beyond : scale.Beyond c.avgLoad) :
    Checks m c (m.cross c scale) := by
  unfold cross
  split
  · rename_i cooled
    exact .attempts ⟨beyond, cooled⟩
  · rename_i warm
    apply Checks.idle
    rintro other ⟨beyond', cooled⟩
    rw [Scale.beyond_unique beyond' beyond] at cooled
    exact warm cooled

theorem checkAndScale_checks (c : Check τ) : Checks m c (m.checkAndScale c) := by
  unfold checkAndScale
  split
  · rename_i above
    exact m.cross_checks (show Scale.up.Beyond c.avgLoad from above)
  · rename_i notAbove
    split
    · rename_i below
      exact m.cross_checks (show Scale.down.Beyond c.avgLoad from below)
    · rename_i notBelow
      apply Checks.idle
      rintro scale ⟨beyond, -⟩
      cases scale with
      | up => exact notAbove beyond
      | down => exact notBelow beyond

section Cases
variable {m} {c : Check τ} {scale : Scale}

theorem checkAndScale_attempts (attempts : m.Attempts c scale) : m.checkAndScale c =
    (⟨some scale, (emitScaleEvent scale.channel c.avgLoad c.healthy.length c).2⟩,
      m.setLast (some c.stamped) scale) := by
  have all := m.checkAndScale_checks c
  generalize m.checkAndScale c = r at all ⊢
  cases all with
  | attempts other => rw [Scale.beyond_unique other.1 attempts.1]
  | idle idle => exact absurd attempts (idle scale)

theorem checkAndScale_idle (idle : ∀ scale, ¬ m.Attempts c scale) :
    m.checkAndScale c = (⟨none, []⟩, m) := by
  have all := m.checkAndScale_checks c
  generalize m.checkAndScale c = r at all ⊢
  cases all with
  | attempts attempts => exact absurd attempts (idle _)
  | idle => rfl

end Cases
end AutoScaleMonitor

/-- An event is on its channel, at the time at which it is published. -/
theorem mem_emitScaleEvent {channel : String} {avgLoad : ℚ} {nodeCount : ℕ} {c : Check τ}
    {event : ScaleEvent} (member : event ∈ (emitScaleEvent channel avgLoad nodeCount c).2) :
    event.channel = channel ∧ c.redis.time = some event.published := by
  unfold emitScaleEvent at member
  cases redis : c.redis with
  | published | publishedThenRaises =>
      rw [redis] at member
      obtain rfl := List.mem_singleton.mp member
      exact ⟨rfl, rfl⟩
  | unavailable =>
      rw [redis] at member
      exact absurd member List.not_mem_nil

theorem length_emitScaleEvent_le (channel : String) (avgLoad : ℚ) (nodeCount : ℕ) (c : Check τ) :
    (emitScaleEvent channel avgLoad nodeCount c).2.length ≤ 1 := by
  unfold emitScaleEvent
  cases c.redis with
  | published | publishedThenRaises => exact le_rfl
  | unavailable => exact Nat.zero_le 1

/-! ## Runs -/

/-- The calls as events of a system, each answered with what it returns and publishes. -/
def monitor (τ : Type) : System AutoScaleMonitor (Check τ) Scaling where
  step m c := (m.checkAndScale c).2
  reply m c := (m.checkAndScale c).1

/-- What a run of calls publishes. -/
def events (m : AutoScaleMonitor) : List (Check τ) → List ScaleEvent
  | [] => []
  | c :: rest => (m.checkAndScale c).1.published ++ events (m.checkAndScale c).2 rest

open AutoScaleMonitor

section Cooldown
variable {m : AutoScaleMonitor} {c : Check τ} {calls : List (Check τ)} {scale : Scale}
  {event : ScaleEvent}

/-- A call publishes one event at most, on the channel of the threshold that is crossed. -/
theorem published_checkAndScale (m : AutoScaleMonitor) (c : Check τ) :
    (m.checkAndScale c).1.published.length ≤ 1 ∧
      ∀ event ∈ (m.checkAndScale c).1.published, ∀ scale : Scale,
        event.channel = scale.channel → scale.Beyond c.avgLoad := by
  have all := m.checkAndScale_checks c
  generalize m.checkAndScale c = r at all ⊢
  cases all with
  | attempts attempts =>
      refine ⟨length_emitScaleEvent_le _ _ _ c, ?_⟩
      intro event member scale same
      obtain ⟨channel, -⟩ := mem_emitScaleEvent member
      rw [← Scale.channel_inj (channel.symm.trans same)]
      exact attempts.1
  | idle => exact ⟨Nat.zero_le _, fun _ member => absurd member List.not_mem_nil⟩

theorem isCooledDown_some {time now : ℕ} :
    isCooledDown (some time) now ↔ time + COOLDOWN_PERIOD * 1000000 ≤ now := by
  unfold isCooledDown
  rw [Option.all_some, decide_eq_true_iff]

theorem isCooledDown_mono {lastEvent : Option ℕ} {now later : ℕ} (le : now ≤ later)
    (cooled : isCooledDown lastEvent now) : isCooledDown lastEvent later := by
  cases lastEvent with
  | none => rfl
  | some time => exact isCooledDown_some.mpr ((isCooledDown_some.mp cooled).trans le)

/-- An event comes after the cooldown and before the stamp of the next. -/
theorem published_cooled (ordered : c.Ordered) (member : event ∈ (m.checkAndScale c).1.published)
    (channel : event.channel = scale.channel) :
    isCooledDown (m.last scale) event.published ∧
      ∃ time, (m.checkAndScale c).2.last scale = some time ∧ event.published ≤ time := by
  have all := m.checkAndScale_checks c
  generalize m.checkAndScale c = r at all member ⊢
  cases all with
  | attempts attempts =>
      obtain ⟨same, published⟩ := mem_emitScaleEvent member
      rw [← Scale.channel_inj (same.symm.trans channel)]
      obtain ⟨before, after⟩ := ordered.2.2 _ published
      refine ⟨isCooledDown_mono (ordered.1.trans before) attempts.2, c.stamped, ?_, after⟩
      exact last_setLast
  | idle => exact absurd member List.not_mem_nil

/-- What has cooled down after a call had cooled down before it. -/
theorem isCooledDown_of_after {now : ℕ} (ordered : c.Ordered)
    (cooled : isCooledDown ((m.checkAndScale c).2.last scale) now) :
    isCooledDown (m.last scale) now := by
  have all := m.checkAndScale_checks c
  generalize m.checkAndScale c = r at all cooled
  cases all with
  | @attempts other attempts =>
      by_cases same : scale = other
      · subst same
        rw [last_setLast, isCooledDown_some] at cooled
        have late := ordered.1.trans ordered.2.1
        exact isCooledDown_mono (late.trans ((Nat.le_add_right _ _).trans cooled)) attempts.2
      · rwa [last_setLast_of_ne same] at cooled
  | idle => exact cooled

theorem events_cooled (ordered : ∀ c ∈ calls, c.Ordered) (member : event ∈ events m calls)
    (channel : event.channel = scale.channel) : isCooledDown (m.last scale) event.published := by
  induction calls generalizing m with
  | nil => exact absurd member List.not_mem_nil
  | cons c rest ih =>
      rw [List.forall_mem_cons] at ordered
      rcases List.mem_append.mp member with first | later
      · exact (published_cooled ordered.1 first channel).1
      · exact isCooledDown_of_after ordered.1 (ih ordered.2 later)

theorem pairwise_of_length_le_one {α : Type*} {R : α → α → Prop} {l : List α}
    (few : l.length ≤ 1) : l.Pairwise R := by
  cases l with
  | nil => exact List.Pairwise.nil
  | cons first rest =>
      have none : rest.length = 0 := Nat.le_zero.mp (Nat.le_of_succ_le_succ few)
      rw [List.eq_nil_of_length_eq_zero none]
      exact List.pairwise_singleton R first

/-- Events on one channel are a cooldown apart. -/
theorem events_spaced (ordered : ∀ c ∈ calls, c.Ordered) (scale : Scale) :
    ((events m calls).filter fun event => event.channel = scale.channel).Pairwise
      fun first second => first.published + COOLDOWN_PERIOD * 1000000 ≤ second.published := by
  induction calls generalizing m with
  | nil => exact List.Pairwise.nil
  | cons c rest ih =>
      rw [List.forall_mem_cons] at ordered
      rw [events, List.filter_append, List.pairwise_append]
      refine ⟨?_, ih ordered.2, ?_⟩
      · apply List.Pairwise.filter
        exact pairwise_of_length_le_one (published_checkAndScale m c).1
      · intro first firstMember second secondMember
        obtain ⟨firstMember, firstChannel⟩ := List.mem_filter.mp firstMember
        obtain ⟨secondMember, secondChannel⟩ := List.mem_filter.mp secondMember
        obtain ⟨-, time, last, le⟩ := published_cooled ordered.1 firstMember
          (of_decide_eq_true firstChannel)
        have cooled := events_cooled ordered.2 secondMember (of_decide_eq_true secondChannel)
        rw [last, isCooledDown_some] at cooled
        exact (Nat.add_le_add_right le _).trans cooled

end Cooldown

/-! ## The two cooldowns do not meet -/

section Apart
variable {m : AutoScaleMonitor} {c : Check τ} {scale other : Scale}

/-- The monitor without one of its cooldowns. -/
def forget (scale : Scale) (m : AutoScaleMonitor) : AutoScaleMonitor := m.setLast none scale

/-- The load does not cross the threshold of the events. -/
def within (scale : Scale) (c : Check τ) : Bool := ¬ scale.Beyond c.avgLoad

theorem attempts_forget (different : other ≠ scale) :
    (forget scale m).Attempts c other ↔ m.Attempts c other := by
  unfold Attempts forget
  rw [last_setLast_of_ne different]

theorem forget_setLast_of_ne {time : Option ℕ} (different : other ≠ scale) :
    forget scale (m.setLast time other) = (forget scale m).setLast time other := by
  cases scale <;> cases other <;> first | rfl | exact absurd rfl different

/-- A call within the threshold goes as if there were no such cooldown. -/
theorem checkAndScale_forget (inside : within scale c = true) :
    (forget scale m).checkAndScale c =
      ((m.checkAndScale c).1, forget scale (m.checkAndScale c).2) := by
  have different : ∀ other : Scale, other.Beyond c.avgLoad → other ≠ scale := by
    rintro other beyond rfl
    exact of_decide_eq_true inside beyond
  by_cases some : ∃ other, m.Attempts c other
  · obtain ⟨other, attempts⟩ := some
    have apart := different other attempts.1
    have forgotten := (attempts_forget apart).mpr attempts
    rw [checkAndScale_attempts attempts, checkAndScale_attempts forgotten,
      forget_setLast_of_ne apart]
  · have idle : ∀ other, ¬ m.Attempts c other := fun other attempts => some ⟨other, attempts⟩
    have idle' : ∀ other, ¬ (forget scale m).Attempts c other := fun other attempts =>
      idle other ((attempts_forget (different other attempts.1)).mp attempts)
    rw [checkAndScale_idle idle, checkAndScale_idle idle']

theorem unwinding_forget (scale : Scale) :
    Unwinding (monitor τ) (within scale) (forget scale) Runs.Always where
  hidden := by
    intro m c outside
    have beyond : scale.Beyond c.avgLoad := not_not.mp (of_decide_eq_false outside)
    change forget scale (m.checkAndScale c).2 = forget scale m
    have all := m.checkAndScale_checks c
    generalize m.checkAndScale c = r at all ⊢
    cases all with
    | attempts attempts =>
        rw [Scale.beyond_unique attempts.1 beyond]
        cases scale <;> rfl
    | idle => rfl
  step := fun m c inside _ => (congrArg Prod.snd (checkAndScale_forget inside)).symm
  reply := fun m c inside _ => (congrArg Prod.fst (checkAndScale_forget inside)).symm

end Apart

/-- In every run, events of one kind are a cooldown apart, a call publishes one event at most and
only beyond its threshold, and what the calls within a threshold do is what they do when those
beyond it are left out. -/
theorem autoscale_cooldown (m : AutoScaleMonitor) {calls : List (Check τ)}
    (ordered : ∀ c ∈ calls, c.Ordered) :
    (∀ scale : Scale, ((events m calls).filter fun event => event.channel = scale.channel).Pairwise
      fun first second => first.published + COOLDOWN_PERIOD * 1000000 ≤ second.published) ∧
    (∀ (now : AutoScaleMonitor) (c : Check τ), (now.checkAndScale c).1.published.length ≤ 1 ∧
      ∀ event ∈ (now.checkAndScale c).1.published, ∀ scale : Scale,
        event.channel = scale.channel → scale.Beyond c.avgLoad) ∧
    ∀ scale : Scale, (monitor τ).replies (within scale) m calls =
      (monitor τ).replies (within scale) (forget scale m) (calls.filter (within scale)) := by
  refine ⟨events_spaced ordered, published_checkAndScale, fun scale => ?_⟩
  exact ((unwinding_forget scale).purge ((monitor τ).run_final m calls)).2

/-- Nodes under these loads. -/
def loaded (loads : List ℚ) : List (EdgeNode ℕ ℚ) :=
  loads.mapIdx fun i load => ⟨Fin.ofNat _ i, "key", "node", .null, .HEALTHY, none, nearest load⟩

/-- Two checks of a busy node and one of an idle one, six minutes in all. -/
def sampleChecks : List (Check ℕ) :=
  [⟨loaded [9 / 10], 0, 0, .published 1, 2⟩,
    ⟨loaded [1 / 10], 60000000, 60000000, .published 60000001, 60000002⟩,
    ⟨loaded [9 / 10], 360000000, 360000000, .published 360000001, 360000002⟩]

theorem autoscale_cooldown_sampleChecks :
    (events .new sampleChecks).map ScaleEvent.published = [1, 60000001, 360000001] ∧
    ((events .new sampleChecks).filter fun event => event.channel = Scale.up.channel).Pairwise
      (fun first second => first.published + COOLDOWN_PERIOD * 1000000 ≤ second.published) := by
  have ordered : ∀ c ∈ sampleChecks, c.Ordered := by decide
  exact ⟨by decide +kernel, (autoscale_cooldown .new ordered).1 .up⟩

/-- Six nodes whose loads are 0.8 on average, and a little less as doubles. -/
def sixNodes : Check ℕ :=
  ⟨loaded [1, 1, 1, 7 / 10, 7 / 10, 4 / 10], 0, 0, .published 1, 2⟩

/-- A scale-up is published although the average of the loads is not beyond the threshold. -/
theorem scaled_up_below : ¬ ∀ (m : AutoScaleMonitor) (c : Check ℕ), c.Ordered →
    ∀ event ∈ (m.checkAndScale c).1.published, event.channel = Scale.up.channel →
      4 / 5 < c.exactLoad := by
  intro claim
  have ordered : sixNodes.Ordered := by decide
  have published : ∃ event ∈ (AutoScaleMonitor.new.checkAndScale sixNodes).1.published,
      event.channel = Scale.up.channel := by decide +kernel
  have below : sixNodes.exactLoad < 4 / 5 := by decide +kernel
  obtain ⟨event, member, channel⟩ := published
  exact lt_asymm below (claim .new sixNodes ordered event member channel)

end RenderTrust.Scheduler
