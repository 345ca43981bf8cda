import RenderTrust.Lib.Keyed
import RenderTrust.Scheduler.Timeline

/-!
# The breaker as a function of the calls

What the breaker holds of a node is read off the calls that named it, and a call that
names one node leaves the others alone.
-/
namespace RenderTrust.Scheduler
open Lib Lib.Hoare Lib.Keyed Lib.Runs

variable {L : Type}

def BreakerCall.nodeId : BreakerCall → Uuid
  | .failure nodeId => nodeId
  | .success nodeId => nodeId
  | .check nodeId => nodeId
  | .reset nodeId => nodeId

/-- `record_failure` of the node. -/
def Call.fails (nodeId : Uuid) : Call L → Bool
  | .breaker (.failure id) => id = nodeId
  | _ => false

/-- `record_success` or `reset` of the node. -/
def Call.clears (nodeId : Uuid) : Call L → Bool
  | .breaker (.success id) => id = nodeId
  | .breaker (.reset id) => id = nodeId
  | _ => false

theorem BreakerCall.unnamed {c : BreakerCall} {nodeId : Uuid} (other : nodeId ≠ c.nodeId) :
    ¬ (.breaker c : Call L).fails nodeId ∧ ¬ (.breaker c : Call L).clears nodeId := by
  cases c with
  | failure id =>
      exact ⟨fun named => other (of_decide_eq_true named).symm, Bool.false_ne_true⟩
  | check id => exact ⟨Bool.false_ne_true, Bool.false_ne_true⟩
  | success id | reset id =>
      exact ⟨Bool.false_ne_true, fun named => other (of_decide_eq_true named).symm⟩

/-- The failures of the node since it was last cleared; `past` is the newest first. -/
def failures (nodeId : Uuid) : List (Exchange L) → ℕ
  | [] => 0
  | x :: past =>
      if x.call.fails nodeId then failures nodeId past + 1
      else if x.call.clears nodeId then 0 else failures nodeId past

/-- The time of the last of them. -/
def lastFailure (nodeId : Uuid) : List (Exchange L) → Option ℕ
  | [] => none
  | x :: past =>
      if x.call.fails nodeId then some x.now
      else if x.call.clears nodeId then none else lastFailure nodeId past

theorem lastFailure_isSome (nodeId : Uuid) (past : List (Exchange L)) :
    (lastFailure nodeId past).isSome ↔ 0 < failures nodeId past := by
  induction past with
  | nil => simp [lastFailure, failures]
  | cons x past ih =>
      unfold lastFailure failures
      split
      · simp
      · split
        · simp
        · exact ih

/-! ## One call -/

section Serve
variable [LinearOrder L] [Zero L] [One L] (now : ℕ) (nodeId : Uuid) (w : World ℕ L)

theorem serve_failure : serve now (.breaker (.failure nodeId)) w =
    if Trips w.breaker nodeId then
      ⟨now, .breaker (.failure nodeId), .ok (.status .UNHEALTHY), w, [w.store],
        ⟨(w.store.setNodeStatus nodeId .UNHEALTHY).redistributed nodeId,
          (w.breaker.failed nodeId now).setHalfOpen nodeId false⟩⟩
    else ⟨now, .breaker (.failure nodeId), .ok (.status .HEALTHY), w, [w.store],
      ⟨w.store, w.breaker.failed nodeId now⟩⟩ := by
  have ran := recordFailure_run now nodeId w
  split
  · rename_i trips
    rw [if_pos trips] at ran
    exact serveBreaker_ok (run_bind_ok ran)
  · rename_i below
    rw [if_neg below] at ran
    exact serveBreaker_ok (run_bind_ok ran)

theorem serve_success : serve now (.breaker (.success nodeId)) w =
    ⟨now, .breaker (.success nodeId), .ok .done, w, [w.store],
      ⟨w.store.setNodeStatus nodeId .HEALTHY, w.breaker.reset nodeId⟩⟩ :=
  serveBreaker_ok (c := .success nodeId) (run_bind_ok (recordSuccess_run nodeId w))

theorem serve_check : serve now (.breaker (.check nodeId)) w =
    if w.store.unhealthy nodeId ∧ w.breaker.due now nodeId then
      ⟨now, .breaker (.check nodeId), .ok (.status .HEALTHY), w, [w.store],
        { w with breaker := w.breaker.setHalfOpen nodeId true }⟩
    else ⟨now, .breaker (.check nodeId),
      .ok (.status (((w.store.nodeById nodeId).map EdgeNode.status).getD .OFFLINE)), w, [w.store],
      w⟩ := by
  have ran := checkNodeHealth_run now nodeId w
  split
  · rename_i due
    rw [if_pos due] at ran
    exact serveBreaker_ok (run_bind_ok ran)
  · rename_i other
    rw [if_neg other] at ran
    exact serveBreaker_ok (run_bind_ok ran)

theorem serve_reset : serve now (.breaker (.reset nodeId)) w =
    ⟨now, .breaker (.reset nodeId), .ok .done, w, [w.store],
      { w with breaker := w.breaker.reset nodeId }⟩ := rfl

end Serve

/-! ## What is tracked of a node -/

/-- The three containers agree with the calls. -/
structure Tracked (breaker : CircuitBreaker ℕ) (past : List (Exchange L)) (nodeId : Uuid) :
    Prop where
  count : breaker.count nodeId = failures nodeId past
  last : breaker.lastFailureTime nodeId = lastFailure nodeId past
  halfOpen : breaker.halfOpen nodeId → (breaker.lastFailureTime nodeId).isSome

theorem CircuitBreaker.reset_self (breaker : CircuitBreaker ℕ) (nodeId : Uuid) :
    (breaker.reset nodeId).failureCounts nodeId = none ∧
      (breaker.reset nodeId).lastFailureTime nodeId = none ∧
      (breaker.reset nodeId).halfOpen nodeId = false :=
  ⟨Function.update_self .., Function.update_self .., Function.update_self ..⟩

theorem tracked_new (nodeId : Uuid) : Tracked .new ([] : List (Exchange L)) nodeId := by
  refine ⟨rfl, rfl, ?_⟩
  rintro ⟨⟩

/-- What is tracked of the node is the same. -/
structure SameTracking (nodeId : Uuid) (b b' : CircuitBreaker ℕ) : Prop where
  failureCounts : b'.failureCounts nodeId = b.failureCounts nodeId
  lastFailureTime : b'.lastFailureTime nodeId = b.lastFailureTime nodeId
  halfOpen : b'.halfOpen nodeId = b.halfOpen nodeId

namespace SameTracking
variable {b b' : CircuitBreaker ℕ} {nodeId other : Uuid}

theorem refl (nodeId : Uuid) (b : CircuitBreaker ℕ) : SameTracking nodeId b b := ⟨rfl, rfl, rfl⟩

theorem failed (differs : nodeId ≠ other) (now : ℕ) : SameTracking nodeId b (b.failed other now) :=
  ⟨Function.update_of_ne differs _ _, Function.update_of_ne differs _ _, rfl⟩

theorem setHalfOpen (h : SameTracking nodeId b b') (differs : nodeId ≠ other) (mark : Bool) :
    SameTracking nodeId b (b'.setHalfOpen other mark) :=
  ⟨h.failureCounts, h.lastFailureTime, (Function.update_of_ne differs _ _).trans h.halfOpen⟩

theorem reset (differs : nodeId ≠ other) : SameTracking nodeId b (b.reset other) :=
  ⟨Function.update_of_ne differs _ _, Function.update_of_ne differs _ _,
    Function.update_of_ne differs _ _⟩

end SameTracking

section Step
variable [LinearOrder L] [Zero L] [One L] {now : ℕ} {call : Call L} {w : World ℕ L}
  {past : List (Exchange L)} {nodeId : Uuid}

theorem failures_serve : failures nodeId (serve now call w :: past) =
    if call.fails nodeId then failures nodeId past + 1
    else if call.clears nodeId then 0 else failures nodeId past := by
  rw [failures, (serve_asked now call w).2.1]

theorem lastFailure_serve : lastFailure nodeId (serve now call w :: past) =
    if call.fails nodeId then some now
    else if call.clears nodeId then none else lastFailure nodeId past := by
  rw [lastFailure, (serve_asked now call w).1, (serve_asked now call w).2.1]

/-- A call that does not name the node leaves what is tracked of it. -/
theorem Tracked.unnamed (h : Tracked w.breaker past nodeId)
    (same : SameTracking nodeId w.breaker (serve now call w).after.breaker)
    (fails : ¬ call.fails nodeId) (clears : ¬ call.clears nodeId) :
    Tracked (serve now call w).after.breaker (serve now call w :: past) nodeId where
  count := by
    rw [failures_serve, if_neg fails, if_neg clears, CircuitBreaker.count, same.failureCounts]
    exact h.count
  last := by
    rw [lastFailure_serve, if_neg fails, if_neg clears, same.lastFailureTime]
    exact h.last
  halfOpen := by
    rw [same.halfOpen, same.lastFailureTime]
    exact h.halfOpen

theorem breaker_serveJob (c : JobCall) : (serve now (.job c) w).after.breaker = w.breaker := by
  change (serveJob now c w).after.breaker = w.breaker
  unfold serveJob
  split
  · rfl
  · split <;> rfl

theorem breaker_serveNode (c : NodeCall L) : (serve now (.node c) w).after.breaker = w.breaker := by
  change (serveNode now c w).after.breaker = w.breaker
  unfold serveNode
  split
  · rfl
  · split <;> rfl

theorem Tracked.failure (h : Tracked w.breaker past nodeId) :
    Tracked (serve now (.breaker (.failure nodeId)) w).after.breaker
      (serve now (.breaker (.failure nodeId)) w :: past) nodeId := by
  have named : (.breaker (.failure nodeId) : Call L).fails nodeId := decide_eq_true rfl
  have count : (serve now (.breaker (.failure nodeId)) w).after.breaker.count nodeId =
      w.breaker.count nodeId + 1 := by
    rw [serve_failure]
    split <;> exact w.breaker.count_failed nodeId now
  have last : (serve now (.breaker (.failure nodeId)) w).after.breaker.lastFailureTime nodeId =
      some now := by
    rw [serve_failure]
    split <;> exact Function.update_self ..
  refine ⟨?_, ?_, fun _ => ?_⟩
  · rw [failures_serve, if_pos named, count, h.count]
  · rw [lastFailure_serve, if_pos named, last]
  · rw [last]
    rfl

/-- The dictionaries have no entry of the node, and it is not half-open. -/
theorem Tracked.cleared (call : Call L) (cleared : (serve now call w).after.breaker =
    w.breaker.reset nodeId) (fails : ¬ call.fails nodeId) (clears : call.clears nodeId) :
    Tracked (serve now call w).after.breaker (serve now call w :: past) nodeId := by
  obtain ⟨counts, last, halfOpen⟩ := w.breaker.reset_self nodeId
  rw [cleared]
  refine ⟨?_, ?_, fun marked => ?_⟩
  · rw [failures_serve, if_neg fails, if_pos clears, CircuitBreaker.count, counts]
    rfl
  · rw [lastFailure_serve, if_neg fails, if_pos clears, last]
  · rw [halfOpen] at marked
    cases marked

theorem Tracked.check (h : Tracked w.breaker past nodeId) :
    Tracked (serve now (.breaker (.check nodeId)) w).after.breaker
      (serve now (.breaker (.check nodeId)) w :: past) nodeId := by
  refine ⟨?_, ?_, fun marked => ?_⟩
  · rw [failures_serve, serve_check]
    split <;> exact h.count
  · rw [lastFailure_serve, serve_check]
    split <;> exact h.last
  · rw [serve_check] at marked ⊢
    split
    · rename_i due
      obtain ⟨last, tracked, -⟩ := (Option.any_eq_true _ _).mp due.2
      change (w.breaker.lastFailureTime nodeId).isSome
      rw [tracked]
      rfl
    · rename_i other
      rw [if_neg other] at marked
      exact h.halfOpen marked

theorem sameTracking_serve {c : BreakerCall} (other : nodeId ≠ c.nodeId) :
    SameTracking nodeId w.breaker (serve now (.breaker c) w).after.breaker := by
  cases c with
  | failure id =>
      rw [serve_failure]
      split
      · exact (SameTracking.failed other now).setHalfOpen other false
      · exact .failed other now
  | success id =>
      rw [serve_success]
      exact .reset other
  | check id =>
      rw [serve_check]
      split
      · exact (SameTracking.refl _ _).setHalfOpen other true
      · exact .refl _ _
  | reset id =>
      rw [serve_reset]
      exact .reset other

theorem Tracked.step (h : Tracked w.breaker past nodeId) (now : ℕ) (call : Call L) :
    Tracked (serve now call w).after.breaker (serve now call w :: past) nodeId := by
  cases call with
  | job c =>
      refine h.unnamed ?_ Bool.false_ne_true Bool.false_ne_true
      rw [breaker_serveJob]
      exact .refl _ _
  | node c =>
      refine h.unnamed ?_ Bool.false_ne_true Bool.false_ne_true
      rw [breaker_serveNode]
      exact .refl _ _
  | breaker c =>
      by_cases named : nodeId = c.nodeId
      · cases c with
        | failure id =>
            obtain rfl := named
            exact h.failure
        | success id =>
            obtain rfl := named
            refine .cleared _ ?_ Bool.false_ne_true (decide_eq_true rfl)
            rw [serve_success]
        | check id =>
            obtain rfl := named
            exact h.check
        | reset id =>
            obtain rfl := named
            refine .cleared _ ?_ Bool.false_ne_true (decide_eq_true rfl)
            rw [serve_reset]
      · obtain ⟨fails, clears⟩ := BreakerCall.unnamed (L := L) named
        exact h.unnamed (sameTracking_serve named) fails clears

/-- The tracking, the row and the jobs of the node are the same. -/
structure Untouched (nodeId : Uuid) (w w' : World ℕ L) : Prop where
  tracking : SameTracking nodeId w.breaker w'.breaker
  nodes : w'.store.nodes.filter (fun node => node.id = nodeId) =
    w.store.nodes.filter fun node => node.id = nodeId
  jobs : w'.store.jobs.filter (fun job => job.nodeId = nodeId) =
    w.store.jobs.filter fun job => job.nodeId = nodeId

omit [LinearOrder L] [Zero L] [One L] in
theorem nodes_setNodeStatus {other : Uuid} (differs : nodeId ≠ other) (s : Store ℕ L)
    (status : NodeStatus) :
    (s.setNodeStatus other status).nodes.filter (fun node => node.id = nodeId) =
      s.nodes.filter fun node => node.id = nodeId := by
  refine filter_map_outside (fun node => ?_) (fun node here => ?_) s.nodes
  · split <;> rfl
  · rw [if_neg]
    intro same
    exact differs ((of_decide_eq_true here).symm.trans same)

omit [LinearOrder L] [Zero L] [One L] in
theorem jobs_redistributed {other : Uuid} (differs : nodeId ≠ other) (s : Store ℕ L) :
    (s.redistributed other).jobs.filter (fun job => job.nodeId = nodeId) =
      s.jobs.filter fun job => job.nodeId = nodeId := by
  refine filter_map_outside (fun job => ?_) (fun job here => ?_) s.jobs
  · split <;> rfl
  · rw [if_neg]
    intro movable
    exact differs ((of_decide_eq_true here).symm.trans (of_decide_eq_true movable).1)

theorem untouched_serve {c : BreakerCall} (other : nodeId ≠ c.nodeId) :
    Untouched nodeId w (serve now (.breaker c) w).after := by
  have tracking : SameTracking nodeId w.breaker (serve now (.breaker c) w).after.breaker :=
    sameTracking_serve other
  cases c with
  | failure id =>
      rw [serve_failure] at tracking ⊢
      split at tracking
      · rename_i trips
        rw [if_pos trips]
        exact ⟨tracking, nodes_setNodeStatus other _ _, jobs_redistributed other _⟩
      · rename_i below
        rw [if_neg below]
        exact ⟨tracking, rfl, rfl⟩
  | success id =>
      rw [serve_success] at tracking ⊢
      exact ⟨tracking, nodes_setNodeStatus other _ _, rfl⟩
  | check id =>
      rw [serve_check] at tracking ⊢
      split at tracking
      · rename_i due
        rw [if_pos due]
        exact ⟨tracking, rfl, rfl⟩
      · rename_i early
        rw [if_neg early]
        exact ⟨tracking, rfl, rfl⟩
  | reset id =>
      rw [serve_reset] at tracking ⊢
      exact ⟨tracking, rfl, rfl⟩

/-- The answer to a failure tells whether its count reached the threshold. -/
theorem answer_failure (h : Tracked w.breaker past nodeId) :
    (serve now (.breaker (.failure nodeId)) w).answer = .ok (.status .UNHEALTHY) ↔
      FAILURE_THRESHOLD ≤ failures nodeId (serve now (.breaker (.failure nodeId)) w :: past) := by
  have named : (.breaker (.failure nodeId) : Call L).fails nodeId := decide_eq_true rfl
  rw [failures_serve, if_pos named, ← h.count, serve_failure]
  split
  · rename_i trips
    exact iff_of_true rfl trips
  · rename_i below
    refine iff_of_false ?_ below
    rintro ⟨⟩

end Step

theorem Tracked.stored {breaker : CircuitBreaker ℕ} {past : List (Exchange L)} {nodeId : Uuid}
    (h : Tracked breaker past nodeId) :
    (breaker.lastFailureTime nodeId).isSome ↔ 0 < breaker.count nodeId := by
  rw [h.last, h.count]
  exact lastFailure_isSome nodeId past

/-! ## Runs -/

structure Timeline.Traced (t : Timeline L) : Prop where
  tracked : ∀ nodeId, Tracked t.world.breaker t.past nodeId
  stored : ∀ nodeId,
    (t.world.breaker.lastFailureTime nodeId).isSome ↔ 0 < t.world.breaker.count nodeId
  answered : ∀ later x earlier nodeId, t.past = later ++ x :: earlier →
    x.call = .breaker (.failure nodeId) →
      (x.answer = .ok (.status .UNHEALTHY) ↔ FAILURE_THRESHOLD ≤ failures nodeId (x :: earlier))
  untouched : ∀ x ∈ t.past, ∀ c, x.call = .breaker c → ∀ nodeId, nodeId ≠ c.nodeId →
    Untouched nodeId x.before x.after

section Runs
variable [LinearOrder L] [Zero L] [One L] {t : Timeline L}

theorem Timeline.Traced.step (h : t.Traced) (e : Event L) :
    Timeline.Traced ⟨(serve e.now e.call t.world).after, serve e.now e.call t.world :: t.past⟩ where
  tracked nodeId := (h.tracked nodeId).step e.now e.call
  stored nodeId := ((h.tracked nodeId).step e.now e.call).stored
  answered := by
    intro later x earlier nodeId split called
    cases later with
    | nil =>
        obtain ⟨rfl, rfl⟩ := List.cons.inj split
        rw [(serve_asked e.now e.call t.world).2.1] at called
        rw [called]
        exact answer_failure (h.tracked nodeId)
    | cons y later =>
        exact h.answered later x earlier nodeId (List.cons.inj split).2 called
  untouched := by
    intro x member c called nodeId other
    rcases List.mem_cons.mp member with rfl | earlier
    · obtain ⟨-, asked, before⟩ := serve_asked e.now e.call t.world
      rw [asked] at called
      rw [before, called]
      exact untouched_serve other
    · exact h.untouched x earlier c called nodeId other

/-- From a breaker that tracks nothing. -/
theorem traced_of_run {w : World ℕ L} {es : List (Event L)}
    (run : Run Timeline.step Always (.opening w) es t) (new : w.breaker = .new) : t.Traced := by
  have none : ∀ nodeId, Tracked w.breaker ([] : List (Exchange L)) nodeId := fun nodeId =>
    new ▸ tracked_new nodeId
  have start : (Timeline.opening w).Traced := by
    refine ⟨none, fun nodeId => (none nodeId).stored, ?_, fun x member => ?_⟩
    · intro later x earlier nodeId split
      cases later with
      | nil => cases split
      | cons => cases split
    · exact absurd member List.not_mem_nil
  refine run.invariant (I := Timeline.Traced) ?_ start
  rintro t e _ h _ ⟨⟩
  exact h.step e

end Runs

/-- A node that trips, is probed late and recovers, next to one that is reset. -/
def recoveringCalls : List (Event ℕ) :=
  [⟨1, .breaker (.failure 3)⟩, ⟨2, .breaker (.failure 4)⟩, ⟨3, .breaker (.failure 3)⟩,
    ⟨4, .breaker (.failure 3)⟩, ⟨300000004, .breaker (.check 3)⟩,
    ⟨300000005, .breaker (.success 3)⟩, ⟨300000006, .breaker (.reset 4)⟩]

theorem traced_of_run_recovering : ∃ t : Timeline ℕ,
    Run Timeline.step Always (.opening ⟨⟨twoNodes, [], [], []⟩, .new⟩) recoveringCalls t ∧
      t.Traced := by
  have accepted : (exec Timeline.step Always
      (.opening ⟨⟨twoNodes, [], [], []⟩, .new⟩) recoveringCalls).isSome := rfl
  obtain ⟨t, run⟩ := run_of_isSome accepted
  exact ⟨t, run, traced_of_run run rfl⟩

end RenderTrust.Scheduler
