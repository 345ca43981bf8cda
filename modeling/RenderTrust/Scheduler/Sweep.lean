import Mathlib.Algebra.Order.ZeroLEOne
import RenderTrust.Scheduler.Nodes
import RenderTrust.Scheduler.Probes

/-!
# The sweep of silent nodes

The sweep selects by the time of the last heartbeat and passes over a node that has none.
In the runs of the services such a node is never HEALTHY, so that nothing escapes it.
-/
namespace RenderTrust.Scheduler
open Lib Lib.Hoare Lib.Keyed Lib.Runs

variable {L : Type}

/-- HEALTHY, with a heartbeat that is too old. -/
structure EdgeNode.Silent (node : EdgeNode ℕ L) (now : ℕ) : Prop where
  healthy : node.status = .HEALTHY
  old : ∃ last, node.lastHeartbeat = some last ∧ last + 90 * 1000000 < now

theorem EdgeNode.silent_iff (node : EdgeNode ℕ L) (now : ℕ) :
    node.Silent now ↔ node.stale now := by
  unfold EdgeNode.stale UNHEALTHY_THRESHOLD_SECONDS HEARTBEAT_INTERVAL_SECONDS
  rw [decide_eq_true_eq, Option.any_eq_true]
  constructor
  · rintro ⟨healthy, last, heartbeat, old⟩
    exact ⟨healthy, last, heartbeat, decide_eq_true old⟩
  · rintro ⟨healthy, last, heartbeat, old⟩
    exact ⟨healthy, last, heartbeat, of_decide_eq_true old⟩

instance (node : EdgeNode ℕ L) (now : ℕ) : Decidable (node.Silent now) :=
  decidable_of_iff _ (node.silent_iff now).symm

/-- What is promised of a sweep. -/
structure Exchange.Sweeps (x : Exchange L) : Prop where
  heard : ∀ node ∈ x.after.store.nodes, node.status = .HEALTHY →
    ∃ last, node.lastHeartbeat = some last ∧ x.now ≤ last + 90 * 1000000
  rows : x.before.store.nodes.Forall₂
    (fun node node' =>
      node' = if node.Silent x.now then { node with status := .UNHEALTHY } else node)
    x.after.store.nodes
  counted : x.answer =
    .ok (.count (x.before.store.nodes.filter fun node => node.Silent x.now).length)
  rest : x.after = { x.before with store := { x.before.store with nodes := x.after.store.nodes } }

/-! ## What the rows keep -/

/-- A node that takes jobs has been heard of, and its load is a fraction. -/
structure EdgeNode.Sound [LinearOrder L] [Zero L] [One L] (node : EdgeNode ℕ L) : Prop where
  heard : node.status = .HEALTHY → node.lastHeartbeat.isSome
  load : 0 ≤ node.currentLoad ∧ node.currentLoad ≤ 1

/-- A report is about a node that was returned before. -/
def foundBefore (past : List (Exchange L)) : Call L → Bool
  | .job _ => false
  | .breaker (.failure nodeId) => past.any fun x => x.found.any fun node => node.id = nodeId
  | .breaker (.success nodeId) => past.any fun x => x.found.any fun node => node.id = nodeId
  | .breaker _ => false
  | .node _ => true

def FoundBefore (t : Timeline L) (e : Event L) : Prop := t.Forward e ∧ foundBefore t.past e.call

instance (t : Timeline L) (e : Event L) : Decidable (FoundBefore t e) :=
  inferInstanceAs (Decidable (_ ∧ _))

section Rows
variable [LinearOrder L] [Zero L] [One L] {w : World ℕ L} {now : ℕ} {call : Call L}
  {node row : EdgeNode ℕ L}

/-- A heartbeat is not forgotten. -/
theorem NodeChange.heard (change : NodeChange w now call node row)
    (heard : node.lastHeartbeat.isSome) : row.lastHeartbeat.isSome := by
  cases change with
  | alive => rfl
  | same | tripped | restored | swept => exact heard

theorem NodeChange.sound [ZeroLEOneClass L] (change : NodeChange w now call node row)
    (sound : node.Sound)
    (reported : call = .breaker (.success node.id) → node.lastHeartbeat.isSome) : row.Sound := by
  cases change with
  | same => exact sound
  | tripped | swept => exact ⟨fun healthy => NodeStatus.noConfusion healthy, sound.load⟩
  | restored called => exact ⟨fun _ => reported called, sound.load⟩
  | alive => exact ⟨fun _ => rfl, le_max_left _ _, max_le zero_le_one (min_le_left _ _)⟩

theorem newNode_sound [ZeroLEOneClass L] (id : Uuid) (name publicKey : String)
    (caps : List Json) : (newNode id name publicKey caps : EdgeNode ℕ L).Sound :=
  ⟨fun healthy => NodeStatus.noConfusion healthy, le_rfl, zero_le_one⟩

end Rows

/-! ## Runs -/

section Runs
variable [LinearOrder L] [Zero L] [One L]

/-- The row of a node that was returned has a heartbeat. -/
structure Attended (t : Timeline L) : Prop where
  distinct : t.world.store.DistinctNodes
  sound : ∀ node ∈ t.world.store.nodes, node.Sound
  heard : ∀ x ∈ t.past, ∀ node, x.found = some node →
    ∃ row ∈ t.world.store.nodes, row.id = node.id ∧ row.lastHeartbeat.isSome

variable {t : Timeline L} {now : ℕ} {call : Call L}

/-- A node with a success report was returned before, and has been heard of. -/
theorem Attended.reported (h : Attended t) {node : EdgeNode ℕ L}
    (member : node ∈ t.world.store.nodes) (allowed : foundBefore t.past call)
    (called : call = .breaker (.success node.id)) : node.lastHeartbeat.isSome := by
  obtain rfl := called
  obtain ⟨x, earlier, found⟩ := List.any_eq_true.mp allowed
  obtain ⟨best, here, same⟩ := (Option.any_eq_true _ _).mp found
  obtain ⟨row, inside, named, heard⟩ := h.heard x earlier best here
  rw [of_decide_eq_true same] at named
  obtain rfl := List.inj_on_of_nodup_map h.distinct inside member named
  exact heard

theorem Attended.step [ZeroLEOneClass L] (h : Attended t) (allowed : foundBefore t.past call) :
    Attended ⟨(serve now call t.world).after, serve now call t.world :: t.past⟩ := by
  have writes := writes_serve now call t.world h.distinct
  refine ⟨distinctNodes_of_writes writes h.distinct, fun row member => ?_,
    fun x member node found => ?_⟩
  · rcases writes.origin member with ⟨node, old, change⟩ | ⟨fresh, new, here⟩
    · exact change.sound (h.sound node old) (h.reported old allowed)
    · cases new with
      | none => exact absurd here List.not_mem_nil
      | registered =>
          rw [List.mem_singleton.mp here]
          exact newNode_sound _ _ _ _
  · -- the row that was heard of at the time is still there
    have before : ∃ row ∈ t.world.store.nodes, row.id = node.id ∧ row.lastHeartbeat.isSome := by
      rcases List.mem_cons.mp member with rfl | earlier
      · obtain ⟨jobType, best⟩ := found_serve found
        obtain ⟨inside, healthy⟩ := findBestNode_healthy best
        exact ⟨node, inside, rfl, (h.sound node inside).heard healthy⟩
      · exact h.heard x earlier node found
    obtain ⟨row, inside, named, heard⟩ := before
    obtain ⟨row', there, change⟩ := writes.target inside
    exact ⟨row', there, change.id.trans named, change.heard heard⟩

/-- The sweep itself, from any tables where a healthy node has been heard of. -/
theorem sweeps_serve {w : World ℕ L} (sound : ∀ node ∈ w.store.nodes, node.Sound) (now : ℕ) :
    (serve now (.node .markStale) w).Sweeps := by
  have served : serve now (.node .markStale) w = ⟨now, .node .markStale,
      .ok (.count (w.store.nodes.filter fun node => node.stale now).length), w, [w.store],
      { w with
        store := { w.store with
          nodes := w.store.nodes.map fun node =>
            if node.stale now then { node with status := .UNHEALTHY } else node } }⟩ := rfl
  rw [served]
  refine ⟨fun node member healthy => ?_, ?_, ?_, rfl⟩
  · obtain ⟨old, inside, rfl⟩ := List.mem_map.mp member
    by_cases stale : old.stale now
    · rw [if_pos stale] at healthy
      cases healthy
    · rw [if_neg stale] at healthy ⊢
      obtain ⟨last, heartbeat⟩ := Option.isSome_iff_exists.mp ((sound old inside).heard healthy)
      refine ⟨last, heartbeat, le_of_not_gt fun late => stale ?_⟩
      exact (old.silent_iff now).mp ⟨healthy, last, heartbeat, late⟩
  · rw [List.forall₂_map_right_iff, List.forall₂_same]
    intro node _
    simp only [node.silent_iff]
  · simp only [EdgeNode.silent_iff, Bool.decide_eq_true]

/-- What is promised of a run: of its sweeps, and of the loads at its end. -/
structure Timeline.Swept (t : Timeline L) : Prop where
  sweeps : ∀ x ∈ t.past, x.call = .node .markStale → x.Sweeps
  loads : ∀ node ∈ t.world.store.nodes, 0 ≤ node.currentLoad ∧ node.currentLoad ≤ 1

theorem swept_of_run [ZeroLEOneClass L] {w : World ℕ L} {t : Timeline L} {es : List (Event L)}
    (run : Run Timeline.step FoundBefore (.opening w) es t) (empty : w.store.nodes = []) :
    t.Swept := by
  have start : Attended (.opening w) := by
    refine ⟨?_, fun node member => ?_, fun x member => absurd member List.not_mem_nil⟩
    · change (w.store.nodes.map EdgeNode.id).Nodup
      rw [empty]
      exact List.nodup_nil
    · change node ∈ w.store.nodes at member
      rw [empty] at member
      exact absurd member List.not_mem_nil
  have kept := run.invariant (I := fun t => Attended t ∧
    ∀ x ∈ t.past, x.call = .node .markStale → x.Sweeps) ?_
    ⟨start, fun x member => absurd member List.not_mem_nil⟩
  · exact ⟨kept.2, fun node member => (kept.1.sound node member).load⟩
  · rintro t ⟨now, call⟩ _ ⟨attended, sweeps⟩ ⟨-, allowed⟩ ⟨⟩
    refine ⟨attended.step allowed, fun x member called => ?_⟩
    rcases List.mem_cons.mp member with rfl | earlier
    · rw [(serve_asked now call t.world).2.1] at called
      rw [called]
      exact sweeps_serve attended.sound now
    · exact sweeps x earlier called

end Runs

/-- Two nodes register and one of them goes silent; a job that it ran is reported late. -/
theorem swept_of_run_silent : ∃ t : Timeline ℕ,
    Run Timeline.step FoundBefore (.opening ⟨⟨[], [], [], []⟩, .new⟩)
      [⟨1, .node (.register 3 7 "challenge" "node" "ed25519:3" (some ["render"]))⟩,
        ⟨2, .node (.register 4 8 "challenge" "node" "ed25519:4" none)⟩,
        ⟨3, .node (.heartbeat 3 2)⟩, ⟨4, .node (.find "render")⟩,
        ⟨90000004, .node .markStale⟩, ⟨90000005, .breaker (.success 3)⟩,
        ⟨90000006, .node .markStale⟩] t ∧ t.Swept := by
  have accepted : (exec Timeline.step FoundBefore (.opening ⟨⟨[], [], [], []⟩, .new⟩)
      [⟨1, .node (.register 3 7 "challenge" "node" "ed25519:3" (some ["render"]))⟩,
        ⟨2, .node (.register 4 8 "challenge" "node" "ed25519:4" none)⟩,
        ⟨3, .node (.heartbeat 3 2)⟩, ⟨4, .node (.find "render")⟩,
        ⟨90000004, .node .markStale⟩, ⟨90000005, .breaker (.success 3)⟩,
        ⟨90000006, .node .markStale⟩] : Option (Timeline ℕ)).isSome := by decide +kernel
  obtain ⟨t, run⟩ := run_of_isSome accepted
  exact ⟨t, run, swept_of_run run rfl⟩

end RenderTrust.Scheduler
