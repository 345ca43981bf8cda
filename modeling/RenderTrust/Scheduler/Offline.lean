import RenderTrust.Scheduler.Nodes
import RenderTrust.Scheduler.Probes

/-!
# Nodes that went offline

Which calls leave a node OFFLINE, and what holds of it as long as they do.
-/
namespace RenderTrust.Scheduler
open Lib Lib.Keyed Lib.Runs

variable {L : Type}

def Store.Offline (s : Store ℕ L) (nodeId : Uuid) : Prop :=
  (s.nodeById nodeId).map EdgeNode.status = some .OFFLINE

/-- The breaker writes the status of the node, whatever it is. -/
def Call.overwrites (nodeId : Uuid) (w : World ℕ L) : Call L → Bool
  | .breaker (.success id) => id = nodeId
  | .breaker (.failure id) => id = nodeId ∧ Trips w.breaker nodeId
  | _ => false

def SparesStatus (nodeId : Uuid) (t : Timeline L) (e : Event L) : Prop :=
  ¬ e.call.overwrites nodeId t.world

instance (nodeId : Uuid) (t : Timeline L) (e : Event L) : Decidable (SparesStatus nodeId t e) :=
  inferInstanceAs (Decidable (¬ _))

/-! ## One call -/

theorem Store.nodeById_setNodeStatus (s : Store ℕ L) (nodeId : Uuid) (status : NodeStatus) :
    ((s.setNodeStatus nodeId status).nodeById nodeId).map EdgeNode.status =
      (s.nodeById nodeId).map fun _ => status := by
  unfold Store.setNodeStatus Store.nodeById
  rw [List.find?_map, Option.map_map]
  have reads : (fun node : EdgeNode ℕ L => decide (node.id = nodeId)) ∘
      (fun node => if node.id = nodeId then { node with status } else node) =
      fun node => decide (node.id = nodeId) := by
    funext node
    rw [Function.comp_apply]
    split <;> rfl
  rw [reads]
  cases found : s.nodes.find? fun node => node.id = nodeId with
  | none => rfl
  | some node =>
      have here := (mem_of_find?_key found).2
      simp only [Option.map_some, Function.comp_apply, if_pos here]

theorem Store.Offline.row {s : Store ℕ L} {nodeId : Uuid} (h : s.Offline nodeId) :
    ∃ node, s.nodeById nodeId = some node ∧ node.status = .OFFLINE :=
  Option.map_eq_some_iff.mp h

section Step
variable [LinearOrder L] [Zero L] [One L] {now : ℕ} {call : Call L} {w : World ℕ L} {nodeId : Uuid}

theorem nodeById_serve (now : ℕ) (call : Call L) (distinct : w.store.DistinctNodes)
    {node : EdgeNode ℕ L} (found : w.store.nodeById nodeId = some node) :
    ∃ row, NodeChange w now call node row ∧
      (serve now call w).after.store.nodeById nodeId = some row := by
  have writes := writes_serve now call w distinct
  obtain ⟨member, rfl⟩ := Store.nodeById_eq_some found
  obtain ⟨row, inside, change⟩ := writes.target member
  refine ⟨row, change, ?_⟩
  have here := (distinctNodes_of_writes writes distinct).find? inside
  rwa [change.id] at here

/-- An offline node is not swept, and a heartbeat leaves it offline. -/
theorem NodeChange.offline {node row : EdgeNode ℕ L} (change : NodeChange w now call node row)
    (offline : node.status = .OFFLINE) (spares : ¬ call.overwrites node.id w) :
    row.status = .OFFLINE := by
  cases change with
  | same => exact offline
  | tripped called trips =>
      rw [called] at spares
      exact absurd (decide_eq_true ⟨rfl, trips⟩) spares
  | restored called =>
      rw [called] at spares
      exact absurd (decide_eq_true rfl) spares
  | alive =>
      unfold EdgeNode.alive
      rw [offline]
      rfl
  | swept called stale =>
      have healthy := (of_decide_eq_true stale).1
      rw [offline] at healthy
      cases healthy

theorem offline_serve (distinct : w.store.DistinctNodes) (offline : w.store.Offline nodeId)
    (spares : ¬ call.overwrites nodeId w) : (serve now call w).after.store.Offline nodeId := by
  obtain ⟨node, found, status⟩ := offline.row
  obtain ⟨row, change, there⟩ := nodeById_serve now call distinct found
  have same := (Store.nodeById_eq_some found).2
  rw [← same] at spares
  rw [Store.Offline, there, Option.map_some, change.offline status spares]

/-- A report brings the node back. -/
theorem not_offline_serve (overwrites : call.overwrites nodeId w) :
    ¬ (serve now call w).after.store.Offline nodeId := by
  intro offline
  unfold Call.overwrites at overwrites
  split at overwrites
  · obtain rfl := of_decide_eq_true overwrites
    rw [serve_success, Store.Offline, Store.nodeById_setNodeStatus] at offline
    obtain ⟨_, _, status⟩ := Option.map_eq_some_iff.mp offline
    cases status
  · obtain ⟨rfl, trips⟩ := of_decide_eq_true overwrites
    rw [serve_failure, if_pos trips] at offline
    have there : (w.store.setNodeStatus _ .UNHEALTHY).Offline _ := offline
    rw [Store.Offline, Store.nodeById_setNodeStatus] at there
    obtain ⟨_, _, status⟩ := Option.map_eq_some_iff.mp there
    cases status
  · cases overwrites

/-- Exactly the calls that spare the node leave it offline. -/
theorem offline_serve_iff (distinct : w.store.DistinctNodes) (offline : w.store.Offline nodeId) :
    (serve now call w).after.store.Offline nodeId ↔ ¬ call.overwrites nodeId w :=
  ⟨fun still overwrites => not_offline_serve overwrites still, offline_serve distinct offline⟩

omit [Zero L] [One L] in
theorem ne_of_findBestNode {s : Store ℕ L} (distinct : s.DistinctNodes)
    (offline : s.Offline nodeId) {jobType : String} {node : EdgeNode ℕ L}
    (best : findBestNode s jobType = some node) : node.id ≠ nodeId := by
  obtain ⟨member, healthy⟩ := findBestNode_healthy best
  rintro rfl
  have found : s.nodeById node.id = some node := distinct.find? member
  rw [Store.Offline, found, Option.map_some, healthy] at offline
  cases offline

end Step

/-! ## Runs -/

section Runs
variable [LinearOrder L]

/-- The node is offline, it cannot authenticate, and no job goes to it or went to it. -/
structure Timeline.Retired (t : Timeline L) (nodeId : Uuid) : Prop where
  offline : t.world.store.Offline nodeId
  refused : currentNode t.world.store nodeId = .error (.httpException 401 "Node is offline")
  unselected : ∀ jobType node, findBestNode t.world.store jobType = some node → node.id ≠ nodeId
  unfound : ∀ x ∈ t.past, ∀ node, x.found = some node → node.id ≠ nodeId

variable [Zero L] [One L]

/-- A node that went offline stays so, as long as the breaker does not write its status. -/
theorem retired_of_run {nodeId : Uuid} {w : World ℕ L} {t : Timeline L} {es : List (Event L)}
    (run : Run Timeline.step (SparesStatus nodeId) (.opening w) es t)
    (distinct : w.store.DistinctNodes) (offline : w.store.Offline nodeId) : t.Retired nodeId := by
  have kept := run.invariant (I := fun t => t.world.store.DistinctNodes ∧
    t.world.store.Offline nodeId ∧ ∀ x ∈ t.past, ∀ node, x.found = some node → node.id ≠ nodeId)
    ?_ ⟨distinct, offline, fun x member => absurd member List.not_mem_nil⟩
  · obtain ⟨distinct, offline, unfound⟩ := kept
    refine ⟨offline, ?_, fun jobType node best => ne_of_findBestNode distinct offline best, unfound⟩
    obtain ⟨node, found, status⟩ := offline.row
    rw [currentNode, found]
    exact if_pos status
  · rintro t ⟨now, call⟩ _ ⟨distinct, offline, unfound⟩ spares ⟨⟩
    refine ⟨distinctNodes_of_writes (writes_serve now call t.world distinct) distinct,
      offline_serve distinct offline spares, fun x member node found => ?_⟩
    rcases List.mem_cons.mp member with rfl | earlier
    · obtain ⟨jobType, best⟩ := found_serve found
      exact ne_of_findBestNode distinct offline best
    · exact unfound x earlier node found

/-- What nodes, the sweep and job reports do; a heartbeat comes from a node that
authenticated. -/
def reported (w : World ℕ L) : Call L → Bool
  | .job _ => false
  | .breaker (.reset _) => false
  | .breaker _ => true
  | .node (.heartbeat nodeId _) =>
      match currentNode w.store nodeId with
      | .ok _ => true
      | .error _ => false
  | .node _ => true

end Runs

def offlineNode : List (EdgeNode ℕ ℕ) :=
  [⟨3, "ed25519:3", "node", .arr [.str "render"], .HEALTHY, some 0, 0⟩,
    ⟨5, "ed25519:5", "node", .arr [.str "bake"], .OFFLINE, some 0, 0⟩]

/-- The node registers again, the sweep runs, and two failures are below the threshold. -/
theorem retired_of_run_spared : ∃ t : Timeline ℕ,
    Run Timeline.step (SparesStatus 5) (.opening ⟨⟨offlineNode, [], [], []⟩, .new⟩)
      [⟨1, .node (.register 6 7 "challenge" "node" "ed25519:5" none)⟩,
        ⟨2, .node (.heartbeat 3 1)⟩, ⟨3, .breaker (.failure 5)⟩, ⟨4, .breaker (.failure 5)⟩,
        ⟨5, .breaker (.check 5)⟩, ⟨90000005, .node .markStale⟩, ⟨90000006, .node (.find "bake")⟩]
      t ∧ t.Retired 5 := by
  have accepted : (exec Timeline.step (SparesStatus 5) (.opening ⟨⟨offlineNode, [], [], []⟩, .new⟩)
      [⟨1, .node (.register 6 7 "challenge" "node" "ed25519:5" none)⟩,
        ⟨2, .node (.heartbeat 3 1)⟩, ⟨3, .breaker (.failure 5)⟩, ⟨4, .breaker (.failure 5)⟩,
        ⟨5, .breaker (.check 5)⟩, ⟨90000005, .node .markStale⟩,
        ⟨90000006, .node (.find "bake")⟩]).isSome := by decide +kernel
  obtain ⟨t, run⟩ := run_of_isSome accepted
  exact ⟨t, run, retired_of_run run (by unfold Store.DistinctNodes DistinctKeys; decide) rfl⟩

/-- A late success report, and the next job goes to the node. -/
theorem not_retired_success :
    ¬ ∀ (es : List (Event ℕ)) (t : Timeline ℕ),
      Run Timeline.step (fun t e => reported t.world e.call)
        (.opening ⟨⟨offlineNode, [], [], []⟩, .new⟩) es t → t.Retired 5 := by
  intro claim
  have selected : (exec Timeline.step (fun t e => reported t.world e.call)
      (.opening ⟨⟨offlineNode, [], [], []⟩, .new⟩)
      [⟨1, .breaker (.success 5)⟩, ⟨2, .node (.find "bake")⟩]).any fun t =>
      t.past.any fun x => x.found.any fun node => node.id = 5 := by decide +kernel
  obtain ⟨t, run, found⟩ := run_of_any selected
  obtain ⟨x, member, best⟩ := List.any_eq_true.mp found
  obtain ⟨node, here, same⟩ := (Option.any_eq_true _ _).mp best
  exact (claim _ t run).unfound x member node here (of_decide_eq_true same)

end RenderTrust.Scheduler
