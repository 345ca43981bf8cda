import RenderTrust.Scheduler.Auth
import RenderTrust.Scheduler.Tracking

/-!
# What a call does to the nodes

The rows of the nodes are written by the breaker, by the nodes themselves and by the sweep.
What one call can do to a row is said once.
-/
namespace RenderTrust.Scheduler
open Lib Lib.Hoare Lib.Keyed Lib.Stages

variable {L : Type}

/-! ## Calls on jobs leave the nodes -/

def SameNodes (s t : Store ℕ L) : Prop := t.nodes = s.nodes

section Jobs
variable {s : Store ℕ L} {job : JobDispatch ℕ}

theorem nodes_flushJob (job : JobDispatch ℕ) : Keeps (SameNodes s) (flushJob job) := by
  unfold flushJob
  refine .ite (fun _ => ?_) (fun _ => .raise fun _ h => h)
  exact .bind (.write fun _ h => h) fun _ => .ret fun _ h => h

theorem nodes_insertJob (job : JobDispatch ℕ) : Keeps (SameNodes s) (insertJob job) := by
  unfold insertJob
  refine .ite (fun _ => .raise fun _ h => h) (fun _ => .read fun t h => ?_)
  exact Triple.start (.ite (fun _ => .raise fun _ h => h) fun _ => .write fun _ h => h) h

theorem nodes_pushToQueue (redis : Bool) (nodeId : Uuid) (job : JobDispatch ℕ) :
    Keeps (SameNodes s) (pushToQueue redis nodeId job) := by
  unfold pushToQueue
  refine .ite (fun _ => ?_) (fun _ => .ret fun _ h => h)
  exact .bind (.write fun _ h => h) fun _ => .ret fun _ h => h

theorem nodes_updateJobStatus (now : ℕ) (jobId : Uuid) (status : JobStatus)
    (resultRef errorMessage : Option String) :
    Keeps (SameNodes s) (updateJobStatus now jobId status resultRef errorMessage) := by
  unfold updateJobStatus
  refine .read fun t h => Triple.start (P := SameNodes s) ?_ h
  cases t.jobById jobId with
  | none => exact .raise fun _ h => h
  | some job => exact .ite (fun _ => .raise fun _ h => h) fun _ => nodes_flushJob _

theorem nodes_cancelJob (now : ℕ) (jobId : Uuid) : Keeps (SameNodes s) (cancelJob now jobId) := by
  unfold cancelJob
  refine .read fun t h => Triple.start (P := SameNodes s) ?_ h
  cases t.jobById jobId with
  | none => exact .raise fun _ h => h
  | some job => exact .ite (fun _ => .raise fun _ h => h) fun _ => nodes_flushJob _

theorem nodes_ensureFailed (now : ℕ) (errorMessage : String) :
    Keeps (SameNodes s) (ensureFailed now job errorMessage) := by
  unfold ensureFailed
  exact .ite (fun _ => nodes_updateJobStatus _ _ _ _ _) fun _ => .ret fun _ h => h

theorem nodes_moveToDlq (now later : ℕ) (errorMessage : String) :
    Keeps (SameNodes s) (moveToDlq now later job errorMessage) := by
  have failed : Keeps (SameNodes s) (ensureFailedWith now job errorMessage) := by
    unfold ensureFailedWith
    exact .ite (fun _ => nodes_updateJobStatus _ _ _ _ _) fun _ => nodes_flushJob _
  unfold moveToDlq
  exact .bind failed fun _ => .bind (.write fun _ h => h) fun _ => .ret fun _ h => h

theorem nodes_redistributeJobs (nodeId : Uuid) :
    Keeps (SameNodes s) (redistributeJobs nodeId) :=
  .read fun _ h => Triple.start (.bind (.write fun _ h => h) fun _ => .ret fun _ h => h) h

variable [LinearOrder L]

theorem nodes_dispatchJob (redis : Bool) (id : Uuid) (now : ℕ) (jobType payloadRef : String) :
    Keeps (SameNodes s) (dispatchJob redis id now jobType payloadRef) := by
  unfold dispatchJob
  refine .read fun t h => Triple.start (P := SameNodes s) ?_ h
  cases findBestNode t jobType with
  | none => exact .raise fun _ h => h
  | some node =>
      refine .bind (nodes_insertJob _) fun _ => ?_
      exact .bind (nodes_pushToQueue _ _ _) fun _ => .ret fun _ h => h

theorem nodes_redispatch (redis : Bool) : Keeps (SameNodes s) (redispatch redis job) := by
  unfold redispatch
  refine .read fun t h => Triple.start (P := SameNodes s) ?_ h
  cases findBestNode t job.jobType with
  | none => exact .ret fun _ h => h
  | some bestNode =>
      refine .bind (nodes_flushJob _) fun _ => ?_
      exact .bind (nodes_pushToQueue _ _ _) fun _ => .ret fun _ h => h

theorem nodes_scheduleRetryStaged (redis : Bool) (now later : ℕ) (errorMessage : String) :
    Keeps (fun p => SameNodes s p.1) (scheduleRetryStaged redis now later job errorMessage) := by
  unfold scheduleRetryStaged
  refine .ite (fun _ => ?_) (fun _ => ?_)
  · refine .bind (keeps_stage (nodes_ensureFailed now errorMessage)) fun failed => ?_
    refine .bind (keeps_stage (nodes_updateJobStatus _ _ _ _ _)) fun queued => ?_
    exact .bind (keeps_stage (nodes_redispatch redis)) fun _ => .ret fun _ h => h
  · exact .bind (keeps_stage (nodes_moveToDlq now later errorMessage)) fun _ => .ret fun _ h => h

theorem nodes_job (now : ℕ) (c : JobCall) : Keeps (fun p => SameNodes s p.1) (c.run now) := by
  cases c with
  | dispatch redis id jobType payloadRef =>
      exact .bind (keeps_stage (nodes_dispatchJob _ _ _ _ _)) fun _ => .ret fun _ h => h
  | update jobId status resultRef errorMessage =>
      exact .bind (keeps_stage (nodes_updateJobStatus _ _ _ _ _)) fun _ => .ret fun _ h => h
  | cancel jobId => exact .bind (keeps_stage (nodes_cancelJob _ _)) fun _ => .ret fun _ h => h
  | retry redis later jobId errorMessage =>
      refine .read fun t h => Triple.start (P := fun p => SameNodes s p.1) ?_ h
      cases t.1.jobById jobId with
      | none => exact .ret fun _ h => h
      | some job =>
          refine .bind (nodes_scheduleRetryStaged redis now later errorMessage) fun retried => ?_
          cases retried with
          | inl job => exact .ret fun _ h => h
          | inr entry => exact .ret fun _ h => h
  | archive later jobId errorMessage =>
      refine .read fun t h => Triple.start (P := fun p => SameNodes s p.1) ?_ h
      cases t.1.jobById jobId with
      | none => exact .ret fun _ h => h
      | some job =>
          exact .bind (keeps_stage (nodes_moveToDlq _ _ _)) fun _ => .ret fun _ h => h
  | redistribute nodeId =>
      exact .bind (keeps_stage (nodes_redistributeJobs nodeId)) fun _ => .ret fun _ h => h

theorem nodes_serveJob (now : ℕ) (c : JobCall) (w : World ℕ L) :
    (serveJob now c w).after.store.nodes = w.store.nodes := by
  have ends := nodes_job now c (s := w.store) (w.store, []) rfl
  cases ran : (c.run now).run (w.store, []) with
  | ok answer p =>
      rw [ran] at ends
      rw [serveJob_ok ran]
      exact ends
  | error e p =>
      rw [ran] at ends
      rw [serveJob_error ran]
      split
      · rfl
      · exact ends

end Jobs

/-! ## Writes -/

section Writes
variable (before : World ℕ L) (now : ℕ) (call : Call L)

/-- What the call can do to a row. -/
inductive NodeChange [LinearOrder L] [Zero L] [One L] : EdgeNode ℕ L → EdgeNode ℕ L → Prop
  | same (node : EdgeNode ℕ L) : NodeChange node node
  | tripped {node : EdgeNode ℕ L} (called : call = .breaker (.failure node.id))
      (trips : Trips before.breaker node.id) : NodeChange node { node with status := .UNHEALTHY }
  | restored {node : EdgeNode ℕ L} (called : call = .breaker (.success node.id)) :
      NodeChange node { node with status := .HEALTHY }
  | alive {node : EdgeNode ℕ L} {currentLoad : L}
      (called : call = .node (.heartbeat node.id currentLoad)) :
      NodeChange node (node.alive now currentLoad)
  | swept {node : EdgeNode ℕ L} (called : call = .node .markStale) (stale : node.stale now) :
      NodeChange node { node with status := .UNHEALTHY }

/-- The rows that are new after the call. -/
inductive NewNodes [Zero L] (u : Store ℕ L) : List (EdgeNode ℕ L) → Prop
  | none : NewNodes u []
  | registered {id jti : Uuid} {challenge name publicKey : String}
      {capabilities : Option (List String)}
      (called : call = .node (.register id jti challenge name publicKey capabilities))
      (absent : id ∉ u.nodes.map EdgeNode.id) :
      NewNodes u [newNode id name publicKey ((capabilities.getD []).map Json.str)]

abbrev NodeWrites [LinearOrder L] [Zero L] [One L] (u v : Store ℕ L) : Prop :=
  Rewritten (NodeChange before now call) (NewNodes call u) u.nodes v.nodes

end Writes

abbrev Store.DistinctNodes (s : Store ℕ L) : Prop := DistinctKeys EdgeNode.id s.nodes

section Calls
variable [LinearOrder L] [Zero L] [One L] {before : World ℕ L} {now : ℕ} {call : Call L}
  {u v : Store ℕ L}

theorem NodeChange.id {node row : EdgeNode ℕ L} (h : NodeChange before now call node row) :
    row.id = node.id := by
  cases h <;> rfl

theorem NodeChange.publicKey {node row : EdgeNode ℕ L} (h : NodeChange before now call node row) :
    row.publicKey = node.publicKey := by
  cases h <;> rfl

theorem nodeWrites_same (same : v.nodes = u.nodes) : NodeWrites before now call u v := by
  rw [NodeWrites, same]
  exact .refl (fun node => .same node) .none

theorem distinctNodes_of_writes (h : NodeWrites before now call u v)
    (distinct : u.DistinctNodes) : v.DistinctNodes := by
  refine h.distinct (fun _ _ change => change.id) (fun fresh new => ?_) distinct
  cases new with
  | none => exact ⟨List.nodup_nil, fun _ member => absurd member List.not_mem_nil⟩
  | registered called absent =>
      refine ⟨List.nodup_singleton _, fun node member => ?_⟩
      rw [List.mem_singleton.mp member]
      exact absent

omit [LinearOrder L] [Zero L] [One L] in
theorem Store.nodeById_eq_some {s : Store ℕ L} {nodeId : Uuid} {node : EdgeNode ℕ L}
    (found : s.nodeById nodeId = some node) : node ∈ s.nodes ∧ node.id = nodeId :=
  mem_of_find?_key found

omit [LinearOrder L] [One L] in
theorem ends_registerNode {s : Store ℕ L} (now : ℕ) (id jti : Uuid)
    (challenge name publicKey : String) (capabilities : Option (List String)) :
    Triple (fun t => t = s) (registerNode now id jti challenge name publicKey capabilities)
      (fun _ t => t = s ∨ id ∉ s.nodes.map EdgeNode.id ∧ t = { s with nodes := s.nodes ++
        [newNode id name publicKey ((capabilities.getD []).map Json.str)] })
      (fun _ t => t = s) := by
  unfold registerNode
  refine .ite (fun _ => .raise fun _ h => h) (fun _ => .read ?_)
  rintro t rfl
  split
  · unfold insertNode
    refine .bind (R := fun _ u => id ∉ t.nodes.map EdgeNode.id ∧ u = { t with nodes := t.nodes ++
      [newNode id name publicKey ((capabilities.getD []).map Json.str)] }) ?_
      fun _ => .ret fun _ h => .inr h
    refine .ite (fun _ => .raise fun _ h => h) fun _ => .read ?_
    rintro u rfl
    refine .ite (fun _ => .raise fun _ h => h) fun absent => .write ?_
    rintro t rfl
    exact ⟨absent, rfl⟩
  · refine .ite (fun _ => .ret fun _ h => .inl h) fun _ => ?_
    split
    · exact .raise fun _ h => h
    · exact .ret fun _ h => .inl h
  · exact .raise fun _ h => h

theorem writes_node (now : ℕ) (c : NodeCall L) (before : World ℕ L)
    (distinct : before.store.DistinctNodes) :
    Triple (fun t => t = before.store) (c.run now)
      (fun _ t => NodeWrites before now (.node c) before.store t)
      (fun _ t => t = before.store) := by
  cases c with
  | register id jti challenge name publicKey capabilities =>
      refine .bind (ends_registerNode now id jti challenge name publicKey capabilities)
        fun _ => .ret ?_
      rintro t (rfl | ⟨absent, rfl⟩)
      · exact nodeWrites_same rfl
      · exact .append (fun node => .same node) (.registered rfl absent)
  | heartbeat nodeId currentLoad =>
      unfold NodeCall.run
      refine .read ?_
      rintro t rfl
      cases found : before.store.nodeById nodeId with
      | none => exact .ret fun _ h => h ▸ nodeWrites_same rfl
      | some node =>
          obtain ⟨inside, rfl⟩ := Store.nodeById_eq_some found
          refine .bind (R := fun _ t => NodeWrites before now _ before.store t) ?_
            fun _ => .ret fun _ h => h
          unfold processHeartbeat
          refine .bind (R := fun _ t => NodeWrites before now _ before.store t) (.write ?_)
            fun _ => .ret fun _ h => h
          rintro t rfl
          refine .map (fun row member => ?_) .none
          split
          · rename_i same
            obtain rfl := List.inj_on_of_nodup_map distinct member inside same
            exact .alive rfl
          · exact .same row
  | markStale =>
      unfold NodeCall.run markStaleNodes
      refine .bind (R := fun _ t => NodeWrites before now _ before.store t) (.read ?_)
        fun _ => .ret fun _ h => h
      rintro t rfl
      refine .bind (R := fun _ t => NodeWrites before now _ before.store t) (.write ?_)
        fun _ => .ret fun _ h => h
      rintro t rfl
      refine .map (fun row _ => ?_) .none
      split
      · rename_i stale
        exact .swept rfl stale
      · exact .same row
  | find jobType =>
      unfold NodeCall.run
      refine .read ?_
      rintro t rfl
      exact .ret fun _ h => h ▸ nodeWrites_same rfl

theorem writes_breaker (now : ℕ) (c : BreakerCall) (before : World ℕ L) :
    NodeWrites before now (.breaker c) before.store
      (serve now (.breaker c) before).after.store := by
  cases c with
  | failure nodeId =>
      rw [serve_failure]
      split
      · rename_i trips
        refine .map (fun row _ => ?_) .none
        split
        · rename_i same
          obtain rfl := same
          exact .tripped rfl trips
        · exact .same row
      · exact nodeWrites_same rfl
  | success nodeId =>
      rw [serve_success]
      refine .map (fun row _ => ?_) .none
      split
      · rename_i same
        obtain rfl := same
        exact .restored rfl
      · exact .same row
  | check nodeId =>
      rw [serve_check]
      split
      · exact nodeWrites_same rfl
      · exact nodeWrites_same rfl
  | reset nodeId =>
      rw [serve_reset]
      exact nodeWrites_same rfl

/-- Every call of every service. -/
theorem writes_serve (now : ℕ) (call : Call L) (before : World ℕ L)
    (distinct : before.store.DistinctNodes) :
    NodeWrites before now call before.store (serve now call before).after.store := by
  cases call with
  | job c => exact nodeWrites_same (nodes_serveJob now c before)
  | breaker c => exact writes_breaker now c before
  | node c =>
      have ends := writes_node now c before distinct before.store rfl
      change NodeWrites _ _ _ _ (serveNode now c before).after.store
      cases ran : (c.run now).run before.store with
      | ok answer s =>
          rw [ran] at ends
          rw [serveNode_ok ran]
          exact ends
      | error e s =>
          rw [ran] at ends
          rw [serveNode_error ran]
          split
          · exact nodeWrites_same rfl
          · exact nodeWrites_same (congrArg Store.nodes ends)

end Calls
end RenderTrust.Scheduler
