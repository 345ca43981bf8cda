import RenderTrust.Scheduler.Tracking

/-!
# Nodes that are tripped

Which nodes `find_best_node` passes over, and how often a tripped node is tried, over
timed runs of the calls that write the status of a node.
-/
namespace RenderTrust.Scheduler
open Lib Lib.Hoare Lib.Keyed Lib.Runs

variable {L : Type}

/-- The failures of the node reached the threshold, the last of them a short time ago. -/
def Isolated (nodeId : Uuid) (past : List (Exchange L)) (now : ℕ) : Bool :=
  FAILURE_THRESHOLD ≤ failures nodeId past ∧
    (lastFailure nodeId past).any fun last => now < last + RECOVERY_TIMEOUT * 1000000

/-- No node with the identity takes jobs. -/
def Sick (nodeId : Uuid) (s : Store ℕ L) : Prop :=
  ∀ node ∈ s.nodes, node.id = nodeId → node.status ≠ .HEALTHY

/-! ## The status of a node -/

section Nodes
variable {nodeId : Uuid} {s : Store ℕ L}

theorem findBestNode_healthy [LinearOrder L] {jobType : String} {node : EdgeNode ℕ L}
    (found : findBestNode s jobType = some node) : node ∈ s.nodes ∧ node.status = .HEALTHY := by
  have member := (orderBy_perm _).mem_iff.mp (List.mem_of_find?_eq_some found)
  obtain ⟨inside, healthy⟩ := List.mem_filter.mp member
  exact ⟨inside, of_decide_eq_true healthy⟩

theorem Sick.map {f : EdgeNode ℕ L → EdgeNode ℕ L} (h : Sick nodeId s)
    (ids : ∀ node, (f node).id = node.id)
    (keeps : ∀ node, node.id = nodeId → node.status ≠ .HEALTHY → (f node).status ≠ .HEALTHY) :
    Sick nodeId { s with nodes := s.nodes.map f } := by
  intro node member same
  obtain ⟨old, inside, rfl⟩ := List.mem_map.mp member
  rw [ids] at same
  exact keeps old same (h old inside same)

theorem Sick.setNodeStatus {other : Uuid} (h : Sick nodeId s) (differs : nodeId ≠ other)
    (status : NodeStatus) : Sick nodeId (s.setNodeStatus other status) := by
  refine h.map (fun node => ?_) (fun node same sick => ?_)
  · split <;> rfl
  · rw [if_neg]
    · exact sick
    · exact fun here => differs (same.symm.trans here)

theorem sick_unhealthy (s : Store ℕ L) (nodeId : Uuid) :
    Sick nodeId (s.setNodeStatus nodeId .UNHEALTHY) := by
  intro node member same
  obtain ⟨old, -, rfl⟩ := List.mem_map.mp member
  split
  · rintro ⟨⟩
  · rename_i other
    rw [if_neg other] at same
    exact absurd same other

theorem Sick.insert (h : Sick nodeId s) {node : EdgeNode ℕ L} (new : node.status = .REGISTERED) :
    Sick nodeId { s with nodes := s.nodes ++ [node] } := by
  intro row member same
  rcases List.mem_append.mp member with old | added
  · exact h row old same
  · rw [List.mem_singleton.mp added, new]
    rintro ⟨⟩

/-- Only a heartbeat of the node itself makes it HEALTHY. -/
theorem sick_node [LinearOrder L] [Zero L] [One L] (now : ℕ) (c : NodeCall L)
    (silent : ∀ currentLoad, c ≠ .heartbeat nodeId currentLoad) :
    Keeps (Sick nodeId) (c.run now) := by
  cases c with
  | register id jti challenge name publicKey capabilities =>
      have registers := keeps_registerNode (I := Sick (L := L) nodeId)
        (fun _ h _ new => h.insert new) now id jti challenge name publicKey capabilities
      exact .bind registers fun _ => .ret fun _ h => h
  | heartbeat other currentLoad =>
      have differs : nodeId ≠ other := fun same => silent currentLoad (same ▸ rfl)
      unfold NodeCall.run
      refine .read fun t h => Triple.start (P := Sick nodeId) ?_ h
      cases found : t.nodeById other with
      | none => exact .ret fun _ h => h
      | some node =>
          have here : node.id = other := (mem_of_find?_key found).2
          unfold processHeartbeat
          refine .bind (.bind (.write fun u h => ?_) fun _ => .ret fun _ h => h)
            fun _ => .ret fun _ h => h
          refine h.map (fun row => ?_) (fun row same sick => ?_)
          · split
            · rename_i equal
              exact equal.symm
            · rfl
          · rw [if_neg]
            · exact sick
            · intro equal
              exact differs (same.symm.trans (equal.trans here))
  | markStale =>
      unfold NodeCall.run markStaleNodes
      refine .bind (.read fun t h => Triple.start (P := Sick nodeId) ?_ h) fun _ =>
        .ret fun _ h => h
      refine .bind (.write fun u h => ?_) fun _ => .ret fun _ h => h
      refine h.map (fun row => ?_) (fun row same sick => ?_)
      · split <;> rfl
      · split
        · rintro ⟨⟩
        · exact sick
  | find jobType =>
      unfold NodeCall.run
      exact .read fun t h => .ret fun u same => same ▸ h

end Nodes

/-! ## Isolation -/

/-- A call that reads or writes the status of nodes, but no heartbeat of an isolated one. -/
def quiet (past : List (Exchange L)) (now : ℕ) : Call L → Bool
  | .job _ => false
  | .breaker (.reset _) => false
  | .breaker _ => true
  | .node (.heartbeat nodeId _) => ¬ Isolated nodeId past now
  | .node _ => true

def Quiet (t : Timeline L) (e : Event L) : Prop := t.Forward e ∧ quiet t.past e.now e.call

instance (t : Timeline L) (e : Event L) : Decidable (Quiet t e) :=
  inferInstanceAs (Decidable (_ ∧ _))

/-- The node that `find_best_node` returned. -/
def Exchange.found (x : Exchange L) : Option (EdgeNode ℕ L) :=
  match x.call, x.answer with
  | .node (.find _), .ok (.found node) => node
  | _, _ => none

/-- No node was returned while it was isolated. -/
def Timeline.Isolates (t : Timeline L) : Prop :=
  ∀ later x earlier node, t.past = later ++ x :: earlier → x.found = some node →
    ¬ Isolated node.id earlier x.now

structure Guarded (t : Timeline L) : Prop where
  tracked : ∀ nodeId, Tracked t.world.breaker t.past nodeId
  sick : ∀ nodeId now, (t.past.head?.all fun x => x.now ≤ now) → Isolated nodeId t.past now →
    Sick nodeId t.world.store
  isolates : t.Isolates

theorem isolated_earlier {nodeId : Uuid} {past : List (Exchange L)} {now later : ℕ}
    (h : Isolated nodeId past later) (le : now ≤ later) : Isolated nodeId past now := by
  obtain ⟨reached, recent⟩ := of_decide_eq_true h
  obtain ⟨last, found, within⟩ := (Option.any_eq_true _ _).mp recent
  refine decide_eq_true ⟨reached, (Option.any_eq_true _ _).mpr ⟨last, found, ?_⟩⟩
  exact decide_eq_true (le.trans_lt (of_decide_eq_true within))

theorem head_le {past : List (Exchange L)} {earlier later : ℕ}
    (forward : past.head?.all fun x => x.now ≤ earlier) (le : earlier ≤ later) :
    past.head?.all fun x => x.now ≤ later := by
  cases past with
  | nil => rfl
  | cons x past => exact decide_eq_true ((of_decide_eq_true forward).trans le)

section Step
variable [LinearOrder L] [Zero L] [One L] {now : ℕ} {w : World ℕ L} {past : List (Exchange L)}
  {nodeId : Uuid}

/-- A call that does not name the node changes nothing of its isolation. -/
theorem isolated_unnamed {call : Call L} {later : ℕ} (fails : ¬ call.fails nodeId)
    (clears : ¬ call.clears nodeId) :
    Isolated nodeId (serve now call w :: past) later = Isolated nodeId past later := by
  unfold Isolated
  rw [failures_serve, lastFailure_serve, if_neg fails, if_neg fails, if_neg clears, if_neg clears]

theorem sick_serveNode {c : NodeCall L} (h : Sick nodeId w.store)
    (silent : ∀ currentLoad, c ≠ .heartbeat nodeId currentLoad) :
    Sick nodeId (serve now (.node c) w).after.store := by
  change Sick nodeId (serveNode now c w).after.store
  have ends := sick_node now c silent w.store h
  cases ran : (c.run now).run w.store with
  | ok answer s =>
      rw [ran] at ends
      rw [serveNode_ok ran]
      exact ends
  | error e s =>
      rw [ran] at ends
      rw [serveNode_error ran]
      split
      · exact h
      · exact ends

/-- A failure that reaches the threshold, or comes after it, makes the node UNHEALTHY. -/
theorem sick_failure (tracked : Tracked w.breaker past nodeId) {later : ℕ}
    (isolated : Isolated nodeId (serve now (.breaker (.failure nodeId)) w :: past) later) :
    Sick nodeId (serve now (.breaker (.failure nodeId)) w).after.store := by
  have named : (.breaker (.failure nodeId) : Call L).fails nodeId := decide_eq_true rfl
  have trips : Trips w.breaker nodeId := by
    have reached := (of_decide_eq_true isolated).1
    rw [failures_serve, if_pos named, ← tracked.count] at reached
    exact reached
  rw [serve_failure, if_pos trips]
  exact sick_unhealthy w.store nodeId

theorem not_isolated_success {later : ℕ} :
    ¬ Isolated nodeId (serve now (.breaker (.success nodeId)) w :: past) later := by
  intro isolated
  have reached := (of_decide_eq_true isolated).1
  have passes : ¬ (.breaker (.success nodeId) : Call L).fails nodeId := Bool.false_ne_true
  have cleared : (.breaker (.success nodeId) : Call L).clears nodeId := decide_eq_true rfl
  rw [failures_serve, if_neg passes, if_pos cleared] at reached
  exact absurd reached (by decide)

theorem sick_check {id : Uuid} (h : Sick nodeId w.store) :
    Sick nodeId (serve now (.breaker (.check id)) w).after.store := by
  rw [serve_check]
  split
  · exact h
  · exact h

/-- What was isolated before the call is still passed over after it. -/
theorem sick_serveBreaker {c : BreakerCall} (h : Sick nodeId w.store) (other : nodeId ≠ c.nodeId) :
    Sick nodeId (serve now (.breaker c) w).after.store := by
  cases c with
  | failure id =>
      rw [serve_failure]
      split
      · exact h.setNodeStatus other .UNHEALTHY
      · exact h
  | success id =>
      rw [serve_success]
      exact h.setNodeStatus other .HEALTHY
  | check id => exact sick_check h
  | reset id =>
      rw [serve_reset]
      exact h

theorem sick_serve {t : Timeline L} (h : Guarded t) {now : ℕ} {call : Call L}
    (allowed : Quiet t ⟨now, call⟩) {later : ℕ} (le : now ≤ later)
    (isolated : Isolated nodeId (serve now call t.world :: t.past) later) :
    Sick nodeId (serve now call t.world).after.store := by
  obtain ⟨forward, kind⟩ := allowed
  have before := h.sick nodeId later (head_le forward le)
  cases call with
  | job c => cases kind
  | breaker c =>
      by_cases named : nodeId = c.nodeId
      · cases c with
        | failure id =>
            obtain rfl := named
            exact sick_failure (h.tracked nodeId) isolated
        | success id =>
            obtain rfl := named
            exact absurd isolated not_isolated_success
        | check id =>
            have fails : ¬ (.breaker (.check id) : Call L).fails nodeId := Bool.false_ne_true
            have clears : ¬ (.breaker (.check id) : Call L).clears nodeId := Bool.false_ne_true
            rw [isolated_unnamed fails clears] at isolated
            exact sick_check (before isolated)
        | reset id => cases kind
      · obtain ⟨fails, clears⟩ := BreakerCall.unnamed (L := L) named
        rw [isolated_unnamed fails clears] at isolated
        exact sick_serveBreaker (before isolated) named
  | node c =>
      have fails : ¬ (.node c : Call L).fails nodeId := Bool.false_ne_true
      have clears : ¬ (.node c : Call L).clears nodeId := Bool.false_ne_true
      rw [isolated_unnamed fails clears] at isolated
      refine sick_serveNode (before isolated) ?_
      rintro currentLoad rfl
      exact of_decide_eq_true kind (isolated_earlier isolated le)

theorem found_serve {call : Call L} {node : EdgeNode ℕ L}
    (found : (serve now call w).found = some node) :
    ∃ jobType, findBestNode w.store jobType = some node := by
  unfold Exchange.found at found
  split at found
  · rename_i jobType best asked answered
    rw [(serve_asked now call w).2.1] at asked
    rw [asked] at answered
    refine ⟨jobType, ?_⟩
    rw [← found]
    exact Answer.found.inj (Except.ok.inj answered)
  · cases found

theorem Guarded.step {t : Timeline L} (h : Guarded t) {now : ℕ} {call : Call L}
    (allowed : Quiet t ⟨now, call⟩) :
    Guarded ⟨(serve now call t.world).after, serve now call t.world :: t.past⟩ where
  tracked nodeId := (h.tracked nodeId).step now call
  sick nodeId later le isolated := by
    refine sick_serve h allowed ?_ isolated
    have reached := of_decide_eq_true le
    rwa [(serve_asked now call t.world).1] at reached
  isolates := by
    intro later x earlier node split found
    cases later with
    | nil =>
        obtain ⟨rfl, rfl⟩ := List.cons.inj split
        rw [(serve_asked now call t.world).1]
        obtain ⟨jobType, best⟩ := found_serve found
        obtain ⟨member, healthy⟩ := findBestNode_healthy best
        intro isolated
        exact h.sick node.id now allowed.1 isolated node member rfl healthy
    | cons y later =>
        exact h.isolates later x earlier node (List.cons.inj split).2 found

end Step

/-- No heartbeat reaches a node while it is isolated. -/
theorem isolates_of_run [LinearOrder L] [Zero L] [One L] {w : World ℕ L} {t : Timeline L}
    {es : List (Event L)} (run : Run Timeline.step Quiet (.opening w) es t)
    (new : w.breaker = .new) : t.Isolates := by
  have start : Guarded (.opening w) := by
    refine ⟨fun nodeId => new ▸ tracked_new nodeId, fun nodeId now _ isolated => ?_, ?_⟩
    · have reached : FAILURE_THRESHOLD ≤ 0 := (of_decide_eq_true isolated).1
      exact absurd reached (by decide)
    · intro later x earlier node split
      cases later with
      | nil => cases split
      | cons => cases split
  have guarded := run.invariant (I := Guarded) ?_ start
  · exact guarded.isolates
  · rintro t ⟨now, call⟩ _ h allowed ⟨⟩
    exact h.step allowed

/-- A heartbeat of another node, and one that comes when the timeout has passed. -/
def quietCalls : List (Event ℕ) :=
  [⟨1, .breaker (.failure 3)⟩, ⟨2, .breaker (.failure 3)⟩, ⟨3, .breaker (.failure 3)⟩,
    ⟨4, .node (.heartbeat 4 1)⟩, ⟨5, .node (.find "render")⟩,
    ⟨300000003, .node (.heartbeat 3 0)⟩, ⟨300000004, .node (.find "render")⟩]

theorem isolates_of_run_quiet : ∃ t : Timeline ℕ,
    Run Timeline.step Quiet (.opening ⟨⟨twoNodes, [], [], []⟩, .new⟩) quietCalls t ∧
      t.Isolates := by
  have accepted : (exec Timeline.step Quiet
      (.opening ⟨⟨twoNodes, [], [], []⟩, .new⟩) quietCalls).isSome := by decide +kernel
  obtain ⟨t, run⟩ := run_of_isSome accepted
  exact ⟨t, run, isolates_of_run run rfl⟩

/-- Three failures and a heartbeat: the node is selected two microseconds later. -/
theorem heartbeat_selected :
    ¬ ∀ (es : List (Event ℕ)) (t : Timeline ℕ), Run Timeline.step Timeline.Forward
      (.opening ⟨⟨twoNodes, [], [], []⟩, .new⟩) es t → t.Isolates := by
  intro claim
  have selected : (exec Timeline.step Timeline.Forward
      (.opening ⟨⟨twoNodes, [], [], []⟩, .new⟩)
      [⟨1, .breaker (.failure 3)⟩, ⟨2, .breaker (.failure 3)⟩, ⟨3, .breaker (.failure 3)⟩,
        ⟨4, .node (.heartbeat 3 0)⟩, ⟨5, .node (.find "render")⟩]).any fun t =>
      t.past.head?.any fun x => x.found.any fun node => Isolated node.id t.past.tail x.now := by
    decide +kernel
  obtain ⟨t, run, last⟩ := run_of_any selected
  obtain ⟨x, newest, best⟩ := (Option.any_eq_true _ _).mp last
  obtain ⟨node, found, isolated⟩ := (Option.any_eq_true _ _).mp best
  have split : t.past = [] ++ x :: t.past.tail := (List.cons_head?_tail newest).symm
  exact claim _ t run [] x t.past.tail node split found isolated

/-! ## Probes -/

/-- `record_failure` or `record_success` of the node. -/
def Call.records (nodeId : Uuid) : Call L → Bool
  | .breaker (.failure id) => id = nodeId
  | .breaker (.success id) => id = nodeId
  | _ => false

def Call.checks (nodeId : Uuid) : Call L → Bool
  | .breaker (.check id) => id = nodeId
  | _ => false

def Exchange.healthy (x : Exchange L) : Bool :=
  match x.answer with
  | .ok (.status .HEALTHY) => true
  | _ => false

/-- The node was UNHEALTHY in the table, and `check_node_health` let a job through. -/
def Exchange.probes (x : Exchange L) (nodeId : Uuid) : Bool :=
  x.call.checks nodeId && (x.before.store.unhealthy nodeId && x.healthy)

/-- The probes of the node since its last recorded result. -/
def probes (nodeId : Uuid) : List (Exchange L) → ℕ
  | [] => 0
  | x :: past =>
      if x.call.records nodeId then 0 else probes nodeId past + if x.probes nodeId then 1 else 0

/-- The call checks the node, which is UNHEALTHY and whose timeout has passed. -/
def Call.tries (nodeId : Uuid) (w : World ℕ L) (now : ℕ) (call : Call L) : Bool :=
  call.checks nodeId && (w.store.unhealthy nodeId && w.breaker.due now nodeId)

/-- The checks of the node since its last recorded result that found its timeout passed. -/
def tries (nodeId : Uuid) : List (Exchange L) → ℕ
  | [] => 0
  | x :: past =>
      if x.call.records nodeId then 0
      else tries nodeId past + if x.call.tries nodeId x.before x.now then 1 else 0

def firstTry (t : Timeline L) (now : ℕ) : Call L → Bool
  | .breaker (.check nodeId) =>
      t.world.store.unhealthy nodeId ∧ t.world.breaker.due now nodeId → tries nodeId t.past = 0
  | .breaker (.failure _) => true
  | .breaker (.success _) => true
  | _ => false

/-- A node that is tried is not tried again before a result is recorded. -/
def TriesOnce (t : Timeline L) (e : Event L) : Prop := firstTry t e.now e.call

instance (t : Timeline L) (e : Event L) : Decidable (TriesOnce t e) :=
  inferInstanceAs (Decidable (_ = true))

theorem Store.status_of_unhealthy {s : Store ℕ L} {nodeId : Uuid} (unhealthy : s.unhealthy nodeId) :
    ((s.nodeById nodeId).map EdgeNode.status).getD .OFFLINE = .UNHEALTHY := by
  obtain ⟨node, found, status⟩ := (Option.any_eq_true _ _).mp unhealthy
  rw [found]
  exact of_decide_eq_true status

theorem eq_of_checks {call : Call L} {nodeId : Uuid} (checked : call.checks nodeId) :
    call = .breaker (.check nodeId) := by
  unfold Call.checks at checked
  split at checked
  · rw [of_decide_eq_true checked]
  · cases checked

section Probes
variable [LinearOrder L] [Zero L] [One L] {now : ℕ} {w : World ℕ L} {past : List (Exchange L)}
  {nodeId : Uuid}

/-- The half-open mark is not read: every check that finds the timeout passed is a probe. -/
theorem probes_serve (call : Call L) :
    (serve now call w).probes nodeId = call.tries nodeId w now := by
  obtain ⟨-, asked, before⟩ := serve_asked now call w
  unfold Exchange.probes Call.tries
  rw [asked, before]
  cases checked : call.checks nodeId with
  | false => rfl
  | true =>
      obtain rfl := eq_of_checks checked
      cases unhealthy : w.store.unhealthy nodeId with
      | false => rfl
      | true =>
          rw [Bool.true_and, Bool.true_and, Bool.true_and, Exchange.healthy, serve_check]
          cases due : w.breaker.due now nodeId with
          | false =>
              rw [if_neg fun both => Bool.false_ne_true both.2, Store.status_of_unhealthy unhealthy]
              rfl
          | true =>
              rw [if_pos ⟨unhealthy, rfl⟩]
              rfl

theorem probes_eq_tries {t₀ t : Timeline L} {es : List (Event L)} {ok : Timeline L → Event L → Prop}
    (run : Run Timeline.step ok t₀ es t) (start : probes nodeId t₀.past = tries nodeId t₀.past) :
    probes nodeId t.past = tries nodeId t.past := by
  refine run.invariant (I := fun t => probes nodeId t.past = tries nodeId t.past) ?_ start
  rintro t ⟨now, call⟩ _ same _ ⟨⟩
  obtain ⟨time, asked, before⟩ := serve_asked now call t.world
  change probes nodeId (serve now call t.world :: t.past) =
    tries nodeId (serve now call t.world :: t.past)
  rw [probes, tries, same, probes_serve, time, asked, before]

theorem tries_le_one {t : Timeline L} {call : Call L} (h : tries nodeId t.past ≤ 1)
    (first : TriesOnce t ⟨now, call⟩) : tries nodeId (serve now call t.world :: t.past) ≤ 1 := by
  obtain ⟨time, asked, before⟩ := serve_asked now call t.world
  rw [tries, time, asked, before]
  split
  · exact Nat.zero_le 1
  · cases tried : call.tries nodeId t.world now with
    | false => exact h
    | true =>
        obtain ⟨checked, ready⟩ := Bool.and_eq_true_iff.mp tried
        obtain rfl := eq_of_checks checked
        have none : tries nodeId t.past = 0 :=
          of_decide_eq_true first (Bool.and_eq_true_iff.mp ready)
        rw [none]
        rfl

/-- Between two results of a node at most one probe of it. -/
theorem probes_of_run {w : World ℕ L} {t : Timeline L} {es : List (Event L)}
    (run : Run Timeline.step TriesOnce (.opening w) es t) (nodeId : Uuid) :
    probes nodeId t.past ≤ 1 := by
  have start : tries nodeId (Timeline.opening w).past ≤ 1 := Nat.zero_le 1
  rw [probes_eq_tries run rfl]
  refine run.invariant (I := fun t => tries nodeId t.past ≤ 1) ?_ start
  rintro t ⟨now, call⟩ _ h first ⟨⟩
  exact tries_le_one h first

end Probes

/-- One late check, a failure, and one more. -/
def triedCalls : List (Event ℕ) :=
  [⟨1, .breaker (.failure 3)⟩, ⟨2, .breaker (.failure 3)⟩, ⟨3, .breaker (.failure 3)⟩,
    ⟨4, .breaker (.check 3)⟩, ⟨300000003, .breaker (.check 3)⟩, ⟨300000004, .breaker (.failure 3)⟩,
    ⟨600000004, .breaker (.check 3)⟩]

theorem probes_of_run_tried : ∃ t : Timeline ℕ,
    Run Timeline.step TriesOnce (.opening ⟨⟨twoNodes, [], [], []⟩, .new⟩) triedCalls t ∧
      probes 3 t.past ≤ 1 := by
  have accepted : (exec Timeline.step TriesOnce
      (.opening ⟨⟨twoNodes, [], [], []⟩, .new⟩) triedCalls).isSome := by decide +kernel
  obtain ⟨t, run⟩ := run_of_isSome accepted
  exact ⟨t, run, probes_of_run run 3⟩

def recordsOrChecks : Call L → Bool
  | .breaker (.reset _) => false
  | .breaker _ => true
  | _ => false

/-- Two schedulers ask one after the other, and both may try the node. -/
theorem probed_twice :
    ¬ ∀ (es : List (Event ℕ)) (t : Timeline ℕ),
      Run Timeline.step (fun t e => t.Forward e ∧ recordsOrChecks e.call)
        (.opening ⟨⟨twoNodes, [], [], []⟩, .new⟩) es t → probes 3 t.past ≤ 1 := by
  intro claim
  have probed : (exec Timeline.step (fun t e => t.Forward e ∧ recordsOrChecks e.call)
      (.opening ⟨⟨twoNodes, [], [], []⟩, .new⟩)
      [⟨1, .breaker (.failure 3)⟩, ⟨2, .breaker (.failure 3)⟩, ⟨3, .breaker (.failure 3)⟩,
        ⟨300000003, .breaker (.check 3)⟩, ⟨300000004, .breaker (.check 3)⟩]).any
      fun t => probes 3 t.past = 2 := by decide +kernel
  obtain ⟨t, run, twice⟩ := run_of_any probed
  have most := claim _ t run
  rw [of_decide_eq_true twice] at most
  exact absurd most (by decide)

end RenderTrust.Scheduler
