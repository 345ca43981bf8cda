import RenderTrust.Relay.Identity

/-!
# The two doors of a node

A node shows its token to the relay and to the endpoints of the scheduler. The relay compares the
subject with the text of the identifier in its path, and asks no database; `get_current_node` reads
the subject as an identifier and loads the row.
-/
namespace RenderTrust.Relay
open Lib Scheduler

variable {J L : Type} (jwt : NodeJwt J) (seconds : ℕ)

/-- `get_current_node` accepts the token of a request and returns the node. -/
def AcceptedByScheduler (token : Option J) (s : Store ℕ L) (nodeId : Uuid) : Prop :=
  ∃ t node, token = some t ∧ getCurrentNode jwt seconds t s = .ok node ∧ node.id = nodeId

/-- The row is there and is not that of a node that is offline. -/
def inService (s : Store ℕ L) (nodeId : Uuid) : Bool :=
  (s.nodeById nodeId).any fun node => node.status ≠ .OFFLINE

section Token
variable {jwt : NodeJwt J} {seconds : ℕ} {token : J} {s : Store ℕ L} {nodeId : Uuid}

theorem authenticateWebsocket_iff :
    authenticateWebsocket jwt seconds (some token) nodeId = .ok () ↔
      ∃ payload, verifyNodeToken jwt seconds token = .ok payload ∧
        payload.sub = some nodeId.str := by
  constructor
  · exact authenticateWebsocket_ok
  · intro ⟨payload, verified, named⟩
    simp [authenticateWebsocket, verified, named]

theorem currentNode_ok_iff :
    (∃ node, currentNode s nodeId = .ok node ∧ node.id = nodeId) ↔ inService s nodeId = true := by
  unfold currentNode inService
  cases found : s.nodeById nodeId with
  | none => simp
  | some row =>
      have same := (Store.nodeById_eq_some found).2
      by_cases offline : row.status = .OFFLINE
      · simp [offline]
      · simp [offline, same]

theorem getCurrentNode_iff :
    (∃ node, getCurrentNode jwt seconds token s = .ok node ∧ node.id = nodeId) ↔
      ∃ payload, verifyNodeToken jwt seconds token = .ok payload ∧
        payload.sub.bind Uuid.parse = some nodeId ∧ inService s nodeId = true := by
  constructor
  · intro ⟨node, current, same⟩
    obtain ⟨payload, verified, named, _⟩ := getCurrentNode_ok current
    rw [same] at named
    refine ⟨payload, verified, named, currentNode_ok_iff.mp ⟨node, ?_, same⟩⟩
    simpa only [getCurrentNode, verified, named] using current
  · intro ⟨payload, verified, named, working⟩
    obtain ⟨node, loaded, same⟩ := currentNode_ok_iff.mpr working
    refine ⟨node, ?_, same⟩
    simpa only [getCurrentNode, verified, named] using loaded

theorem relay_accepts_iff {token : Option J} :
    authenticateWebsocket jwt seconds token nodeId = .ok () ↔
      ∃ t payload, token = some t ∧ verifyNodeToken jwt seconds t = .ok payload ∧
        payload.sub = some nodeId.str := by
  cases token with
  | none => simp [authenticateWebsocket]
  | some t => simp [authenticateWebsocket_iff]

theorem scheduler_accepts_iff {token : Option J} :
    AcceptedByScheduler jwt seconds token s nodeId ↔
      ∃ t payload, token = some t ∧ verifyNodeToken jwt seconds t = .ok payload ∧
        payload.sub.bind Uuid.parse = some nodeId ∧ inService s nodeId = true := by
  unfold AcceptedByScheduler
  cases token with
  | none => simp
  | some t =>
      have door : (∃ node, getCurrentNode jwt seconds t s = .ok node ∧ node.id = nodeId) ↔ _ :=
        getCurrentNode_iff
      simpa using door

end Token

/-- What each door asks of a token, and when they agree on a node: if the token is read as one of
the node, its subject has to be the canonical text exactly when the node is in service. -/
theorem doors_agree_iff (token : Option J) (s : Store ℕ L) (nodeId : Uuid) :
    (authenticateWebsocket jwt seconds token nodeId = .ok () ↔
      ∃ t payload, token = some t ∧ verifyNodeToken jwt seconds t = .ok payload ∧
        payload.sub = some nodeId.str) ∧
    (AcceptedByScheduler jwt seconds token s nodeId ↔
      ∃ t payload, token = some t ∧ verifyNodeToken jwt seconds t = .ok payload ∧
        payload.sub.bind Uuid.parse = some nodeId ∧ inService s nodeId = true) ∧
    ((authenticateWebsocket jwt seconds token nodeId = .ok () ↔
        AcceptedByScheduler jwt seconds token s nodeId) ↔
      ∀ t payload, token = some t → verifyNodeToken jwt seconds t = .ok payload →
        payload.sub.bind Uuid.parse = some nodeId →
          (payload.sub = some nodeId.str ↔ inService s nodeId = true)) := by
  refine ⟨relay_accepts_iff, scheduler_accepts_iff, ?_⟩
  rw [relay_accepts_iff, scheduler_accepts_iff]
  constructor
  · intro agree t payload shown verified named
    constructor
    · intro canonical
      obtain ⟨t', payload', shown', verified', _, working⟩ :=
        agree.mp ⟨t, payload, shown, verified, canonical⟩
      exact working
    · intro working
      obtain ⟨t', payload', shown', verified', canonical⟩ :=
        agree.mpr ⟨t, payload, shown, verified, named, working⟩
      obtain rfl := Option.some.inj (shown.symm.trans shown')
      obtain rfl := Except.ok.inj (verified.symm.trans verified')
      exact canonical
  · intro condition
    constructor
    · intro ⟨t, payload, shown, verified, canonical⟩
      have named : payload.sub.bind Uuid.parse = some nodeId := by
        rw [canonical, Option.bind_some, Uuid.parse_str]
      exact ⟨t, payload, shown, verified, named,
        (condition t payload shown verified named).mp canonical⟩
    · intro ⟨t, payload, shown, verified, named, working⟩
      exact ⟨t, payload, shown, verified, (condition t payload shown verified named).mpr working⟩

/-- A token of the gateway for a node that is in no row. -/
theorem doors_disagree :
    ¬ ∀ (token : Option NodeToken) (s : Store ℕ ℕ) (nodeId : Uuid),
      authenticateWebsocket plainJwt 1 token nodeId = .ok () ↔
        AcceptedByScheduler plainJwt 1 token s nodeId := by
  intro agree
  have relayed : authenticateWebsocket plainJwt 1 (some (createNodeToken 1000000 7 3 [])) 3 =
      .ok () := authenticateWebsocket_iff.mpr ⟨_, by rfl, rfl⟩
  obtain ⟨t, node, _, current, _⟩ := (agree _ ⟨[], [], [], []⟩ 3).mp relayed
  obtain ⟨payload, _, _, member⟩ := getCurrentNode_ok current
  cases member

end RenderTrust.Relay
