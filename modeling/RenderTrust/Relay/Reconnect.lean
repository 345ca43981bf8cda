import RenderTrust.Relay.Server

/-!
# Nodes that connect again

Any number of handlers for any nodes, in any order of their steps: which socket the manager
has for a node whose newest handler still receives.
-/
namespace RenderTrust.Relay
open Lib Lib.Tasks Lib.Runs
open Scheduler (NodeJwt)

variable {J ι : Type} {jwt : NodeJwt J} {node : ι → Uuid}

/-- A message to a node goes to the handler that registered last, while it receives. -/
def Reaches (s : System ι (Server ι) Handler) : Prop :=
  ∀ nodeId i, s.shared.registered nodeId = some i → (s.task i).phase = .receiving →
    s.shared.manager.sendToNode nodeId = some i ∧ s.shared.manager.isConnected nodeId

/-- A handler registers for its own node, and while it receives it is the one that is found. -/
structure Reached (node : ι → Uuid) (i : ι) (r : Server ι) (h : Handler) : Prop where
  own : ∀ nodeId, r.registered nodeId = some i → nodeId = node i
  found : h.phase = .receiving → r.registered (node i) = some i →
    r.manager.sendToNode (node i) = some i

/-- A handler that has not registered now was found before, and the manager is the same. -/
theorem Reached.inside {i : ι} {r : Server ι} {h h' : Handler} (reached : Reached node i r h)
    (stays : h'.phase = .receiving → h.phase = .receiving) : Reached node i r h' :=
  ⟨reached.own, fun receiving => reached.found (stays receiving)⟩

theorem Reached.own_step {i : ι} {r r' : Server ι} {h h' : Handler} {step : HandlerStep J}
    (reached : Reached node i r h) (moved : Handler.Serves node i r h step r' h') :
    Reached node i r' h' := by
  cases moved with
  | accepts phase => exact reached.inside fun receiving => by cases receiving
  | refuses phase => exact reached.inside fun receiving => by cases receiving
  | gone phase => exact reached.inside fun receiving => by cases receiving
  | receives phase => exact reached.inside fun _ => phase
  | disconnects phase => exact reached.inside fun _ => phase
  | connects phase =>
      refine ⟨fun nodeId registered => ?_, fun _ _ => ConnectionManager.sendToNode_connect _⟩
      by_cases same : nodeId = node i
      · exact same
      · rw [Server.registered_connect_of_ne _ same] at registered
        exact reached.own nodeId registered
  | cleansUp phase => exact ⟨reached.own, fun receiving => by cases receiving⟩

theorem Reached.other_step {i j : ι} {r r' : Server ι} {h h' g : Handler} {step : HandlerStep J}
    (reached : Reached node j r g) (other : j ≠ i)
    (spared : step = .cleanUp → r.registered (node i) = some j → g.phase ≠ .receiving)
    (moved : Handler.Serves node i r h step r' h') : Reached node j r' g := by
  cases moved with
  | accepts | refuses | gone | receives | disconnects => exact reached
  | connects =>
      by_cases same : node j = node i
      · constructor
        · intro nodeId registered
          by_cases here : nodeId = node i
          · rw [here, same]
          · rw [Server.registered_connect_of_ne _ here] at registered
            exact reached.own nodeId registered
        · intro _ registered
          rw [same, Server.registered_connect] at registered
          exact absurd (Option.some.inj registered).symm other
      · constructor
        · intro nodeId registered
          by_cases here : nodeId = node i
          · rw [here, Server.registered_connect] at registered
            exact absurd (Option.some.inj registered).symm other
          · rw [Server.registered_connect_of_ne _ here] at registered
            exact reached.own nodeId registered
        · intro receiving registered
          rw [Server.registered_connect_of_ne _ same] at registered
          rw [Server.manager_connect, ConnectionManager.sendToNode_connect_of_ne _ same]
          exact reached.found receiving registered
  | cleansUp =>
      refine ⟨reached.own, fun receiving registered => ?_⟩
      by_cases same : node j = node i
      · rw [same] at registered
        exact absurd receiving (spared rfl registered)
      · rw [Server.manager_disconnect, ConnectionManager.sendToNode_disconnect_of_ne _ same]
        exact reached.found receiving registered

section Runs
variable [DecidableEq ι]

/-- No handler cleans up while another one, which registered for the node last, receives. -/
def undisturbed (node : ι → Uuid) (s : System ι (Server ι) Handler) : Move ι (Action J) ℕ → Bool
  | .task i (.handler .cleanUp) =>
      (s.shared.registered (node i)).all fun j => j = i ∨ (s.task j).phase ≠ .receiving
  | _ => true

def Undisturbed (node : ι → Uuid) (s : System ι (Server ι) Handler) (m : Move ι (Action J) ℕ) :
    Prop :=
  undisturbed node s m

instance (s : System ι (Server ι) Handler) (m : Move ι (Action J) ℕ) :
    Decidable (Undisturbed node s m) :=
  inferInstanceAs (Decidable (_ = true))

theorem stable_reached :
    Stable (relay jwt node) (Undisturbed node) (fun _ => True) (Reached node) where
  own s i action r h holds _ acted := by
    refine ⟨trivial, ?_⟩
    rcases act_relay acted with ⟨step, -, moved⟩ | ⟨beat, -, moved, rfl⟩
    · exact (holds.task i).own_step moved
    · exact (holds.task i).inside fun receiving => moved.phase ▸ receiving
  others s i action r h holds allowed acted j other := by
    rcases act_relay acted with ⟨step, rfl, moved⟩ | ⟨beat, -, -, rfl⟩
    · refine (holds.task j).other_step other ?_ moved
      rintro rfl registered
      have spared : (s.shared.registered (node i)).all fun j =>
        j = i ∨ (s.task j).phase ≠ .receiving := allowed
      rw [registered] at spared
      exact (of_decide_eq_true spared).resolve_left other
    · exact holds.task j
  environment s later r holds _ changed := by
    obtain ⟨-, ⟨⟩⟩ := Option.ite_none_right_eq_some.mp changed
    exact ⟨trivial, fun j => ⟨(holds.task j).own, (holds.task j).found⟩⟩

/-- As long as no clean-up comes in between. -/
theorem reaches_of_run {now : ℕ} {s : System ι (Server ι) Handler} {ms : List (Move ι (Action J) ℕ)}
    (run : Run (relay jwt node).step (Undisturbed node) (opening now) ms s) : Reaches s := by
  have start : Holds (fun _ => True) (Reached node) (opening now) := by
    refine ⟨trivial, fun i => ⟨fun nodeId registered => ?_, fun receiving => ?_⟩⟩
    · cases registered
    · cases receiving
  have holds := stable_reached.run run start
  intro nodeId i registered receiving
  obtain rfl := (holds.task i).own nodeId registered
  have found := (holds.task i).found receiving registered
  exact ⟨found, ConnectionManager.isConnected_of_sendToNode found⟩

/-- A clean-up that does come in between takes the live socket away. -/
theorem not_reaches_cleanUp {s t : System ι (Server ι) Handler} {i : ι}
    (moved : (relay jwt node).step s (.task i (.handler .cleanUp)) = some t)
    (disturbed : ¬ Undisturbed node s (.task i (.handler .cleanUp) : Move ι (Action J) ℕ)) :
    ¬ Reaches t := by
  intro reaches
  obtain ⟨acted, same⟩ := Program.step_task moved
  obtain ⟨phase, ended⟩ := Option.ite_none_right_eq_some.mp acted
  have shared : t.shared = s.shared.disconnect (node i) :=
    (Prod.mk.inj (Option.some.inj ended)).1.symm
  cases registered : s.shared.registered (node i) with
  | none =>
      refine disturbed ?_
      change ((s.shared.registered (node i)).all _ : Bool) = true
      rw [registered]
      rfl
  | some j =>
      have receives : j ≠ i ∧ (s.task j).phase = .receiving := by
        by_contra idle
        refine disturbed ?_
        change ((s.shared.registered (node i)).all _ : Bool) = true
        rw [registered]
        refine decide_eq_true ?_
        tauto
      have reached := reaches (node i) j (by rw [shared]; exact registered)
        (by rw [same j receives.1]; exact receives.2)
      rw [shared, Server.manager_disconnect, ConnectionManager.sendToNode_disconnect] at reached
      cases reached.1

end Runs

/-! ## Two connections of one node -/

def arrives (i : ℕ) : List (Move ℕ (Action Unit) ℕ) :=
  [.task i (.handler (.authenticate (some ()))), .task i (.handler .connect)]

def departs (i : ℕ) : List (Move ℕ (Action Unit) ℕ) :=
  [.task i (.handler .disconnected), .task i (.handler .cleanUp)]

/-- The first connection is cleaned up, then the node comes back. -/
theorem reaches_of_run_again : ∃ s : System ℕ (Server ℕ) Handler,
    Run (relay (openJwt 5) fun _ => 5).step (Undisturbed fun _ => 5) (opening 0)
      (arrives 0 ++ departs 0 ++ arrives 1) s ∧ Reaches s := by
  have accepted : (exec (relay (openJwt 5) fun _ => 5).step (Undisturbed fun _ => 5) (opening 0)
      (arrives 0 ++ departs 0 ++ arrives 1)).isSome := by decide +kernel
  obtain ⟨s, run⟩ := run_of_isSome accepted
  exact ⟨s, run, reaches_of_run run⟩

/-- The node comes back before the first connection is cleaned up. -/
theorem not_reaches_overlapping :
    ¬ ∀ (ms : List (Move ℕ (Action Unit) ℕ)) (s : System ℕ (Server ℕ) Handler),
      Run (relay (openJwt 5) fun _ => 5).step Always (opening 0) ms s → Reaches s := by
  intro claim
  have lost : (exec (relay (openJwt 5) fun _ => 5).step Always (opening 0)
      (arrives 0 ++ arrives 1 ++ departs 0)).any fun s => s.shared.registered 5 = some 1 ∧
        (s.task 1).phase = .receiving ∧ ¬ s.shared.manager.isConnected 5 := by decide +kernel
  obtain ⟨s, run, state⟩ := run_of_any lost
  obtain ⟨registered, receiving, absent⟩ := of_decide_eq_true state
  exact absent (claim _ s run 5 1 registered receiving).2

end RenderTrust.Relay
