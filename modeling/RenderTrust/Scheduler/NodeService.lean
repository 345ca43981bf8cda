import Mathlib.Order.Lattice
import RenderTrust.Lib.Hoare
import RenderTrust.Scheduler.Models

/-!
# `core/scheduler/service.py`

Nodes register, send heartbeats and are swept when they go silent. Times are in
microseconds.
-/
namespace RenderTrust.Scheduler
open Lib Lib.Hoare
open Ledger (bindable)

variable {L : Type}

/-- Seconds. -/
def HEARTBEAT_INTERVAL_SECONDS : ℕ := 30

def UNHEALTHY_THRESHOLD_SECONDS : ℕ := HEARTBEAT_INTERVAL_SECONDS * 3

inductive NodeError where
  | multipleResultsFound
  | typeError
  | integrityError
  | dataError
  deriving DecidableEq, Repr

abbrev NodeM (L : Type) := EStateM NodeError (Store ℕ L)

/-- The claims of `create_node_token`; times are in seconds. -/
structure NodeToken where
  sub : String
  exp : ℕ
  iat : ℕ
  tokenType : String
  capabilities : List Json
  jti : String

def createNodeToken (now : ℕ) (jti nodeId : Uuid) (capabilities : List Json) : NodeToken where
  sub := nodeId.str
  exp := now / 1000000 + 24 * 3600
  iat := now / 1000000
  tokenType := "node"
  capabilities := capabilities
  jti := jti.str

/-- `list(value or [])`; a number or `true` cannot be iterated. -/
def asList : Json → Option (List Json)
  | .null => some []
  | .bool b => if b then none else some []
  | .num x => if x = 0 then some [] else none
  | .str s => some (s.toList.map fun c => .str c.toString)
  | .arr items => some items
  | .obj fields => some (fields.map fun field => .str field.1)

def newNode [Zero L] (id : Uuid) (name publicKey : String) (caps : List Json) : EdgeNode ℕ L where
  id := id
  publicKey := publicKey
  name := name
  capabilities := .arr caps
  status := .REGISTERED
  lastHeartbeat := none
  currentLoad := 0

def insertNode (node : EdgeNode ℕ L) : NodeM L Unit := do
  if ¬ (node.name.length ≤ 255 ∧ bindable node.name) then throw .dataError
  if node.id ∈ (← get).nodes.map EdgeNode.id then throw .integrityError
  modify fun s => { s with nodes := s.nodes ++ [node] }

/-- `id`, `challenge` and `jti` are drawn at random. -/
def registerNode [Zero L] (now : ℕ) (id jti : Uuid) (challenge name publicKey : String)
    (capabilities : Option (List String)) : NodeM L (EdgeNode ℕ L × String × NodeToken) := do
  let caps := (capabilities.getD []).map Json.str
  if !bindable publicKey then throw .dataError
  match (← get).nodes.filter fun node => node.publicKey = publicKey with
  | [] =>
    let node := newNode id name publicKey caps
    insertNode node
    return (node, challenge, createNodeToken now jti node.id caps)
  | [existing] =>
    if caps ≠ [] then
      return (existing, challenge, createNodeToken now jti existing.id caps)
    match asList existing.capabilities with
    | none => throw .typeError
    | some stored => return (existing, challenge, createNodeToken now jti existing.id stored)
  | _ => throw .multipleResultsFound

/-- At most a node that is REGISTERED is added. -/
theorem keeps_registerNode [Zero L] {I : Store ℕ L → Prop}
    (inserts : ∀ s, I s → ∀ node, node.status = .REGISTERED →
      I { s with nodes := s.nodes ++ [node] })
    (now : ℕ) (id jti : Uuid) (challenge name publicKey : String)
    (capabilities : Option (List String)) :
    Keeps I (registerNode now id jti challenge name publicKey capabilities) := by
  unfold registerNode
  refine .ite (fun _ => .raise fun _ h => h) (fun _ => .read fun t h => ?_)
  refine Triple.start (P := I) ?_ h
  split
  · unfold insertNode
    refine .bind (.ite (fun _ => .raise fun _ h => h) fun _ => .read fun u h => ?_)
      fun _ => .ret fun _ h => h
    refine Triple.start (P := I) ?_ h
    exact .ite (fun _ => .raise fun _ h => h) fun _ => .write fun u h => inserts u h _ rfl
  · refine .ite (fun _ => .ret fun _ h => h) fun _ => ?_
    split
    · exact .raise fun _ h => h
    · exact .ret fun _ h => h
  · exact .raise fun _ h => h

/-- The load is clamped; a node that was not OFFLINE is HEALTHY. -/
def EdgeNode.alive [LinearOrder L] [Zero L] [One L] (node : EdgeNode ℕ L) (now : ℕ)
    (currentLoad : L) : EdgeNode ℕ L :=
  { node with
    lastHeartbeat := some now
    currentLoad := max 0 (min 1 currentLoad)
    status :=
      if node.status = .REGISTERED ∨ node.status = .UNHEALTHY then .HEALTHY else node.status }

def processHeartbeat [LinearOrder L] [Zero L] [One L] (now : ℕ) (node : EdgeNode ℕ L)
    (currentLoad : L) : NodeM L (EdgeNode ℕ L) := do
  let node := node.alive now currentLoad
  modify fun s => { s with nodes := s.nodes.map fun row => if row.id = node.id then node else row }
  return node

/-- A node without a heartbeat is not selected. -/
def EdgeNode.stale (node : EdgeNode ℕ L) (now : ℕ) : Bool :=
  node.status = .HEALTHY ∧
    node.lastHeartbeat.any fun last => last + UNHEALTHY_THRESHOLD_SECONDS * 1000000 < now

def markStaleNodes (now : ℕ) : NodeM L ℕ := do
  let stale := (← get).nodes.filter fun node => node.stale now
  modify fun s =>
    { s with nodes := s.nodes.map fun node =>
        if node.stale now then { node with status := .UNHEALTHY } else node }
  return stale.length

end RenderTrust.Scheduler
