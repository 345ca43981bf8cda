import RenderTrust.Auth.Jwt
import RenderTrust.Scheduler.NodeService

/-!
# `core/scheduler/crypto.py` and `core/scheduler/auth.py`

The token of a node, and the node that a request with a token comes from. Tokens `J` and
what encodes and decodes them are those of the JWT library.
-/
namespace RenderTrust.Scheduler
open Lib
open Auth (Claims)

/-- The library with the secret of the gateway: `none` is an exception. A token is decoded
at a time in seconds. -/
structure NodeJwt (J : Type) where
  encode : NodeToken → J
  decode : J → ℕ → Option Claims

def invalidNodeCredentials : SchedulerError := .httpException 401 "Invalid node credentials"

section Tokens
variable {J L : Type} (jwt : NodeJwt J)

def verifyNodeToken (seconds : ℕ) (token : J) : Except SchedulerError Claims :=
  match jwt.decode token seconds with
  | none => .error invalidNodeCredentials
  | some payload =>
      if payload.tokenType ≠ some "node" then .error invalidNodeCredentials
      else if payload.sub = none ∨ payload.sub = some "" then .error invalidNodeCredentials
      else .ok payload

/-- The row that a token names. -/
def currentNode (s : Store ℕ L) (nodeId : Uuid) : Except SchedulerError (EdgeNode ℕ L) :=
  match s.nodeById nodeId with
  | none => .error (.httpException 401 "Node not found")
  | some node =>
      if node.status = .OFFLINE then .error (.httpException 401 "Node is offline") else .ok node

def getCurrentNode (seconds : ℕ) (token : J) (s : Store ℕ L) :
    Except SchedulerError (EdgeNode ℕ L) :=
  match verifyNodeToken jwt seconds token with
  | .error e => .error e
  | .ok payload =>
      match payload.sub.bind Uuid.parse with
      | none => .error (.httpException 401 "Invalid node ID")
      | some nodeId => currentNode s nodeId

end Tokens
end RenderTrust.Scheduler
