import Mathlib.Logic.Function.Basic
import RenderTrust.Lib.Uuid

/-!
# `core/relay/manager.py`

The socket of each node that is connected. Sockets `W` are of any type.
-/
namespace RenderTrust.Relay
open Lib

structure ConnectionManager (W : Type) where
  connections : Uuid → Option W

namespace ConnectionManager
variable {W : Type}

def new : ConnectionManager W := ⟨fun _ => none⟩

def connect (manager : ConnectionManager W) (nodeId : Uuid) (websocket : W) : ConnectionManager W :=
  ⟨Function.update manager.connections nodeId (some websocket)⟩

/-- Whatever socket the node has. -/
def disconnect (manager : ConnectionManager W) (nodeId : Uuid) : ConnectionManager W :=
  ⟨Function.update manager.connections nodeId none⟩

/-- The socket that a message to the node is sent on; `none` is `False`. -/
def sendToNode (manager : ConnectionManager W) (nodeId : Uuid) : Option W :=
  manager.connections nodeId

def isConnected (manager : ConnectionManager W) (nodeId : Uuid) : Bool :=
  (manager.connections nodeId).isSome

variable (manager : ConnectionManager W) {nodeId other : Uuid} {websocket : W}

@[simp] theorem sendToNode_connect :
    (manager.connect nodeId websocket).sendToNode nodeId = some websocket :=
  Function.update_self ..

@[simp] theorem sendToNode_disconnect : (manager.disconnect nodeId).sendToNode nodeId = none :=
  Function.update_self ..

theorem sendToNode_connect_of_ne (differs : other ≠ nodeId) :
    (manager.connect nodeId websocket).sendToNode other = manager.sendToNode other :=
  Function.update_of_ne differs _ _

theorem sendToNode_disconnect_of_ne (differs : other ≠ nodeId) :
    (manager.disconnect nodeId).sendToNode other = manager.sendToNode other :=
  Function.update_of_ne differs _ _

theorem isConnected_of_sendToNode {manager : ConnectionManager W}
    (reached : manager.sendToNode nodeId = some websocket) : manager.isConnected nodeId := by
  unfold sendToNode at reached
  rw [isConnected, reached]
  rfl

end ConnectionManager
end RenderTrust.Relay
