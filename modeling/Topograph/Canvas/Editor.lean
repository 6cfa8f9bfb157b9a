import Topograph.Canvas.Projection
import Topograph.Problem
import Topograph.Validation.Network

/-!
# The graph editor

The live topology, the device whose details are open, and the nodes and edges that the canvas
draws. A new topology replaces the old one as a whole. Deleting and moving a device patch what is
drawn in place instead of projecting again: deleting drops nodes and edges by the text of the
identifier and names the remaining edges anew, moving draws the moved devices again.
-/
namespace Topograph

structure Editor where
  topology : Option Topology := none
  inspected : Option Device := none
  nodes : List RenderNode := []
  edges : List RenderEdge := []
  deriving DecidableEq, Repr, Inhabited

namespace Editor

inductive State where
  | empty
  | loaded
  | inspecting
  deriving DecidableEq, Repr

def State.word : State → String
  | .empty => "empty"
  | .loaded => "loaded"
  | .inspecting => "inspecting"

/-- A topology is there or not, and a device of it is being inspected or not. -/
def state (e : Editor) : State :=
  match e.topology, e.inspected with
  | none, _ => .empty
  | some _, some _ => .inspecting
  | some _, none => .loaded

/-- What is drawn. -/
def projection (e : Editor) : Projection := ⟨e.nodes, e.edges⟩

/-- What is drawn is the projection of the topology, if there is a topology; one without a
projection cannot be compared. -/
def isCurrent (e : Editor) : Except Failure Bool :=
  match e.topology.map Topology.project? with
  | none => .ok true
  | some (some p) => .ok (p = e.projection)
  | some none => .error .unwritable

def clear : Editor := {}

/-- Install a new topology and end any inspection. A topology without a projection is installed
all the same, and what was drawn before stays. -/
def replace (e : Editor) (t : Topology) : Outcome Editor Unit :=
  let installed := { e with topology := some t, inspected := none }
  match t.project? with
  | some p => ({ installed with nodes := p.nodes, edges := p.edges }, .ok ())
  | none => (installed, .error .unwritable)

/-- The first device with this identifier. -/
def device? (e : Editor) (id : Int) : Option Device := e.topology.bind (·.device? id)

/-- There is no device with this identifier, which the message has to name. -/
def absent (id : Int) : Failure :=
  if Number.IsWritable id then .problem (.noDevice id) else .unwritable

/-- Open the details of a device. -/
def select (e : Editor) (id : Int) : Outcome Editor Device :=
  match e.device? id with
  | some d => ({ e with inspected := some d }, .ok d)
  | none => (e, .error (absent id))

/-- Close the details. -/
def dismiss (e : Editor) : Editor := { e with inspected := none }

/-- Drop the drawn node and edges of a device, given the text of its identifier. -/
def erase (p : Projection) (text : String) : Projection where
  nodes := p.nodes.filter fun n => n.id != text
  edges := RenderEdge.renumber 0
    (p.edges.filter fun e => e.source != text && e.target != text)

/-- Remove a device and its links without asking. -/
def remove (e : Editor) (t : Topology) (id : Int) : Outcome Editor Bool :=
  let cut := { e with topology := some (t.cascadeDelete id) }
  match Number.integerText? id with
  | none => (cut, .error .unwritable)
  | some text =>
    let p := erase e.projection text
    let inspected := e.inspected.filter fun d => d.id != id
    ({ cut with nodes := p.nodes, edges := p.edges, inspected }, .ok true)

/-- Remove a device and its links. Where a confirmation is asked for and not given, nothing
changes. -/
def delete (e : Editor) (id : Int) (confirm : Option (Device → Bool)) : Outcome Editor Bool :=
  match e.topology, e.device? id with
  | some t, some d =>
    match confirm with
    | some ask => if ask d then e.remove t id else (e, .ok false)
    | none => e.remove t id
  | _, _ => (e, .error (absent id))

/-- The node of a device, drawn again if the device has this identifier. -/
def redrawn? (id : Int) (pair : Device × RenderNode) : Option RenderNode :=
  if pair.1.id = id then RenderNode.ofDevice? pair.1 else some pair.2

/-- Put the devices with this identifier at a new place, and draw them again, each on the node at
its own place of the list. The text of the identifier is needed only where there is such a node. -/
def place (e : Editor) (t : Topology) (id : Int) (p : Position) : Outcome Editor Unit :=
  let devices := t.devices.map fun d => if d.id = id then { d with position := p } else d
  let moved := { e with topology := some { t with devices } }
  match (devices.zip e.nodes).mapM (redrawn? id) with
  | none => (moved, .error .unwritable)
  | some nodes => ({ moved with nodes }, .ok ())

/-- Move a device. It is looked up first; then both coordinates must be numbers. -/
def move (e : Editor) (id : Int) (x y : Json) : Outcome Editor Device :=
  match e.topology, e.device? id with
  | some t, some d =>
    match Validation.position .held (.object [("x", x), ("y", y)]) with
    | .error issues => (e, .error (.invalid issues))
    | .ok p =>
      match e.place t id p with
      | (e, .ok ()) => (e, .ok { d with position := p })
      | (e, .error f) => (e, .error f)
  | _, _ => (e, .error (absent id))

end Editor
end Topograph
