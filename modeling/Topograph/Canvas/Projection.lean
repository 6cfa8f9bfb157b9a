import Topograph.Network.Topology

/-!
# The projection

What the canvas draws: one node for each device and one edge for each link, in their order. A node
carries every field of its device under the field's own name, and the two texts that are drawn once
more under theirs; an edge is named by its place in the list. Identifiers are texts here, so a
topology with an identifier past the digit limit has no projection.
-/
namespace Topograph

/-- All fields of a device as a document. -/
def Device.toJson (d : Device) : Json :=
  .object [
    ("id", .int d.id), ("name", .string d.name), ("image_ref", .string d.imageRef),
    ("position", d.position.toRecord), ("device_type", .string d.deviceType),
    ("coordinates_label", .string d.coordinatesLabel), ("powered_on", .bool d.poweredOn),
    ("interface", .object [
      ("name", .string d.interface.name), ("ip", .string d.interface.ip),
      ("bandwidth_mbps", .number d.interface.bandwidth.number)])]

/-- The drawn form of a device. -/
structure RenderNode where
  id : String
  kind : String := "custom"
  position : Position
  data : Json
  deriving DecidableEq, Repr, Inhabited

/-- The drawn form of a link. -/
structure RenderEdge where
  id : String
  source : String
  target : String
  kind : String := "straight"
  animated : Bool := true
  deriving DecidableEq, Repr, Inhabited

namespace RenderNode

/-- The node of a device whose identifier has this text. -/
def ofDevice (id : String) (d : Device) : RenderNode where
  id
  position := d.position
  data := Json.ofArrivals
    (("label", .string d.name) :: ("src", .string d.imageRef) :: d.toJson.fields)

/-- The node of a device, if its identifier has a text. -/
def ofDevice? (d : Device) : Option RenderNode := (Number.integerText? d.id).map (ofDevice · d)

end RenderNode

namespace RenderEdge

/-- The name of the edge at a place of the list. -/
def name (index : Nat) : String := "e" ++ Number.integerText index

/-- The edge of a link at a place of the list, if its endpoints have texts. -/
def ofLink? (index : Nat) (l : Link) : Option RenderEdge := do
  let source ← Number.integerText? l.source
  let target ← Number.integerText? l.target
  return { id := name index, source, target }

/-- The edges from a place of the list on, named by their places. -/
def renumber (index : Nat) : List RenderEdge → List RenderEdge
  | [] => []
  | e :: rest => { e with id := name index } :: renumber (index + 1) rest

/-- The edges of links from a place of the list on. -/
def ofLinks? (index : Nat) : List Link → Option (List RenderEdge)
  | [] => some []
  | l :: rest => do
    let e ← ofLink? index l
    let es ← ofLinks? (index + 1) rest
    return e :: es

end RenderEdge

/-- Everything that the canvas draws. -/
structure Projection where
  nodes : List RenderNode := []
  edges : List RenderEdge := []
  deriving DecidableEq, Repr, Inhabited

/-- The projection of a topology, if all its identifiers have texts. -/
def Topology.project? (t : Topology) : Option Projection := do
  let nodes ← t.devices.mapM RenderNode.ofDevice?
  let edges ← RenderEdge.ofLinks? 0 t.links
  return { nodes, edges }

end Topograph
