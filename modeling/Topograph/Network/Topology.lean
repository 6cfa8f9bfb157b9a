import Topograph.Network.Device
import Topograph.Network.Link

/-!
# Topologies

The devices and the links that a description and its graph both stand for, in the order in which
they were emitted. Identifiers may repeat and links may dangle; a topology without either fault is
consistent. Deleting a device takes the links that touch it along.
-/
namespace Topograph

structure Topology where
  devices : List Device := []
  links : List Link := []
  deriving DecidableEq, Repr, Inhabited

namespace Topology

/-- The topology of a graph record; nodes or edges that are not a list count as none. -/
def ofGraph (graph : Json) : Topology where
  devices := ((graph.get? "nodes").getD .null).items.map Device.ofRecord
  links := ((graph.get? "edges").getD .null).items.map Link.ofRecord

/-- The graph record of a topology; none if an identifier is past the digit limit. -/
def toGraph? (t : Topology) : Option Json := do
  let nodes ← t.devices.mapM Device.toRecord?
  let edges ← t.links.mapM Link.toRecord?
  return .object [("nodes", .array nodes), ("edges", .array edges)]

def isEmpty (t : Topology) : Bool := t.devices.isEmpty && t.links.isEmpty

/-- The first device with this identifier. -/
def device? (t : Topology) (id : Int) : Option Device := t.devices.find? fun d => d.id == id

def deviceIds (t : Topology) : List Int := t.devices.map (·.id)

def linksTouching (t : Topology) (id : Int) : List Link := t.links.filter (·.touches id)

/-- Both endpoints of the link are devices of the topology. -/
def resolves (t : Topology) (l : Link) : Bool :=
  t.deviceIds.contains l.source && t.deviceIds.contains l.target

/-- The links with an endpoint that is no device. -/
def danglingLinks (t : Topology) : List Link := t.links.filter fun l => !t.resolves l

/-- Identifiers are unique and every link resolves. -/
def isConsistent (t : Topology) : Bool := decide t.deviceIds.Nodup && t.danglingLinks.isEmpty

/-- The topology without a device and the links that touch it. -/
def cascadeDelete (t : Topology) (id : Int) : Topology where
  devices := t.devices.filter fun d => d.id != id
  links := t.links.filter fun l => !l.touches id

/-- One representative of all topologies that are equal. -/
def reduce (t : Topology) : Topology := { t with devices := t.devices.map Device.reduce }

/-- The two topologies are equal in every field, where the zeros are one and a NaN equals
itself. -/
def same (t u : Topology) : Bool := t.reduce = u.reduce

end Topology
end Topograph
