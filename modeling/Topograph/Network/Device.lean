import Topograph.Network.Identifier
import Topograph.Network.Quantity

/-!
# Devices

A device has an identifier, descriptive texts, a place on the canvas and an interface. Devices are
built from untrusted records: each field that is absent or malformed gets its default on its own,
so building never fails. The label of a device without coordinates of its own is its position.
-/
namespace Topograph

/-- A place on the canvas. -/
structure Position where
  x : Quantity := .unset
  y : Quantity := .unset
  deriving DecidableEq, Repr, Inhabited

/-- The configuration of a device's interface. -/
structure Interface where
  name : RawText := "N/A"
  ip : RawText := "N/A"
  bandwidth : Quantity := .unset
  deriving DecidableEq, Repr, Inhabited

/-- One network device. -/
structure Device where
  id : Int
  name : RawText := "Unknown"
  imageRef : RawText := ""
  position : Position := {}
  deviceType : RawText := "unknown"
  coordinatesLabel : RawText
  poweredOn : Bool := false
  interface : Interface := {}
  deriving DecidableEq, Repr, Inhabited

/-- A text, or a number as its label, or the default. -/
def Json.textOr (default : RawText) : Option Json → RawText
  | some (.string s) => s
  | some (.number n) => (n.label?.map RawText.ofString).getD default
  | _ => default

namespace Position

/-- The two coordinates, as they show on a label. -/
def label (p : Position) : String := p.x.label ++ " " ++ p.y.label

/-- Both coordinates on a label, if both have a text. -/
def label? (p : Position) : Option String := do
  return (← p.x.label?) ++ " " ++ (← p.y.label?)

/-- Both coordinates of a record are taken as given. -/
def ofRecord (record : Option Json) : Position where
  x := Quantity.ofJson (record.bind (·.get? "x"))
  y := Quantity.ofJson (record.bind (·.get? "y"))

def toRecord (p : Position) : Json :=
  .object [("x", .number p.x.number), ("y", .number p.y.number)]

/-- One representative of all positions that are equal. -/
def reduce (p : Position) : Position := ⟨p.x.reduce, p.y.reduce⟩

end Position

namespace Interface

/-- The interface of a device that has none configured. -/
def placeholder : Interface := {}

/-- The interface of a record; what is not a record is the placeholder. The bandwidth has two
spellings, and the first one counts if both are there. -/
def ofRecord : Option Json → Interface
  | some (.object fields) =>
    let record := Json.object fields
    { name := Json.textOr "N/A" (record.get? "name")
      ip := Json.textOr "N/A" (record.get? "ip")
      bandwidth := Quantity.ofJson ((record.get? "bandwidth").orElse fun _ =>
        record.get? "bandwidth_mbps") }
  | _ => placeholder

def toRecord (i : Interface) : Json :=
  .object [("name", .string i.name), ("ip", .string i.ip),
    ("bandwidth", .number i.bandwidth.number)]

/-- One representative of all interfaces that are equal. -/
def reduce (i : Interface) : Interface := { i with bandwidth := i.bandwidth.reduce }

/-- The interface equals the placeholder. -/
def isPlaceholder (i : Interface) : Bool := i.reduce = placeholder

end Interface

namespace Device

/-- The device of a graph node record. -/
def ofRecord (record : Json) : Device :=
  let data := (record.get? "data").getD .null
  let position := Position.ofRecord (record.get? "position")
  { id := Identifier.read ((record.get? "id").getD .null) 0
    name := Json.textOr "Unknown" (data.get? "label")
    imageRef := Json.textOr "" (data.get? "src")
    position
    deviceType := Json.textOr "unknown" (data.get? "type")
    coordinatesLabel := ((data.get? "coordinates").bind Json.string?).getD position.label
    poweredOn := ((data.get? "power_on").bind Json.bool?).getD false
    interface := Interface.ofRecord (data.get? "interface") }

/-- The fields of a node record apart from its identifier. -/
def recordData (d : Device) : Json :=
  .object [
    ("label", .string d.name), ("src", .string d.imageRef), ("type", .string d.deviceType),
    ("coordinates", .string d.coordinatesLabel), ("power_on", .bool d.poweredOn),
    ("interface", d.interface.toRecord)]

/-- The graph node record of a device; an identifier past the digit limit has none. -/
def toRecord? (d : Device) : Option Json := do
  let id ← Number.integerText? d.id
  return .object [
    ("id", .string id), ("data", d.recordData), ("position", d.position.toRecord)]

/-- One representative of all devices that are equal. -/
def reduce (d : Device) : Device :=
  { d with position := d.position.reduce, interface := d.interface.reduce }

end Device
end Topograph
