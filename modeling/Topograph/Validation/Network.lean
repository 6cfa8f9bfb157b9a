import Topograph.Network.Topology
import Topograph.Validation.Scalar

/-!
# Strict network models

Positions, interfaces, devices, links and topologies read by the strict rules. Fields with a
default may be absent but not malformed. A device may be handed a position and an interface that
are models already; they are taken as they are. A device without a coordinates label gets one from
its position before the position itself is checked: the label of a position that is held, and of a
document the two coordinates, where one that is not a number counts as zero. That step makes held
values of everything in the device, whatever they came from.
-/
namespace Topograph.Validation
open Checked

def position (o : Origin) : Json → Checked Position :=
  record .modelType fun v =>
    (join (.ok Position.mk) (optional v "x" (number o) .unset)).join
      (optional v "y" (number o) .unset)

def interface (o : Origin) : Json → Checked Interface :=
  record .modelType fun v =>
    ((join (.ok Interface.mk) (optional v "name" text "N/A")).join
      (optional v "ip" text "N/A")).join (optional v "bandwidth_mbps" (number o) .unset)

def link : Json → Checked Link :=
  record .modelType fun v =>
    (join (.ok Link.mk) (required v "source" int)).join (required v "target" int)

/-- The parts of a device that are models already. Where one is held, the document has no say. -/
structure Held where
  position : Option Position := none
  interface : Option Interface := none
  deriving DecidableEq, Repr

/-- The label that a device gets from its position, held or raw. -/
def defaultLabel (held : Option Position) (v : Json) : String :=
  match held with
  | some p => p.label
  | none => match v.get? "position" with
    | some (.object fields) => (Position.ofRecord (some (.object fields))).label
    | _ => ({} : Position).label

/-- The coordinates label as it stands, or the one from the position if it is absent or null. -/
def coordinatesLabel (held : Option Position) (v : Json) : Checked RawText :=
  match v.get? "coordinates_label" with
  | none | some .null => .ok (.ofString (defaultLabel held v))
  | some label => below (.field "coordinates_label") (text label)

/-- A part that is held, or else the one of the document. -/
def heldOr {α : Type} (held : Option α) (checked : Checked α) : Checked α :=
  match held with
  | some part => .ok part
  | none => checked

/-- A device of which some parts may be held. -/
def deviceHolding (held : Held) : Json → Checked Device :=
  record .modelType fun v =>
    (((((((join (.ok Device.mk) (required v "id" int)).join
      (optional v "name" text "Unknown")).join
      (optional v "image_ref" text "")).join
      (heldOr held.position (optional v "position" (position .held) {}))).join
      (optional v "device_type" text "unknown")).join
      (coordinatesLabel held.position v)).join
      (optional v "powered_on" truth false)).join
      (heldOr held.interface (optional v "interface" (interface .held) {}))

/-- A device that is a document throughout. -/
def device : Json → Checked Device := deviceHolding {}

/-- A topology of whose devices some parts may be held. -/
def topologyHolding (held : Nat → Held) : Json → Checked Topology :=
  record .modelType fun v =>
    (join (.ok Topology.mk)
      (optional v "devices" (listAt fun i => deviceHolding (held i)) [])).join
      (optional v "links" (list link) [])

/-- A topology that is a document throughout. -/
def topology : Json → Checked Topology := topologyHolding fun _ => {}

end Topograph.Validation
