import Topograph.Network.Device
import Topograph.Validation.Network

/-!
# Building devices step by step

A device is built from any record whatsoever, in steps that could fail: the models of the position
and of the interface are checked, a label is written, and the model of the device is checked.
-/
namespace Topograph.Device
open Validation (Issue)

/-- What can stop a device from being built. -/
inductive Obstacle where
  | refused (issues : List Issue)
  | overlong

def Obstacle.ofChecked {α : Type} (checked : Validation.Checked α) : Except Obstacle α :=
  checked.mapError .refused

/-- A value as the binary number that goes into a model, zero if it is none. -/
def coerced (value : Option Json) : Json := .number (.float ((value.bind Json.real?).getD .zero))

/-- The position of a record, checked by its model. -/
def buildPosition (record : Option Json) : Except Obstacle Position :=
  Obstacle.ofChecked (Validation.position .held (.object [
    ("x", coerced (record.bind (·.get? "x"))), ("y", coerced (record.bind (·.get? "y")))]))

/-- The interface of a record, checked by its model; what is not a record is the placeholder. -/
def buildInterface : Option Json → Except Obstacle Interface
  | some (.object fields) =>
    let record := Json.object fields
    Obstacle.ofChecked (Validation.interface .held (.object [
      ("name", .string (Json.textOr "N/A" (record.get? "name"))),
      ("ip", .string (Json.textOr "N/A" (record.get? "ip"))),
      ("bandwidth_mbps", coerced ((record.get? "bandwidth").orElse fun _ =>
        record.get? "bandwidth_mbps"))]))
  | _ => .ok .placeholder

/-- The text for the coordinates, or else the label of the position. -/
def buildLabel (coordinates : Option Json) (position : Position) : Except Obstacle RawText :=
  match coordinates.bind Json.string? with
  | some s => .ok s
  | none => match position.label? with
    | some s => .ok (.ofString s)
    | none => .error .overlong

/-- The device of a graph node record, with all that is checked on the way. -/
def build (record : Json) : Except Obstacle Device := do
  let data := (record.get? "data").getD .null
  let position ← buildPosition (record.get? "position")
  let interface ← buildInterface (data.get? "interface")
  let label ← buildLabel (data.get? "coordinates") position
  Obstacle.ofChecked (Validation.deviceHolding ⟨some position, some interface⟩ (.object [
    ("id", .int (Identifier.read ((record.get? "id").getD .null) 0)),
    ("name", .string (Json.textOr "Unknown" (data.get? "label"))),
    ("image_ref", .string (Json.textOr "" (data.get? "src"))),
    ("device_type", .string (Json.textOr "unknown" (data.get? "type"))),
    ("coordinates_label", .string label),
    ("powered_on", .bool (((data.get? "power_on").bind Json.bool?).getD false))]))

end Topograph.Device
