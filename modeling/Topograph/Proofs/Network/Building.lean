import Topograph.Network.Building
import Topograph.Proofs.Json.Fields
import Topograph.Proofs.Network.ReadTopology
import Topograph.Proofs.Validation.Checked

/-!
# Building never fails

None of the steps in which a device is built from a record ever fails, since the models are handed
nothing but what they ask for and a binary value is too small to reach the digit limit.
-/
namespace Topograph
open Number

/-! ## Labels within the digit limit -/

theorem Number.Binary64.isWritable_of_whole? {x : Binary64} {n : Int} (h : x.whole? = some n) :
    IsWritable n := by
  cases x with
  | nan => exact absurd h (by simp [whole?])
  | infinite negative => exact absurd h (by simp [whole?])
  | finite negative m =>
    refine Identifier.isWritable_of_truncate? (x := .finite negative m) ?_
    rw [whole?] at h
    split at h
    · exact h
    · exact absurd h (by simp)

/-- A binary value is too small to reach the digit limit. -/
theorem Quantity.label?_eq (q : Quantity) : q.label? = some q.label := by
  cases q with
  | unset => decide +kernel
  | given x =>
    rw [label?, label, Binary64.label]
    cases whole : x.whole? with
    | none => rfl
    | some n => exact integerText?_of_isWritable (Binary64.isWritable_of_whole? whole)

theorem Position.label?_eq (p : Position) : p.label? = some p.label := by
  rw [label?, Quantity.label?_eq, Quantity.label?_eq]
  rfl

/-! ## Steps -/

namespace Device
open Validation (Checked)

theorem buildPosition_eq (record : Option Json) :
    buildPosition record = .ok (Position.ofRecord record) := by
  simp [buildPosition, Obstacle.ofChecked, Validation.position, Checked.record, Checked.optional,
    Json.get?, List.lookup_cons, coerced, Validation.number, Except.mapError, Position.ofRecord,
    Quantity.ofJson]

theorem buildInterface_eq (record : Option Json) :
    buildInterface record = .ok (Interface.ofRecord record) := by
  rcases record with _ | v
  · rfl
  · cases v with
    | object fields =>
      simp [buildInterface, Obstacle.ofChecked, Validation.interface, Checked.record,
        Checked.optional, Json.get?, List.lookup_cons, coerced, Validation.number, Validation.text,
        Except.mapError, Interface.ofRecord, Quantity.ofJson]
    | _ => rfl

theorem buildLabel_eq (coordinates : Option Json) (position : Position) :
    buildLabel coordinates position =
      .ok ((coordinates.bind Json.string?).getD position.label) := by
  rw [buildLabel, Position.label?_eq]
  cases coordinates.bind Json.string? <;> rfl

/-- The model of a device accepts fields of the kinds that it asks for. -/
theorem deviceHolding_of_fields (p : Position) (i : Interface) (id : Int)
    (name imageRef deviceType label : RawText) (on : Bool) :
    Validation.deviceHolding ⟨some p, some i⟩ (.object [("id", .int id), ("name", .string name),
      ("image_ref", .string imageRef), ("device_type", .string deviceType),
      ("coordinates_label", .string label), ("powered_on", .bool on)]) =
      .ok ⟨id, name, imageRef, p, deviceType, label, on, i⟩ := by
  simp [Validation.deviceHolding, Checked.record, Checked.optional, Checked.required, Json.get?,
    List.lookup_cons, Validation.heldOr, Validation.coordinatesLabel, Validation.int, Json.int,
    Validation.intOfNumber, Validation.text, Validation.truth]

/-- Building never fails. -/
theorem build_eq (record : Json) : build record = .ok (ofRecord record) := by
  rw [build, buildPosition_eq, buildInterface_eq]
  simp only [bind, Except.bind, buildLabel_eq, deviceHolding_of_fields]
  rfl

end Device
end Topograph
