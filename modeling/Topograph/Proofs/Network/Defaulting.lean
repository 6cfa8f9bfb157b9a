import Topograph.Proofs.Json.Paths
import Topograph.Proofs.Network.Building

/-!
# Defaults of single fields

A value of the kind that a field of a device asks for is carried over from the record as it is, and
each field depends on its own path in the record alone. Only the coordinates label also depends on
the position, while the record has no text for it.
-/
namespace Topograph
open Number

namespace Interface

theorem name_ofRecord (record : Option Json) :
    (ofRecord record).name = Json.textOr "N/A" (record.bind (·.get? "name")) := by
  rcases record with _ | v
  · rfl
  · cases v <;> rfl

theorem ip_ofRecord (record : Option Json) :
    (ofRecord record).ip = Json.textOr "N/A" (record.bind (·.get? "ip")) := by
  rcases record with _ | v
  · rfl
  · cases v <;> rfl

theorem bandwidth_ofRecord (record : Option Json) : (ofRecord record).bandwidth =
    if (record.bind Json.object?).isSome then
      Quantity.ofJson ((record.bind (·.get? "bandwidth")).orElse fun _ =>
        record.bind (·.get? "bandwidth_mbps"))
    else .unset := by
  rcases record with _ | v
  · rfl
  · cases v <;> rfl

end Interface

/-- An integer, as such. -/
def Json.int? : Json → Option Int
  | .number (.int n) => some n
  | _ => none

theorem Json.exists_object_of_get? {key : RawText} {v w : Json} (h : v.get? key = some w) :
    ∃ fields, v = .object fields := by
  cases v with
  | object fields => exact ⟨fields, rfl⟩
  | _ => simp [get?] at h

/-- The record has an interface, well or badly described. -/
def Json.describesInterface (record : Json) : Bool :=
  ((record.at? ["data", "interface"]).bind Json.object?).isSome

namespace Device

/-! ## Slots -/

/-- The values that a device is made of. -/
inductive Slot where
  | id
  | name
  | imageRef
  | deviceType
  | coordinates
  | power
  | interfaceName
  | interfaceIp
  | bandwidth
  | x
  | y
  deriving DecidableEq, Repr

/-- The place of the value in a record. -/
def Slot.path : Slot → List RawText
  | .id => ["id"]
  | .name => ["data", "label"]
  | .imageRef => ["data", "src"]
  | .deviceType => ["data", "type"]
  | .coordinates => ["data", "coordinates"]
  | .power => ["data", "power_on"]
  | .interfaceName => ["data", "interface", "name"]
  | .interfaceIp => ["data", "interface", "ip"]
  | .bandwidth => ["data", "interface", "bandwidth"]
  | .x => ["position", "x"]
  | .y => ["position", "y"]

/-- The place is inside the interface. -/
def Slot.isInInterface : Slot → Bool
  | .interfaceName | .interfaceIp | .bandwidth => true
  | _ => false

/-- The value as the device has it. -/
def value (d : Device) : Slot → Json
  | .id => .int d.id
  | .name => .string d.name
  | .imageRef => .string d.imageRef
  | .deviceType => .string d.deviceType
  | .coordinates => .string d.coordinatesLabel
  | .power => .bool d.poweredOn
  | .interfaceName => .string d.interface.name
  | .interfaceIp => .string d.interface.ip
  | .bandwidth => .number d.interface.bandwidth.number
  | .x => .number d.position.x.number
  | .y => .number d.position.y.number

/-- The slots are all there is to a device. -/
theorem eq_of_value_eq {d e : Device} (h : ∀ slot, d.value slot = e.value slot) : d = e := by
  have number {p q : Quantity} (h : Json.number p.number = .number q.number) : p = q := by
    cases p <;> cases q <;> simp_all [Quantity.number]
  obtain ⟨_, _, _, ⟨_, _⟩, _, _, _, ⟨_, _, _⟩⟩ := d
  obtain ⟨_, _, _, ⟨_, _⟩, _, _, _, ⟨_, _, _⟩⟩ := e
  cases h .id
  cases h .name
  cases h .imageRef
  cases h .deviceType
  cases h .coordinates
  cases h .power
  cases h .interfaceName
  cases h .interfaceIp
  cases number (h .x)
  cases number (h .y)
  cases number (h .bandwidth)
  rfl

/-- A raw value of the kind that the slot asks for, as the device has it: integers, texts and truth
values as they are, and numbers as the binary values that they convert to. -/
def Slot.carried? : Slot → Json → Option Json
  | .id, v => v.int?.map .int
  | .power, v => v.bool?.map .bool
  | .bandwidth, v | .x, v | .y, v => v.real?.map fun x => .number (.float x)
  | _, v => v.string?.map .string

/-- The device with each value read at its own place. -/
theorem ofRecord_eq (record : Json) : ofRecord record =
    let position : Position :=
      ⟨Quantity.ofJson (record.at? Slot.x.path), Quantity.ofJson (record.at? Slot.y.path)⟩
    { id := Identifier.read ((record.at? Slot.id.path).getD .null) 0
      name := Json.textOr "Unknown" (record.at? Slot.name.path)
      imageRef := Json.textOr "" (record.at? Slot.imageRef.path)
      position
      deviceType := Json.textOr "unknown" (record.at? Slot.deviceType.path)
      coordinatesLabel :=
        ((record.at? Slot.coordinates.path).bind Json.string?).getD position.label
      poweredOn := ((record.at? Slot.power.path).bind Json.bool?).getD false
      interface := Interface.ofRecord (record.at? ["data", "interface"]) } := by
  simp only [ofRecord, Position.ofRecord, Slot.path, Json.at?_pair, Json.at?_singleton,
    Json.get?_getD_null]

/-! ## Values that are carried over -/

section
variable {v w : Json}

theorem eq_of_int? (h : v.int?.map Json.int = some w) :
    Json.int (Identifier.read v 0) = w := by
  obtain ⟨n, int, rfl⟩ := Option.map_eq_some_iff.mp h
  cases v with
  | number m => cases m <;> simp_all [Json.int?, Identifier.read, Identifier.ofJson?]
  | _ => simp [Json.int?] at int

theorem eq_of_string? (h : v.string?.map Json.string = some w) (default : RawText) :
    Json.string (Json.textOr default (some v)) = w := by
  cases v <;> simp_all [Json.string?, Json.textOr]

theorem eq_of_real? (h : (v.real?.map fun x => Json.number (.float x)) = some w) :
    Json.number (Quantity.ofJson (some v)).number = w := by
  obtain ⟨x, real, rfl⟩ := Option.map_eq_some_iff.mp h
  rw [Quantity.ofJson, Option.bind_some, real]
  rfl

/-- A value of the kind that the slot asks for is carried over. -/
theorem value_ofRecord {record : Json} {slot : Slot} (there : record.at? slot.path = some v)
    (carried : slot.carried? v = some w) : (ofRecord record).value slot = w := by
  rw [ofRecord_eq]
  cases slot
  case id => simpa only [value, there, Option.getD_some] using eq_of_int? carried
  case x | y => simpa only [value, there] using eq_of_real? carried
  case name | imageRef | deviceType => simpa only [value, there] using eq_of_string? carried _
  case coordinates =>
    obtain ⟨s, text, rfl⟩ := Option.map_eq_some_iff.mp carried
    simp only [value, there, Option.bind_some, text, Option.getD_some]
  case power =>
    obtain ⟨b, truth, rfl⟩ := Option.map_eq_some_iff.mp carried
    simp only [value, there, Option.bind_some, truth, Option.getD_some]
  all_goals
    obtain ⟨interface, described, inside⟩ :
        ∃ u, record.at? ["data", "interface"] = some u ∧ u.get? _ = some v :=
      Option.bind_eq_some_iff.mp ((Json.at?_concat _ _ _).symm.trans there)
    obtain ⟨fields, rfl⟩ := Json.exists_object_of_get? inside
    simp only [value, described, Interface.name_ofRecord, Interface.ip_ofRecord,
      Interface.bandwidth_ofRecord, Option.bind_some, inside]
  case interfaceName | interfaceIp => exact eq_of_string? carried _
  case bandwidth => exact eq_of_real? carried

end

/-! ## Values that depend on their own place -/

/-- What is at the place of one slot counts for another one: for itself, and for the coordinates
label also the position, as long as there is no text for it. -/
def Feeds (record : Json) (source target : Slot) : Prop :=
  source = target ∨ (target = .coordinates ∧ (source = .x ∨ source = .y) ∧
    (record.at? Slot.coordinates.path).bind Json.string? = none)

theorem Slot.not_prefix {source target : Slot} (h : source ≠ target) :
    ¬ source.path <+: target.path := by
  cases source <;> cases target <;> first | exact absurd rfl h | simp [path]

section
variable {r r' : Json} {source target : Slot} (h : Json.AgreesOff source.path r r')
include h

theorem at?_eq_of_agreesOff (apart : source ≠ target) : r.at? target.path = r'.at? target.path :=
  h.at?_eq (Slot.not_prefix apart) (Slot.not_prefix apart.symm)

theorem describesInterface_eq_of_agreesOff (outside : source.isInInterface = false) :
    r.describesInterface = r'.describesInterface := by
  rw [Json.describesInterface, Json.describesInterface, h.at?_eq]
  all_goals cases source <;> simp_all [Slot.path, Slot.isInInterface]

/-- Only an interface that is described has a bandwidth, and that has a place of its own and one
that no slot has. -/
theorem bandwidth_eq_of_agreesOff (apart : source ≠ .bandwidth)
    (described : r.describesInterface = r'.describesInterface) :
    (ofRecord r).interface.bandwidth = (ofRecord r').interface.bandwidth := by
  have own := at?_eq_of_agreesOff h apart
  have other : r.at? ["data", "interface", "bandwidth_mbps"] =
      r'.at? ["data", "interface", "bandwidth_mbps"] := by
    apply h.at?_eq <;> cases source <;> simp [Slot.path]
  simp only [Json.describesInterface] at described
  simp only [Slot.path] at own
  simp only [ofRecord_eq, Interface.bandwidth_ofRecord, ← Json.at?_concat, List.cons_append,
    List.nil_append, described, own, other]

end

theorem value_ofRecord_congr {r r' : Json} {slot : Slot} (coordinates : slot ≠ .coordinates)
    (bandwidth : slot ≠ .bandwidth) (h : r.at? slot.path = r'.at? slot.path) :
    (ofRecord r).value slot = (ofRecord r').value slot := by
  cases slot
  case coordinates => exact absurd rfl coordinates
  case bandwidth => exact absurd rfl bandwidth
  all_goals
    simp only [Slot.path] at h
    simp only [value, ofRecord_eq, Interface.name_ofRecord, Interface.ip_ofRecord,
      ← Json.at?_concat, List.cons_append, List.nil_append, Slot.path, h]

/-- What is not fed is what it was. -/
theorem value_eq_of_agreesOff {r r' : Json} {source target : Slot}
    (h : Json.AgreesOff source.path r r')
    (described : source.isInInterface = true →
      r.describesInterface = true ∧ r'.describesInterface = true)
    (unfed : ¬ Feeds r source target) :
    (ofRecord r).value target = (ofRecord r').value target := by
  obtain ⟨apart, label⟩ := not_or.mp unfed
  have same : ∀ slot, source ≠ slot → r.at? slot.path = r'.at? slot.path :=
    fun slot => at?_eq_of_agreesOff h
  -- Only the label and the bandwidth are made of more than the value at one path.
  by_cases coordinates : target = .coordinates
  · subst coordinates
    simp only [value, ofRecord_eq, ← same _ apart]
    cases text : (r.at? Slot.coordinates.path).bind Json.string? with
    | some s => rfl
    | none =>
      have elsewhere : source ≠ .x ∧ source ≠ .y := by simpa [text] using label
      rw [same .x elsewhere.1, same .y elsewhere.2]
  by_cases bandwidth : target = .bandwidth
  · subst bandwidth
    have described : r.describesInterface = r'.describesInterface := by
      cases inside : source.isInInterface with
      | true => rw [(described inside).1, (described inside).2]
      | false => exact describesInterface_eq_of_agreesOff h inside
    rw [value, value, bandwidth_eq_of_agreesOff h apart described]
  · exact value_ofRecord_congr coordinates bandwidth (same _ apart)

/-- Of every record there is a device. It carries over each value of the kind that its slot asks
for, and a change at one place of the record changes nothing that this place does not feed. -/
theorem builds_slot_by_slot (record : Json) :
    build record = .ok (ofRecord record) ∧
    (∀ slot v w, record.at? slot.path = some v → slot.carried? v = some w →
      (ofRecord record).value slot = w) ∧
    ∀ record' source target, Json.AgreesOff source.path record record' →
      (source.isInInterface = true →
        record.describesInterface = true ∧ record'.describesInterface = true) →
      ¬ Feeds record source target →
      (ofRecord record).value target = (ofRecord record').value target :=
  ⟨build_eq record, fun _ _ _ there carried => value_ofRecord there carried,
    fun _ _ _ agrees described unfed => value_eq_of_agreesOff agrees described unfed⟩

/-- The record of a node with some value for its first coordinate. -/
def sketch (x : Json) : Json :=
  .object [("id", .string "7-a"), ("data", .object [("label", .string "R"), ("power_on", .int 1)]),
    ("position", .object [("x", x), ("y", .int 2)])]

theorem agreesOff_sketch (x y : Json) : Json.AgreesOff Slot.x.path (sketch x) (sketch y) := by
  refine ⟨fun other apart => ?_, fun other apart => ?_, trivial⟩
  · simp [sketch, Json.get?, List.lookup_cons, beq_eq_false_iff_ne.mpr apart]
  · simp [sketch, Json.get?, List.lookup_cons, beq_eq_false_iff_ne.mpr apart]

/-- The first coordinate of a node is put right. The other one stays, as does the name, and the
label changes since it is that of the position. -/
theorem builds_slot_by_slot_sketch :
    let misplaced := sketch (.int (Nat.pow 10 400))
    let placed := sketch (.int 5)
    build misplaced = .ok (ofRecord misplaced) ∧
    misplaced.at? Slot.name.path = some (.string "R") ∧
    (ofRecord misplaced).value .name = .string "R" ∧
    Json.AgreesOff Slot.x.path misplaced placed ∧ ¬ Feeds misplaced .x .y ∧
    (ofRecord misplaced).value .y = (ofRecord placed).value .y ∧
    (ofRecord misplaced).coordinatesLabel = "0 2" ∧ (ofRecord placed).coordinatesLabel = "5 2" := by
  intro misplaced placed
  obtain ⟨built, carries, keeps⟩ := builds_slot_by_slot misplaced
  have named : misplaced.at? Slot.name.path = some (.string "R") := by decide +kernel
  have agrees := agreesOff_sketch (.int (Nat.pow 10 400)) (.int 5)
  have unfed : ¬ Feeds misplaced .x .y := by simp [Feeds]
  exact ⟨built, named, carries .name _ _ named rfl, agrees, unfed,
    keeps placed .x .y agrees (by simp [Slot.isInInterface]) unfed, by decide +kernel,
    by decide +kernel⟩

end Device
end Topograph
