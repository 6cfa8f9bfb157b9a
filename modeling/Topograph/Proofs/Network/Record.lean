import Topograph.Proofs.Json.Fields
import Topograph.Proofs.Network.IdentifierText
import Topograph.Proofs.Network.Writable

/-!
# Graph records

A writable topology has a graph record. Once the record has settled, as it does when it is written
and read again, it is the record of the settled topology: a coordinate or a bandwidth that is not
finite is zero, and everything else is as it was.
-/
namespace Topograph
open Number

/-! ## Settled topologies -/

/-- The quantity after it has been written and read. -/
def Quantity.settled : Quantity → Quantity
  | .unset => .given .zero
  | .given x => .given (if x.isFinite then x else .zero)

def Position.settled (p : Position) : Position := ⟨p.x.settled, p.y.settled⟩

def Interface.settled (i : Interface) : Interface := { i with bandwidth := i.bandwidth.settled }

def Device.settled (d : Device) : Device :=
  { d with position := d.position.settled, interface := d.interface.settled }

/-- The topology with each number that is not finite replaced by zero. -/
def Topology.settled (t : Topology) : Topology :=
  { t with devices := t.devices.map Device.settled }

theorem Quantity.reduce_settled {q : Quantity} :
    q.settled.reduce = q.reduce ↔ q.isFinite = true := by
  cases q with
  | unset => exact ⟨fun _ => rfl, fun _ => rfl⟩
  | given x =>
    cases x with
    | finite negative m => exact ⟨fun _ => rfl, fun _ => rfl⟩
    | nan => exact iff_of_false (by rintro ⟨⟩) (by rintro ⟨⟩)
    | infinite negative => exact iff_of_false (by rintro ⟨⟩) (by rintro ⟨⟩)

/-- Both coordinates and the bandwidth are finite. -/
def Device.isFinite (d : Device) : Bool :=
  d.position.x.isFinite && d.position.y.isFinite && d.interface.bandwidth.isFinite

def Topology.isFinite (t : Topology) : Bool := t.devices.all Device.isFinite

theorem Device.reduce_settled {d : Device} :
    d.settled.reduce = d.reduce ↔ d.isFinite = true := by
  rw [isFinite, Bool.and_eq_true, Bool.and_eq_true, ← Quantity.reduce_settled,
    ← Quantity.reduce_settled, ← Quantity.reduce_settled]
  simp only [Device.reduce, Device.settled, Position.reduce, Position.settled, Interface.reduce,
    Interface.settled, Device.mk.injEq, Position.mk.injEq, Interface.mk.injEq, true_and]

/-- Only numbers that are not finite are lost. -/
theorem Topology.same_settled_iff {t : Topology} :
    t.settled.same t = true ↔ t.isFinite = true := by
  rw [Topology.same, decide_eq_true_eq, Topology.reduce, Topology.reduce, Topology.settled,
    Topology.mk.injEq, List.map_map, List.map_inj_left, isFinite, List.all_eq_true]
  simp only [Function.comp_apply, Device.reduce_settled, and_true]

theorem Topology.same_settled {t : Topology} (h : t.isFinite = true) :
    t.settled.same t = true := same_settled_iff.mpr h

/-! ## Reading the fields of a record -/

theorem Position.ofRecord_object (x y : Json) :
    ofRecord (some (.object [("x", x), ("y", y)])) =
      ⟨Quantity.ofJson (some x), Quantity.ofJson (some y)⟩ := by
  simp [ofRecord, Json.get?, List.lookup_cons]

theorem Interface.ofRecord_object (name ip : RawText) (bandwidth : Json) :
    ofRecord (some (.object [("name", .string name), ("ip", .string ip),
      ("bandwidth", bandwidth)])) = ⟨name, ip, Quantity.ofJson (some bandwidth)⟩ := by
  simp [ofRecord, Json.get?, List.lookup_cons, Json.textOr]

/-- The document of a device's fields apart from its identifier and its position. -/
def Device.dataWith (d : Device) (interface : Json) : Json :=
  .object [
    ("label", .string d.name), ("src", .string d.imageRef), ("type", .string d.deviceType),
    ("coordinates", .string d.coordinatesLabel), ("power_on", .bool d.poweredOn),
    ("interface", interface)]

/-- A device is read back whatever became of the records of its position and its interface. -/
theorem Device.ofRecord_object {d : Device} (h : IsWritable d.id) (position interface : Json) :
    ofRecord (.object [("id", .string (integerText d.id)), ("data", d.dataWith interface),
      ("position", position)]) =
      { d with position := Position.ofRecord (some position)
               interface := Interface.ofRecord (some interface) } := by
  simp [ofRecord, dataWith, Json.get?, List.lookup_cons, Json.textOr, Json.string?, Json.bool?,
    Identifier.read, Identifier.ofJson?, Identifier.ofChars?_integerText h]

theorem Link.ofRecord_object {l : Link} (h : l.IsWritable) :
    ofRecord (.object [("source", .string (integerText l.source)),
      ("target", .string (integerText l.target))]) = l := by
  simp [ofRecord, Json.get?, List.lookup_cons, Identifier.read, Identifier.ofJson?,
    Identifier.ofChars?_integerText h.1, Identifier.ofChars?_integerText h.2]

/-! ## The records of devices and links -/

theorem Quantity.ofJson_ofNumber (q : Quantity) :
    Quantity.ofJson (some (Json.ofNumber q.number)) = q.settled := by
  cases q with
  | unset => decide +kernel
  | given x => cases x <;> rfl

theorem Position.settled_toRecord (p : Position) : p.toRecord.settled = .object
    [("x", Json.ofNumber p.x.number), ("y", Json.ofNumber p.y.number)] := by
  rw [toRecord, Json.settled_object (by simp) (by simp)]
  rfl

theorem Position.ofRecord_settled (p : Position) :
    Position.ofRecord (some p.toRecord.settled) = p.settled := by
  rw [settled_toRecord, ofRecord_object, Quantity.ofJson_ofNumber, Quantity.ofJson_ofNumber]
  rfl

theorem Interface.settled_toRecord {i : Interface} (hname : i.name.isOrdinary = true)
    (hip : i.ip.isOrdinary = true) : i.toRecord.settled = .object
      [("name", .string i.name), ("ip", .string i.ip),
        ("bandwidth", Json.ofNumber i.bandwidth.number)] := by
  rw [toRecord, Json.settled_object (by simp) (by simp)]
  simp [Json.settled, Json.shownText_of_isOrdinary, hname, hip]

theorem Interface.ofRecord_settled {i : Interface} (hname : i.name.isOrdinary = true)
    (hip : i.ip.isOrdinary = true) :
    Interface.ofRecord (some i.toRecord.settled) = i.settled := by
  rw [settled_toRecord hname hip, ofRecord_object, Quantity.ofJson_ofNumber]
  rfl

namespace Device

/-- No text of the device has a half that stands alone. -/
def isOrdinary (d : Device) : Bool :=
  d.name.isOrdinary && d.imageRef.isOrdinary && d.deviceType.isOrdinary &&
    d.coordinatesLabel.isOrdinary && d.interface.name.isOrdinary && d.interface.ip.isOrdinary

/-- The graph node record of a device whose identifier has a text. -/
def record (d : Device) : Json :=
  .object [("id", .string (integerText d.id)), ("data", d.recordData),
    ("position", d.position.toRecord)]

theorem toRecord?_of_isWritable {d : Device} (h : IsWritable d.id) :
    d.toRecord? = some d.record := by
  rw [toRecord?, integerText?_of_isWritable h]
  rfl

theorem isOrdinary_record (d : Device) : d.record.isOrdinary = d.isOrdinary := by
  simp [record, recordData, Position.toRecord, Interface.toRecord, Json.isOrdinary,
    Json.fieldsAreOrdinary, isOrdinary, Bool.and_assoc]

theorem isWritable_record (d : Device) : d.record.IsWritable := by
  have zero : IsWritable 0 := by decide +kernel
  have writable (q : Quantity) : (Json.number q.number).IsWritable := by
    cases q with
    | unset => exact zero
    | given x => trivial
  have data : d.recordData.IsWritable :=
    ⟨trivial, trivial, trivial, trivial, trivial, ⟨trivial, trivial, writable _, trivial⟩, trivial⟩
  have position : d.position.toRecord.IsWritable := ⟨writable _, writable _, trivial⟩
  exact ⟨trivial, data, position, trivial⟩

theorem settled_recordData {d : Device} (htexts : d.isOrdinary = true) :
    d.recordData.settled = d.dataWith d.interface.toRecord.settled := by
  simp only [isOrdinary, Bool.and_eq_true] at htexts
  obtain ⟨⟨⟨⟨⟨name, imageRef⟩, deviceType⟩, coordinatesLabel⟩, -⟩, -⟩ := htexts
  rw [recordData, Json.settled_object (by simp) (by simp)]
  simp [dataWith, Json.settled, Json.shownText_of_isOrdinary, name, imageRef, deviceType,
    coordinatesLabel]

theorem ofRecord_settled {d : Device} (hid : IsWritable d.id) (htexts : d.isOrdinary = true) :
    ofRecord d.record.settled = d.settled := by
  have data := settled_recordData htexts
  simp only [isOrdinary, Bool.and_eq_true] at htexts
  have interface := Interface.ofRecord_settled htexts.1.2 htexts.2
  have fields : d.record.settled = .object [("id", .string (integerText d.id)),
      ("data", d.recordData.settled), ("position", d.position.toRecord.settled)] := by
    rw [record, Json.settled_object (by simp) (by simp)]
    simp [Json.settled, Json.shownText_of_isOrdinary]
  rw [fields, data, ofRecord_object hid, Position.ofRecord_settled, interface]
  rfl

end Device

namespace Link

/-- The graph edge record of a link whose endpoints have texts. -/
def record (l : Link) : Json :=
  .object [("source", .string (integerText l.source)), ("target", .string (integerText l.target))]

theorem toRecord?_of_isWritable {l : Link} (h : l.IsWritable) : l.toRecord? = some l.record := by
  rw [toRecord?, integerText?_of_isWritable h.1, integerText?_of_isWritable h.2]
  rfl

theorem isOrdinary_record (l : Link) : l.record.isOrdinary = true := by
  simp [record, Json.isOrdinary, Json.fieldsAreOrdinary]

theorem isWritable_record (l : Link) : l.record.IsWritable := ⟨trivial, trivial, trivial⟩

theorem ofRecord_settled {l : Link} (h : l.IsWritable) : ofRecord l.record.settled = l := by
  have fields : l.record.settled = l.record := by
    rw [record, Json.settled_object (by simp) (by simp)]
    simp [Json.settled, Json.shownText_of_isOrdinary]
  rw [fields]
  exact ofRecord_object h

end Link

/-! ## The records of topologies -/

namespace Topology

/-- No text of a device has a half that stands alone. -/
def isOrdinary (t : Topology) : Bool := t.devices.all Device.isOrdinary

/-- The graph record of a writable topology. -/
def graph (t : Topology) : Json :=
  .object [("nodes", .array (t.devices.map Device.record)),
    ("edges", .array (t.links.map Link.record))]

theorem toGraph?_of_isWritable {t : Topology} (h : t.IsWritable) : t.toGraph? = some t.graph := by
  have nodes : t.devices.mapM Device.toRecord? = some (t.devices.map Device.record) :=
    mapM_eq_some_map fun d hd => Device.toRecord?_of_isWritable (h.1 d hd)
  have edges : t.links.mapM Link.toRecord? = some (t.links.map Link.record) :=
    mapM_eq_some_map fun l hl => Link.toRecord?_of_isWritable (h.2 l hl)
  rw [toGraph?, nodes, edges]
  rfl

theorem isOrdinary_graph (t : Topology) : t.graph.isOrdinary = t.isOrdinary := by
  have links : (t.links.map Link.record).all Json.isOrdinary = true := by
    simp [Link.isOrdinary_record]
  have devices : (t.devices.map Device.record).all Json.isOrdinary = t.isOrdinary := by
    simp [isOrdinary, List.all_map, Function.comp_def, Device.isOrdinary_record]
  simp only [graph, Json.isOrdinary, Json.fieldsAreOrdinary, RawText.isOrdinary_ofString,
    Json.areOrdinary_eq_all, links, devices, Bool.true_and, Bool.and_true]

theorem isWritable_graph (t : Topology) : t.graph.IsWritable := by
  have nodes : Json.AreWritable (t.devices.map Device.record) := by
    simp [Json.areWritable_iff, Device.isWritable_record]
  have edges : Json.AreWritable (t.links.map Link.record) := by
    simp [Json.areWritable_iff, Link.isWritable_record]
  exact ⟨nodes, edges, trivial⟩

theorem ofGraph_object (nodes edges : List Json) :
    ofGraph (.object [("nodes", .array nodes), ("edges", .array edges)]) =
      ⟨nodes.map Device.ofRecord, edges.map Link.ofRecord⟩ := by
  simp [ofGraph, Json.get?, List.lookup_cons, Json.items]

/-- The topology of the record that has settled. -/
theorem ofGraph_settled {t : Topology} (h : t.IsWritable) (htexts : t.isOrdinary = true) :
    ofGraph t.graph.settled = t.settled := by
  have fields : t.graph.settled = .object [
      ("nodes", .array ((t.devices.map Device.record).map Json.settled)),
      ("edges", .array ((t.links.map Link.record).map Json.settled))] := by
    rw [graph, Json.settled_object (by simp) (by simp)]
    simp only [List.map_cons, List.map_nil, Json.settled, Json.settledItems_eq_map]
  have devices : ∀ d ∈ t.devices,
      ((Device.ofRecord ∘ Json.settled) ∘ Device.record) d = d.settled :=
    fun d hd => Device.ofRecord_settled (h.1 d hd) (List.all_eq_true.mp htexts d hd)
  have links : ∀ l ∈ t.links, ((Link.ofRecord ∘ Json.settled) ∘ Link.record) l = id l :=
    fun l hl => Link.ofRecord_settled (h.2 l hl)
  rw [fields, ofGraph_object, List.map_map, List.map_map, List.map_map, List.map_map,
    List.map_congr_left devices, List.map_congr_left links, List.map_id]
  rfl

end Topology
end Topograph
