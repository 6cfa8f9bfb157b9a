import Mathlib.Data.List.Forall2
import Topograph.Proofs.Canvas.Drawing
import Topograph.Proofs.Json.Equality
import Topograph.Proofs.Network.Defaulting
import Topograph.Proofs.Network.IdentifierText
import Topograph.Proofs.Network.PositionLabel
import Topograph.Proofs.Network.RecordRoundTrip

/-!
# Projections lose nothing

A node carries every field of its device, and an edge the texts of its endpoints, from which a
device and a link can be made again. So two projections are equal exactly if their topologies are,
where numbers of one value are equal whatever their kinds are and a NaN equals itself.
-/
namespace Topograph
open Number

/-! ## Making a topology again -/

/-- The quantity of a number that it wrote. -/
def Quantity.ofNumber? : Json → Option Quantity
  | .number (.int 0) => some .unset
  | .number (.float x) => some (.given x)
  | _ => none

def Position.ofData? (v : Json) : Option Position := do
  return {
    x := ← (v.get? "x").bind Quantity.ofNumber?
    y := ← (v.get? "y").bind Quantity.ofNumber? }

def Interface.ofData? (v : Json) : Option Interface := do
  return {
    name := ← (v.get? "name").bind Json.string?
    ip := ← (v.get? "ip").bind Json.string?
    bandwidth := ← (v.get? "bandwidth_mbps").bind Quantity.ofNumber? }

/-- The device whose fields these are. -/
def Device.ofData? (v : Json) : Option Device := do
  return {
    id := ← (v.get? "id").bind Json.int?
    name := ← (v.get? "name").bind Json.string?
    imageRef := ← (v.get? "image_ref").bind Json.string?
    position := ← (v.get? "position").bind Position.ofData?
    deviceType := ← (v.get? "device_type").bind Json.string?
    coordinatesLabel := ← (v.get? "coordinates_label").bind Json.string?
    poweredOn := ← (v.get? "powered_on").bind Json.bool?
    interface := ← (v.get? "interface").bind Interface.ofData? }

/-- The link between the devices that an edge names. -/
def Link.ofEdge? (e : RenderEdge) : Option Link := do
  return {
    source := ← Identifier.ofChars? e.source.toList
    target := ← Identifier.ofChars? e.target.toList }

/-- The topology of the data of the nodes, and of the edges. -/
def Projection.topology? (p : Projection) : Option Topology := do
  let devices ← p.nodes.mapM fun n => Device.ofData? n.data
  let links ← p.edges.mapM Link.ofEdge?
  return { devices, links }

theorem Quantity.ofNumber?_number (q : Quantity) : ofNumber? (.number q.number) = some q := by
  cases q <;> rfl

/-- The data of a node: what is drawn, and every field under its own name. -/
theorem Device.data_node (d : Device) : d.node.data =
    .object (("label", .string d.name) :: ("src", .string d.imageRef) :: d.toJson.fields) :=
  Json.ofArrivals_of_nodup (by simp [toJson, Json.fields])

theorem Device.ofData?_node (d : Device) : ofData? d.node.data = some d := by
  rw [d.data_node]
  simp [ofData?, toJson, Json.fields, Json.get?, List.lookup_cons, Json.int, Json.int?,
    Json.string?, Json.bool?, Position.ofData?, Position.toRecord, Interface.ofData?,
    Quantity.ofNumber?_number]

theorem Link.ofEdge?_ofLink {l : Link} (h : l.IsWritable) (index : Nat) :
    ofEdge? (RenderEdge.ofLink index l) = some l := by
  simp [ofEdge?, RenderEdge.ofLink, Identifier.ofChars?_integerText h.1,
    Identifier.ofChars?_integerText h.2]

theorem Link.mapM_ofEdge?_ofLinks {links : List Link} (h : ∀ l ∈ links, l.IsWritable)
    (index : Nat) : (RenderEdge.ofLinks index links).mapM ofEdge? = some links := by
  induction links generalizing index with
  | nil => rfl
  | cons l rest ih =>
    rw [RenderEdge.ofLinks, List.mapM_cons, ofEdge?_ofLink (h l List.mem_cons_self),
      ih (fun l hl => h l (List.mem_cons_of_mem _ hl))]
    rfl

theorem Topology.topology?_drawing {t : Topology} (h : t.IsWritable) :
    t.drawing.topology? = some t := by
  have devices : (t.devices.map Device.node).mapM (fun n => Device.ofData? n.data) =
      some t.devices := by
    rw [List.mapM_map, mapM_eq_some_map (g := id) fun d _ => d.ofData?_node, List.map_id]
  rw [Projection.topology?, drawing, devices, Link.mapM_ofEdge?_ofLinks h.2]
  rfl

/-! ## Equal projections -/

/-- The nodes are equal in what they show and in what they carry. -/
structure RenderNode.Equals (m n : RenderNode) : Prop where
  id : m.id = n.id
  kind : m.kind = n.kind
  position : m.position.reduce = n.position.reduce
  data : m.data.Equals n.data

/-- The projections have equal nodes and the same edges, in order. -/
def Projection.Equals (p q : Projection) : Prop :=
  List.Forall₂ RenderNode.Equals p.nodes q.nodes ∧ p.edges = q.edges

theorem Position.equals_toRecord_iff (p q : Position) :
    p.toRecord.Equals q.toRecord ↔ p.reduce = q.reduce := by
  simp [toRecord, Json.equals_object_cons, Json.equals_number_iff, Json.equals_empty, reduce,
    Quantity.reduce_eq_iff]

theorem Device.equals_data_iff (d e : Device) :
    d.node.data.Equals e.node.data ↔ d.reduce = e.reduce := by
  rw [d.data_node, e.data_node]
  simp [toJson, Json.fields, Json.equals_object_cons, Json.equals_string_iff, Json.equals_bool_iff,
    Json.int, Json.equals_number_iff, Number.equals_int_iff, Position.equals_toRecord_iff,
    Json.equals_empty, reduce, Interface.reduce, Quantity.reduce_eq_iff]
  constructor
  · rintro ⟨-, -, h⟩
    tauto
  · tauto

theorem Device.equals_node_iff (d e : Device) : d.node.Equals e.node ↔ d.reduce = e.reduce := by
  constructor
  · intro h
    exact (d.equals_data_iff e).mp h.data
  · intro h
    have id : d.reduce.id = e.reduce.id := congrArg Device.id h
    have position : d.reduce.position = e.reduce.position := congrArg Device.position h
    exact ⟨congrArg integerText id, rfl, position, (d.equals_data_iff e).mpr h⟩

theorem forall₂_equals_node_iff (ds es : List Device) :
    List.Forall₂ RenderNode.Equals (ds.map Device.node) (es.map Device.node) ↔
      ds.map Device.reduce = es.map Device.reduce := by
  rw [List.forall₂_map_left_iff, List.forall₂_map_right_iff, ← List.forall₂_eq_eq_eq,
    List.forall₂_map_left_iff, List.forall₂_map_right_iff]
  simp only [Device.equals_node_iff]

/-- The texts of the endpoints tell links apart, also ones that no device is at. -/
theorem RenderEdge.ofLinks_inj {index : Nat} {ls ms : List Link} :
    ofLinks index ls = ofLinks index ms ↔ ls = ms := by
  induction ls generalizing index ms with
  | nil => cases ms <;> simp [ofLinks]
  | cons l rest ih =>
    cases ms with
    | nil => simp [ofLinks]
    | cons m others =>
      have first : ofLink index l = ofLink index m ↔ l = m := by
        cases l
        cases m
        simp [ofLink, integerText_inj]
      rw [ofLinks, ofLinks, List.cons.injEq, List.cons.injEq, first, ih]

namespace Topology

theorem equals_drawing_iff (t u : Topology) : t.drawing.Equals u.drawing ↔ t.same u = true := by
  rw [Projection.Equals, drawing, drawing, forall₂_equals_node_iff, RenderEdge.ofLinks_inj, same,
    decide_eq_true_eq, reduce, reduce, mk.injEq]

/-- Topologies without an overlong identifier have equal projections exactly if they are the same,
and each can be made again from its projection. -/
theorem project?_determines {t u : Topology}
    (ht : ∀ n ∈ t.identifiers, (Numeral.digits n.natAbs).length ≤ digitLimit)
    (hu : ∀ n ∈ u.identifiers, (Numeral.digits n.natAbs).length ≤ digitLimit) :
    ∃ p q, t.project? = some p ∧ u.project? = some q ∧
      (p.Equals q ↔ t.same u = true) ∧ p.topology? = some t ∧ q.topology? = some u := by
  rw [← isWritable_iff_identifiers] at ht hu
  exact ⟨t.drawing, u.drawing, project?_eq_drawing ht, project?_eq_drawing hu,
    equals_drawing_iff t u, topology?_drawing ht, topology?_drawing hu⟩

/-- Read back from its record, the tangle has zeros in place of its declared defaults. The two are
not one value, but the same topology. -/
theorem project?_determines_tangle :
    tangle ≠ tangle.taken ∧ ∃ p q, tangle.project? = some p ∧ tangle.taken.project? = some q ∧
      p.Equals q ∧ p.topology? = some tangle ∧ q.topology? = some tangle.taken := by
  have short : ∀ n ∈ tangle.identifiers, (Numeral.digits n.natAbs).length ≤ digitLimit := by
    rw [← isWritable_iff_identifiers]
    decide +kernel
  have taken : ∀ n ∈ tangle.taken.identifiers, (Numeral.digits n.natAbs).length ≤ digitLimit := by
    rw [← isWritable_iff_identifiers]
    decide +kernel
  obtain ⟨p, q, hp, hq, equal, again, takenAgain⟩ := project?_determines short taken
  exact ⟨by decide +kernel, p, q, hp, hq,
    equal.mpr (by rw [same, decide_eq_true_eq]; decide +kernel), again, takenAgain⟩

end Topology
end Topograph
