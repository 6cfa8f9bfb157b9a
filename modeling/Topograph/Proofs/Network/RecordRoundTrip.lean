import Topograph.Proofs.Network.Record

/-!
# Reading a graph record back

A topology has a graph record exactly if none of its identifiers is past the digit limit. Reading
the record gives the topology back, with its devices and links in their order, whatever texts and
numbers they hold and whether or not identifiers repeat or links dangle. A quantity at its declared
default comes back as a zero that was given, which measures the same.
-/
namespace Topograph
open Number

/-! ## Quantities that were given -/

/-- The quantity after its number has been read. -/
def Quantity.taken : Quantity → Quantity
  | .unset => .given .zero
  | .given x => .given x

def Position.taken (p : Position) : Position := ⟨p.x.taken, p.y.taken⟩

def Interface.taken (i : Interface) : Interface := { i with bandwidth := i.bandwidth.taken }

def Device.taken (d : Device) : Device :=
  { d with position := d.position.taken, interface := d.interface.taken }

/-- The topology with a zero in place of each declared default. -/
def Topology.taken (t : Topology) : Topology := { t with devices := t.devices.map Device.taken }

theorem Quantity.reduce_taken (q : Quantity) : q.taken.reduce = q.reduce := by
  cases q with
  | unset => rfl
  | given x => rfl

theorem Device.reduce_taken (d : Device) : d.taken.reduce = d.reduce := by
  simp only [Device.reduce, Device.taken, Position.reduce, Position.taken, Interface.reduce,
    Interface.taken, Quantity.reduce_taken]

theorem Topology.same_taken (t : Topology) : t.taken.same t = true := by
  rw [Topology.same, decide_eq_true_eq, Topology.reduce, Topology.reduce, Topology.taken,
    Topology.mk.injEq, List.map_map]
  exact ⟨List.map_congr_left fun d _ => d.reduce_taken, rfl⟩

/-! ## Reading -/

theorem Quantity.ofJson_number (q : Quantity) :
    Quantity.ofJson (some (.number q.number)) = q.taken := by
  cases q with
  | unset => decide +kernel
  | given x => rfl

theorem Position.ofRecord_toRecord (p : Position) : ofRecord (some p.toRecord) = p.taken := by
  rw [toRecord, ofRecord_object, Quantity.ofJson_number, Quantity.ofJson_number]
  rfl

theorem Interface.ofRecord_toRecord (i : Interface) : ofRecord (some i.toRecord) = i.taken := by
  rw [toRecord, ofRecord_object, Quantity.ofJson_number]
  rfl

theorem Device.ofRecord_record {d : Device} (h : IsWritable d.id) :
    ofRecord d.record = d.taken := by
  have data : d.recordData = d.dataWith d.interface.toRecord := rfl
  rw [record, data, ofRecord_object h, Position.ofRecord_toRecord, Interface.ofRecord_toRecord]
  rfl

namespace Topology

theorem ofGraph_graph {t : Topology} (h : t.IsWritable) : ofGraph t.graph = t.taken := by
  have devices : ∀ d ∈ t.devices, (Device.ofRecord ∘ Device.record) d = d.taken :=
    fun d hd => Device.ofRecord_record (h.1 d hd)
  have links : ∀ l ∈ t.links, (Link.ofRecord ∘ Link.record) l = id l :=
    fun l hl => Link.ofRecord_object (h.2 l hl)
  rw [graph, ofGraph_object, List.map_map, List.map_map, List.map_congr_left devices,
    List.map_congr_left links, List.map_id]
  rfl

/-! ## Identifiers without a text -/

/-- The identifiers of the devices and of the endpoints of the links. -/
def identifiers (t : Topology) : List Int :=
  t.deviceIds ++ t.links.flatMap fun l => [l.source, l.target]

theorem isWritable_iff_identifiers (t : Topology) :
    t.IsWritable ↔ ∀ n ∈ t.identifiers, (Numeral.digits n.natAbs).length ≤ digitLimit := by
  simp only [← Number.isWritable_iff]
  constructor
  · intro h n hn
    rcases List.mem_append.mp hn with hn | hn
    · obtain ⟨d, hd, rfl⟩ := List.mem_map.mp hn
      exact h.1 d hd
    · obtain ⟨l, hl, ends⟩ := List.mem_flatMap.mp hn
      rcases List.mem_cons.mp ends with rfl | target
      · exact (h.2 l hl).1
      · rw [List.mem_singleton.mp target]
        exact (h.2 l hl).2
  · intro h
    have ofEnd {l : Link} (hl : l ∈ t.links) {n : Int} (hn : n ∈ [l.source, l.target]) :
        Number.IsWritable n := h n (List.mem_append_right _ (List.mem_flatMap.mpr ⟨l, hl, hn⟩))
    refine ⟨fun d hd => h d.id (List.mem_append_left _ (List.mem_map_of_mem hd)), fun l hl => ?_⟩
    exact ⟨ofEnd hl (by simp), ofEnd hl (by simp)⟩

theorem toGraph?_eq_none {t : Topology} (h : ¬ t.IsWritable) : t.toGraph? = none := by
  rcases (not_isWritable_iff t).mp h with ⟨d, hd, overlong⟩ | ⟨l, hl, overlong⟩
  · have none : d.toRecord? = none := by
      rw [Device.toRecord?, integerText?_of_overlong overlong]
      rfl
    rw [toGraph?, mapM_eq_none hd none]
    rfl
  · have none : l.toRecord? = none := by
      rcases Link.integerText?_eq_none overlong with source | target
      · rw [Link.toRecord?, source]
        rfl
      · rw [Link.toRecord?, target]
        cases integerText? l.source <;> rfl
    rw [toGraph?, mapM_eq_none hl none]
    cases t.devices.mapM Device.toRecord? <;> rfl

/-- A topology has no graph record exactly if one of its identifiers has more digits than the
limit. Otherwise reading its record gives the topology back. -/
theorem ofGraph_toGraph? (t : Topology) :
    (t.toGraph? = none ↔
      ∃ n ∈ t.identifiers, digitLimit < (Numeral.digits n.natAbs).length) ∧
    ((∀ n ∈ t.identifiers, (Numeral.digits n.natAbs).length ≤ digitLimit) →
      ∃ graph, t.toGraph? = some graph ∧ (ofGraph graph).same t = true) := by
  rw [← isWritable_iff_identifiers]
  have overlong : (∃ n ∈ t.identifiers, digitLimit < (Numeral.digits n.natAbs).length) ↔
      ¬ t.IsWritable := by
    rw [isWritable_iff_identifiers]
    push Not
    rfl
  rw [overlong]
  refine ⟨⟨fun none writable => ?_, toGraph?_eq_none⟩, fun writable => ?_⟩
  · rw [toGraph?_of_isWritable writable] at none
    cases none
  · refine ⟨t.graph, toGraph?_of_isWritable writable, ?_⟩
    rw [ofGraph_graph writable]
    exact t.same_taken

/-- Two devices of one negative identifier, with a name that is a half of a pair and with numbers
that are not finite, one device with nothing but defaults, and a link to no device. -/
def tangle : Topology where
  devices := [
    { id := -7, name := ⟨[.half ⟨0, by decide⟩]⟩, position := { x := .given .nan },
      coordinatesLabel := "" },
    { id := -7, interface := { bandwidth := .given (.infinite true) }, coordinatesLabel := "a" },
    { id := 0, coordinatesLabel := "0 0" }]
  links := [⟨-7, -7⟩, ⟨0, 12⟩, ⟨0, 12⟩]

theorem ofGraph_toGraph?_tangle :
    (∀ n ∈ tangle.identifiers, (Numeral.digits n.natAbs).length ≤ digitLimit) ∧
      ∃ graph, tangle.toGraph? = some graph ∧ (ofGraph graph).same tangle = true := by
  have short : ∀ n ∈ tangle.identifiers, (Numeral.digits n.natAbs).length ≤ digitLimit := by
    rw [← isWritable_iff_identifiers]
    decide +kernel
  exact ⟨short, (ofGraph_toGraph? tangle).2 short⟩

end Topology
end Topograph
