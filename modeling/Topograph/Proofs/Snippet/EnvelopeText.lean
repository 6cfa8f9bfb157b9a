import Topograph.Proofs.Json.Nesting
import Topograph.Proofs.Network.Record
import Topograph.Snippet.Envelope

/-!
# Opening what was written

The content of a snippet is read back as the description and the settled topology that it was
written for. Both have to be without halves that stand alone: no content holds such a half.
-/
namespace Topograph.Envelope
open Number

theorem isOrdinary_document (dsl : RawText) (graph : Json) :
    (document dsl graph).isOrdinary = (dsl.isOrdinary && graph.isOrdinary) := by
  simp [document, Json.isOrdinary, Json.fieldsAreOrdinary]

theorem settled_document {dsl : RawText} (h : dsl.isOrdinary = true) (graph : Json) :
    (document dsl graph).settled = document dsl graph.settled := by
  rw [document, Json.settled_object (by simp) (by simp)]
  simp [document, Json.settled, Json.shownText_of_isOrdinary h]

theorem ofJson?_document (dsl : RawText) {graph : Json} (h : graph.object? = some graph) :
    ofJson? (document dsl graph) = some (dsl, .ofGraph graph) := by
  simp [ofJson?, document, Json.get?, List.lookup_cons, Json.string?, h]

theorem object?_settled_graph (t : Topology) : t.graph.settled.object? = some t.graph.settled := by
  rw [Topology.graph, Json.settled_object (by simp) (by simp)]
  rfl

/-- The content for a writable topology, where all texts are ordinary. -/
theorem encode_eq_ok {dsl : RawText} (hdsl : dsl.isOrdinary = true) {t : Topology}
    (h : t.IsWritable) (htexts : t.isOrdinary = true) :
    encode dsl t = .ok (document dsl t.graph).write := by
  have ordinary : (document dsl t.graph).isOrdinary = true := by
    rw [isOrdinary_document, Topology.isOrdinary_graph, hdsl, htexts]
    rfl
  rw [encode, Topology.toGraph?_of_isWritable h]
  simp only [Json.write?, ordinary, if_true]

/-- A half that stands alone, in the description or in the topology, cannot be stored. -/
theorem encode_eq_unstorable {dsl : RawText} {t : Topology} (h : t.IsWritable)
    (htexts : (dsl.isOrdinary && t.isOrdinary) = false) :
    encode dsl t = .error .unstorable := by
  have ordinary : (document dsl t.graph).isOrdinary = false := by
    rw [isOrdinary_document, Topology.isOrdinary_graph, htexts]
  rw [encode, Topology.toGraph?_of_isWritable h]
  simp only [Json.write?, ordinary, Bool.false_eq_true, if_false]

theorem depth_graph_le (t : Topology) : t.graph.depth ≤ 5 := by
  have nodes : (Json.array (t.devices.map Device.record)).depth ≤ 4 := by
    rw [Json.depth_array_le_iff]
    intro v hv
    obtain ⟨d, -, rfl⟩ := List.mem_map.mp hv
    exact le_of_eq (show d.record.depth = 3 from rfl)
  have edges : (Json.array (t.links.map Link.record)).depth ≤ 4 := by
    rw [Json.depth_array_le_iff]
    intro v hv
    obtain ⟨l, -, rfl⟩ := List.mem_map.mp hv
    exact show 1 ≤ 3 by decide
  rw [Topology.graph, Json.depth_object_le_iff]
  simp [nodes, edges]

/-- A content nests six levels deep at most. -/
theorem depth_document_le (dsl : RawText) (t : Topology) : (document dsl t.graph).depth ≤ 6 := by
  rw [document, Json.depth_object_le_iff]
  simp [depth_graph_le, Json.depth]

theorem parse_write (headroom : Json.Headroom) {dsl : RawText} (hdsl : dsl.isOrdinary = true)
    {t : Topology} (h : t.IsWritable) (htexts : t.isOrdinary = true) :
    parse headroom (RawText.ofString (document dsl t.graph).write) = .ok (dsl, t.settled) := by
  have writable : (document dsl t.graph).IsWritable :=
    ⟨trivial, Topology.isWritable_graph t, trivial⟩
  have parts := ofJson?_document dsl (object?_settled_graph t)
  rw [parse, Json.read_write writable (headroom.fits (depth_document_le dsl t)),
    settled_document hdsl]
  simp only [parts, Topology.ofGraph_settled h htexts]

/-- A description and a writable topology without halves that stand alone have a content, and the
content is read back, with any headroom, as the same description and the settled topology, which is
the same topology if all its numbers are finite. -/
theorem parse_encode {dsl : RawText} (hdsl : dsl.isOrdinary = true) {t : Topology}
    (h : t.IsWritable) (htexts : t.isOrdinary = true) :
    (∃ content, encode dsl t = .ok content ∧
      ∀ headroom, parse headroom (RawText.ofString content) = .ok (dsl, t.settled)) ∧
    (t.isFinite = true → t.settled.same t = true) :=
  ⟨⟨_, encode_eq_ok hdsl h htexts, fun headroom => parse_write headroom hdsl h htexts⟩,
    Topology.same_settled⟩

/-- A device that is linked to itself, with a first coordinate that is no number. -/
def strayed : Topology where
  devices := [{ id := -7, name := "\u03b1\"\\\n", position := { x := .given .nan },
                coordinatesLabel := "nan 0" }]
  links := [⟨-7, -7⟩]

theorem parse_encode_strayed :
    (∃ content, encode "r\t\"1\"" strayed = .ok content ∧
      ∀ headroom, parse headroom (RawText.ofString content) = .ok ("r\t\"1\"", strayed.settled)) ∧
    (strayed.isFinite = true → strayed.settled.same strayed = true) :=
  parse_encode (by decide +kernel) (by decide +kernel) (by decide +kernel)

/-- A device whose name is a half that stands alone. -/
def halved : Topology where
  devices := [{ id := 1, name := ⟨[.half 0]⟩, coordinatesLabel := "0 0" }]

/-- The identifiers alone do not make a topology one that can be stored. -/
theorem not_forall_encode : ¬ ∀ (dsl : RawText) (t : Topology),
    dsl.isOrdinary = true → t.IsWritable → ∃ content, encode dsl t = .ok content ∧
      ∀ headroom, parse headroom (RawText.ofString content) = .ok (dsl, t.settled) := by
  intro stored
  have writable : halved.IsWritable := by decide +kernel
  obtain ⟨content, encoded, -⟩ := stored "a" halved (by decide +kernel) writable
  have refused : encode "a" halved = .error .unstorable :=
    encode_eq_unstorable writable (by decide +kernel)
  rw [encoded] at refused
  exact absurd refused (by simp)

end Topograph.Envelope
