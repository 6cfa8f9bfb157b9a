import Topograph.Proofs.Archive.Records
import Topograph.Proofs.Json.BodyText
import Topograph.Proofs.Json.Nesting
import Topograph.Proofs.Service.Acceptable
import Topograph.Snippet.Listing

/-!
# Snippets through replies

What a store grants is read back as it was: one snippet, or a list of them in its order. A snippet
has to have a key within the digit limit, texts without halves that stand alone, and a time in
universal time. What is read goes into the listing, and a refusal is told apart from a snippet that
is gone.
-/
namespace Topograph
open Validation

/-- The snippet can be read back from its document. -/
structure Snippet.IsStorable (s : Snippet) : Prop where
  id : Number.IsWritable s.id
  title : s.title.isOrdinary = true
  content : s.content.isOrdinary = true
  createdAt : s.createdAt.offset = some 0

namespace Snippet

theorem IsStorable.settled_toJson {s : Snippet} (h : s.IsStorable) :
    s.toJson.settled = s.toJson := by
  rw [toJson, Json.settled_object (by simp) (by simp)]
  simp [Json.settled, Json.int, Json.ofNumber, Json.shownText_of_isOrdinary, h.title, h.content]

theorem IsStorable.isWritable_toJson {s : Snippet} (h : s.IsStorable) : s.toJson.IsWritable :=
  ⟨h.id, trivial, trivial, trivial, trivial⟩

theorem depth_toJson (s : Snippet) : s.toJson.depth = 1 := rfl

theorem IsStorable.snippet_toJson {s : Snippet} (h : s.IsStorable) (o : Origin) :
    Validation.snippet o s.toJson = .ok s :=
  snippet_fields o (Timestamp.check_text o h.createdAt)

end Snippet

theorem elements_toJson {snippets : List Snippet} (h : ∀ s ∈ snippets, s.IsStorable) (o : Origin)
    (i : Nat) :
    Checked.elements (fun _ => Validation.snippet o) i (snippets.map Snippet.toJson) =
      .ok snippets := by
  induction snippets generalizing i with
  | nil => rfl
  | cons s rest ih =>
    rw [List.map_cons, Checked.elements, (h s (by simp)).snippet_toJson,
      ih (fun q hq => h q (by simp [hq])) (i + 1)]
    rfl

/-- The document of a list of snippets. -/
def listDocument (snippets : List Snippet) : Json := .array (snippets.map Snippet.toJson)

theorem isWritable_listDocument {snippets : List Snippet} (h : ∀ s ∈ snippets, s.IsStorable) :
    (listDocument snippets).IsWritable := by
  change Json.AreWritable (snippets.map Snippet.toJson)
  rw [Json.areWritable_iff]
  intro v hv
  obtain ⟨s, hs, rfl⟩ := List.mem_map.mp hv
  exact (h s hs).isWritable_toJson

theorem depth_listDocument_le (snippets : List Snippet) :
    (listDocument snippets).depth ≤ Json.strictLevels := by
  rw [listDocument, Json.strictLevels, Json.depth_array_le_iff]
  intro v hv
  obtain ⟨s, -, rfl⟩ := List.mem_map.mp hv
  rw [s.depth_toJson]
  decide

theorem settled_listDocument {snippets : List Snippet} (h : ∀ s ∈ snippets, s.IsStorable) :
    (listDocument snippets).settled = listDocument snippets := by
  rw [listDocument, Json.settled, Json.settledItems_eq_map, List.map_map]
  congr 1
  exact List.map_congr_left fun s hs => (h s hs).settled_toJson

namespace Store

section
variable {c : Client} {room : Nat} (acceptable : c.IsAcceptable room)
include acceptable

theorem readCreated_encode {s : Snippet} (h : s.IsStorable) :
    readCreated c (.answered 201 (Text.Utf8.encode s.toJson.write)) = .ok s := by
  have read : Json.readBodyStrict? (Text.Utf8.encode s.toJson.write) = some s.toJson := by
    rw [Json.readBodyStrict?_encode h.isWritable_toJson (by rw [s.depth_toJson]; decide),
      h.settled_toJson]
  rw [readCreated, Reply.granted_of_not_isRefusal acceptable.namesHost _ (by decide)]
  simp only [Except.bind, checked, read, Option.map_some, h.snippet_toJson]

theorem readList_encode {snippets : List Snippet} (h : ∀ s ∈ snippets, s.IsStorable) :
    readList c (.answered 200 (Text.Utf8.encode (listDocument snippets).write)) = .ok snippets := by
  have read : Json.readBodyStrict? (Text.Utf8.encode (listDocument snippets).write) =
      some (listDocument snippets) := by
    rw [Json.readBodyStrict?_encode (isWritable_listDocument h) (depth_listDocument_le snippets),
      settled_listDocument h]
  have rule : Checked.list (Validation.snippet .document) (listDocument snippets) = .ok snippets :=
    elements_toJson h .document 0
  rw [readList, Reply.granted_of_not_isRefusal acceptable.namesHost _ (by decide)]
  simp only [Except.bind, checked, read, Option.map_some, rule]

end

end Store

namespace Listing

section
variable {c : Client} {room : Nat} (acceptable : c.IsAcceptable room) (l : Listing)
include acceptable

theorem saved_granted {s : Snippet} (h : s.IsStorable) :
    (l.saved c (.answered 201 (Text.Utf8.encode s.toJson.write))).1 = s :: l := by
  rw [saved, Store.readCreated_encode acceptable h]

theorem saved_refused {status : Int} (refusing : Reply.isRefusal status = true) (body : Bytes) :
    (l.saved c (.answered status body)).1 = l := by
  obtain ⟨f, refused⟩ :=
    Reply.exists_granted_of_isRefusal acceptable.namesHost (Store.refusal c) refusing body
  rw [saved, Store.readCreated, refused]
  rfl

theorem listed_granted {snippets : List Snippet} (h : ∀ s ∈ snippets, s.IsStorable) :
    (l.listed c (.answered 200 (Text.Utf8.encode (listDocument snippets).write))).1 =
      newestFirst snippets := by
  rw [listed, Store.readList_encode acceptable h]

end

end Listing
end Topograph
