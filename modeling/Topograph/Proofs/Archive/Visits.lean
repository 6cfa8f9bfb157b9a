import Topograph.Proofs.Archive.Records
import Topograph.Proofs.Text.Trimmed

/-!
# Visits to an archive

A visit creates a snippet, gets one, lists all of them or deletes one. Each has one answer, told by
the records that the archive keeps.
-/
namespace Topograph.Archive

/-- What a visit is for. -/
inductive Ask where
  | create (d : Draft)
  | get (id : Int)
  | list
  | delete (id : Int)

namespace Inquiry

/-- The path names the snippet under this key, which is a signed word. -/
def Names (q : Inquiry) (id : Int) : Prop :=
  Number.IsWord id ∧ ∃ name, Route.ofPath? q.path = some (.snippet name) ∧
    Validation.int (.string name) = .ok id

/-- The body is a draft, and its texts have no half that stands alone. -/
def Carries (q : Inquiry) (d : Draft) : Prop :=
  readDraft q = .ok (.ok d) ∧ d.title.isOrdinary = true ∧ d.content.isOrdinary = true

def Asks (q : Inquiry) : Ask → Prop
  | .create d => q.method = some .post ∧ Route.ofPath? q.path = some .snippets ∧ q.Carries d
  | .get id => q.method = some .get ∧ q.Names id
  | .list => q.method = some .get ∧ Route.ofPath? q.path = some .snippets
  | .delete id => q.method = some .delete ∧ q.Names id

end Inquiry

theorem answer_of_route {q : Inquiry} {route : Route} (h : Route.ofPath? q.path = some route)
    (document : q.method ≠ some .head) (a : Archive) (now : RawText) :
    a.answer now q = a.answerRoute now q route := by
  unfold answer
  rw [h]
  simp only [if_neg document]

theorem acceptDraft_of_carries {q : Inquiry} {d : Draft} (h : q.Carries d) :
    acceptDraft q = .ok (if d.title.trim.isEmpty then
      .error (.detail 400 "Title must not be empty")
      else .ok { d with title := d.title.trim }) := by
  rw [acceptDraft, h.1]
  rfl

/-- A draft with a blank title is refused. -/
theorem answer_create_blank {q : Inquiry} {d : Draft} (h : q.Asks (.create d))
    (blank : d.title.trim.isEmpty = true) (a : Archive) (now : RawText) :
    a.answer now q = (a, .ok (.detail 400 "Title must not be empty")) := by
  obtain ⟨method, route, carries⟩ := h
  rw [answer_of_route route (by rw [method]; decide)]
  simp only [answerRoute, method, answerCreate, acceptDraft_of_carries carries, if_pos blank]

/-- A request for the list is answered with what the archive lists. -/
theorem answer_list_of_ok {a : Archive} {snippets : List Snippet} (listed : a.list = .ok snippets)
    {q : Inquiry} (asks : q.Asks .list) (now : RawText) :
    a.answer now q = (a, .ok (.ofJson 200 (.array (snippets.map Snippet.toJson)))) := by
  obtain ⟨method, route⟩ := asks
  rw [answer_of_route route (by rw [method]; decide)]
  simp only [answerRoute, method, answerList, listed, Except.map]

section
variable {a : Archive} {records : List Record} {last : Int} (h : a.Keeps records last)
include h

/-- Any other draft becomes a record under the next key. -/
theorem Keeps.answer_create {q : Inquiry} {d : Draft} (asks : q.Asks (.create d))
    (titled : d.title.trim.isEmpty = false) (t : Timestamp) :
    ∃ b, ∃ r : Record, a.answer t.stamp q = (b, .ok (.ofJson 201 r.snippet.toJson)) ∧
      b.Keeps (records ++ [r]) (last + 1) ∧ r.id = last + 1 ∧ r.time = t ∧
      r.snippet.title = d.title.trim ∧ r.snippet.content = d.content := by
  obtain ⟨method, route, carries⟩ := asks
  have accepted := acceptDraft_of_carries carries
  obtain ⟨-, ordinary, content⟩ := carries
  obtain ⟨title, htitle⟩ := RawText.exists_ofString ((RawText.isOrdinary_trim _).trans ordinary)
  obtain ⟨content, hcontent⟩ := RawText.exists_ofString content
  rw [if_neg (by simp [titled]), htitle, hcontent] at accepted
  obtain ⟨b, inserted, keeps⟩ := h.insert (r := ⟨last + 1, title, content, t⟩) rfl
  refine ⟨b, ⟨last + 1, title, content, t⟩, ?_, keeps, rfl, rfl, htitle.symm, hcontent.symm⟩
  rw [answer_of_route route (by rw [method]; decide)]
  simp only [answerRoute, method, answerCreate, accepted, inserted]
  rfl

theorem Keeps.answer_get {q : Inquiry} {id : Int} (asks : q.Asks (.get id)) (now : RawText) :
    a.answer now q = (a, .ok (match records.find? fun r => r.id == id with
      | some r => .ofJson 200 r.snippet.toJson
      | none => .noSnippet id)) := by
  obtain ⟨method, word, name, route, key⟩ := asks
  rw [answer_of_route route (by rw [method]; decide)]
  simp only [answerRoute, method, key, answerGet, h.get word]
  cases records.find? fun r => r.id == id <;> rfl

theorem Keeps.answer_list {q : Inquiry} (asks : q.Asks .list) (now : RawText) :
    a.answer now q = (a, .ok (.ofJson 200 (.array ((shelf records).map Snippet.toJson)))) :=
  answer_list_of_ok h.list asks now

theorem Keeps.answer_delete {q : Inquiry} {id : Int} (asks : q.Asks (.delete id))
    (now : RawText) {r : Record} (hr : r ∈ records) (key : r.id = id) :
    ∃ b, a.answer now q = (b, .ok (.ofJson 200 (.object [("deleted", .int id)]))) ∧
      b.Keeps (records.filter fun r => r.id != id) last := by
  obtain ⟨method, word, name, route, named⟩ := asks
  obtain ⟨b, deleted, keeps⟩ := h.delete word
  refine ⟨b, ?_, keeps⟩
  have found : ∃ q, (records.find? fun r => r.id == id) = some q := by
    rw [← Option.isSome_iff_exists, List.find?_isSome]
    exact ⟨r, hr, by simp [key]⟩
  obtain ⟨q, found⟩ := found
  rw [answer_of_route route (by rw [method]; decide)]
  simp only [answerRoute, method, named, answerDelete, h.get word, found, deleted]
  rfl

theorem Keeps.answer_delete_none {q : Inquiry} {id : Int} (asks : q.Asks (.delete id))
    (now : RawText) (absent : ∀ r ∈ records, r.id ≠ id) :
    a.answer now q = (a, .ok (.noSnippet id)) := by
  obtain ⟨method, word, name, route, named⟩ := asks
  have none : (records.find? fun r => r.id == id) = none := by
    rw [List.find?_eq_none]
    exact fun r hr => by simp [absent r hr]
  rw [answer_of_route route (by rw [method]; decide)]
  simp only [answerRoute, method, named, answerDelete, h.get word, none]
  rfl

end

end Topograph.Archive
