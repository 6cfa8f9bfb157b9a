import Topograph.Proofs.Archive.Visits
import Topograph.Proofs.Json.BodyText
import Topograph.Proofs.Json.Nesting
import Topograph.Proofs.Service.Acceptable
import Topograph.Proofs.Service.Paths

/-!
# Requests of a client as visits

A client whose address is the root of the archive makes requests that the archive understands: the
path of each is taken apart as it was put together, and a draft is read back from its body.
-/
namespace Topograph

/-- The address of the client is the root of a host, and has room for every path. -/
structure Client.IsAtRoot (c : Client) : Prop where
  acceptable : c.IsAcceptable Store.longestPath
  root : ∃ a, Address.read? c.address.shown = some a ∧ a.isAbsolute = true ∧ a.path = "" ∧
    a.query = none ∧ a.fragment = none

theorem Client.IsAtRoot.read {c : Client} (h : c.IsAtRoot) {path : String}
    (plain : Address.IsPlainPath path.toList) (fits : path.length ≤ Store.longestPath) :
    ∃ a, Address.read? (c.address.shown ++ path) = some a ∧ a.isAbsolute = true ∧
      a.path = path := by
  obtain ⟨a, ha, absolute, root, query, fragment⟩ := h.root
  have read := Address.read?_append_path ha absolute query fragment plain
    (by have := h.acceptable.fits; omega)
  refine ⟨_, read, absolute, ?_⟩
  rw [root, String.empty_append]

theorem Client.IsAtRoot.request {c : Client} (h : c.IsAtRoot) (m : Method) {path : String}
    (plain : Address.IsPlainPath path.toList) (fits : path.length ≤ Store.longestPath)
    {payload : Payload} (ordinary : payload.isOrdinary = true) :
    ∃ r, c.request m path payload = .ok r ∧ r.method = m ∧ r.address.path = path ∧
      r.payload = payload := by
  obtain ⟨a, read, absolute, at_path⟩ := h.read plain fits
  obtain ⟨authorization, made⟩ := Client.request_eq_ok h.acceptable m read absolute ordinary
  exact ⟨_, made, rfl, at_path, rfl⟩

/-! ## Paths taken apart -/

theorem unescape_of_not_mem {cs : List Char} (h : '%' ∉ cs) :
    Text.Utf8.unescape cs = cs.flatMap Text.Utf8.encodeChar := by
  induction cs with
  | nil => rfl
  | cons c cs ih =>
    rw [List.mem_cons, not_or] at h
    have other : c ≠ '%' := Ne.symm h.1
    rw [List.flatMap_cons, ← ih h.2]
    rw [Text.Utf8.unescape]
    · exact fun _ _ _ percent => absurd percent other

namespace Archive
open Number

theorem path_of_not_mem {path : String} (nonempty : path ≠ "") (h : '%' ∉ path.toList) :
    Route.path path = path := by
  rw [Route.path, if_neg nonempty, Address.unescaped, unescape_of_not_mem h]
  exact Text.Utf8.decode_encode path

theorem path_listPath : Route.path Store.listPath = Store.listPath :=
  path_of_not_mem (by decide) (by decide)

/-- Only letters, slashes, a sign and digits stand in the path of a snippet. -/
theorem not_mem_snippetPath {ch : Char} (fixed : ch ∉ "/snippets/".toList) (sign : ch ≠ '-')
    (digit : Numeral.isDigit ch = false) (id : Int) : ch ∉ (Store.snippetPath id).toList := by
  rw [Store.snippetPath, String.toList_append, List.mem_append, not_or]
  refine ⟨fixed, fun key => ?_⟩
  rcases sign_or_digit key with same | same
  · exact sign same
  · simp [same] at digit

theorem path_snippetPath (id : Int) : Route.path (Store.snippetPath id) = Store.snippetPath id := by
  apply path_of_not_mem
  · simp [Store.snippetPath]
  · exact not_mem_snippetPath (by decide) (by decide) (by decide) id

theorem ofPath?_listPath : Route.ofPath? Store.listPath = some .snippets := by decide

theorem ofPath?_snippetPath (id : Int) :
    Route.ofPath? (Store.snippetPath id) = some (.snippet (integerText id)) := by
  have unended : Route.dropLineEnd (Store.snippetPath id) = Store.snippetPath id := by
    unfold Route.dropLineEnd
    split
    · rename_i ended
      have last := List.mem_of_getLast? ended
      exact absurd last (not_mem_snippetPath (by decide) (by decide) (by decide) id)
    · rfl
  have front : (Store.snippetPath id).toList.take 10 = "/snippets/".toList := by
    simp [Store.snippetPath]
  have others : ∀ p ∈ Route.fixedPaths, p.1.toList.take 10 ≠ "/snippets/".toList := by decide
  have unfixed : Route.fixedPaths.lookup (Store.snippetPath id) = none := by
    rw [List.lookup_eq_none_iff]
    intro p hp
    rw [bne_iff_ne]
    intro same
    exact others p hp (by rw [← same, front])
  have named : (integerText id).toList ≠ [] := by
    rw [toList_integerText]
    exact List.append_ne_nil_of_right_ne_nil _ (Numeral.digits_ne_nil _)
  rw [Route.ofPath?, unended, unfixed, Route.snippetName?, Store.splitOn_snippetPath]
  simp only [ne_eq, named, not_false_eq_true, and_self, if_true, String.ofList_toList]
  rfl

theorem plainInt_integerText {id : Int} (h : IsWritable id) :
    Validation.plainInt (integerText id).toList = .read id := by
  have all : (Numeral.digits id.natAbs).takeWhile Numeral.isDigit = Numeral.digits id.natAbs :=
    List.takeWhile_eq_self_iff.mpr fun ch hc => Numeral.isDigit_of_mem_digits hc
  have value := integerOfDigits?_digits h
  have nonempty : (Numeral.digits id.natAbs).isEmpty = false := by
    rw [List.isEmpty_eq_false_iff]
    exact Numeral.digits_ne_nil _
  by_cases zero : id = 0
  · rw [zero, toList_integerText, Int.natAbs_zero, Numeral.digits_of_lt (by decide)]
    rfl
  · have leading := Numeral.head_digits_ne_zero (n := id.natAbs) (by omega)
    have unsigned := Numeral.head_digits_ne_sign id.natAbs
    rw [toList_integerText]
    by_cases negative : id < 0
    · simp only [negative, decide_true] at value
      rw [if_pos negative, List.singleton_append]
      unfold Validation.plainInt
      simp only
      split
      · exact absurd ‹_› (leading [])
      · exact absurd ‹_› (leading _)
      · simp only [all, nonempty, value, Bool.false_eq_true, if_false, if_true]
    · simp only [negative, decide_false] at value
      rw [if_neg negative, List.nil_append]
      unfold Validation.plainInt
      -- That the first digit is no sign, `unsigned`, decides the match on it.
      simp only
      split
      · exact absurd ‹_› (leading [])
      · exact absurd ‹_› (leading _)
      · simp only [all, nonempty, value, Bool.false_eq_true, if_false, if_true]

/-- The text of a key is read as the key. -/
theorem int_integerText {id : Int} (h : IsWritable id) :
    Validation.int (.string (integerText id)) = .ok id := by
  have plain := plainInt_integerText h
  rw [Validation.int, Validation.reading, RawText.ofString, RawText.chars?_ofChars]
  simp only [Validation.intOfChars, plain]

theorem readDraft_encode {q : Inquiry} {d : Draft} (title : d.title.isOrdinary = true)
    (content : d.content.isOrdinary = true) (body : q.body = Text.Utf8.encode d.toJson.write) :
    readDraft q = .ok (.ok d) := by
  have octets : (Text.Utf8.encode d.toJson.write).isEmpty = false := by
    obtain ⟨rest, octets⟩ := Json.encode_write_object ("title", .string d.title)
      [("content", .string d.content)]
    rw [Draft.toJson, octets]
    rfl
  have settled : d.toJson.settled = d.toJson := by
    rw [Draft.toJson, Json.settled_object (by simp) (by simp)]
    simp [Json.settled, Json.shownText_of_isOrdinary, title, content]
  have read : Json.readBody? q.reading (Text.Utf8.encode d.toJson.write) = some (.ok d.toJson) := by
    have writable : d.toJson.IsWritable := ⟨trivial, trivial, trivial⟩
    have shallow : d.toJson.depth ≤ 6 := show 1 ≤ 6 by decide
    exact (Json.readBody?_encode writable (q.reading.fits shallow)).trans (by rw [← settled]; rfl)
  have draft : Validation.draft .modelAttributesType d.toJson = .ok d := by
    simp [Validation.draft, Draft.toJson, Validation.Checked.record, Validation.Checked.required,
      Json.get?, List.lookup_cons, Validation.text, Validation.Checked.below,
      Validation.Checked.join]
  rw [readDraft, body, octets, read]
  simp only [Bool.false_eq_true, if_false, draft]

/-! ## Requests -/

theorem body_ofRequest {r : Request} {v : Json} (h : r.payload = .json v) :
    (Inquiry.ofRequest r).body = Text.Utf8.encode v.write := by
  rw [Inquiry.ofRequest, h]

section
variable {c : Client} (h : c.IsAtRoot)
include h

theorem exists_listRequest : ∃ r, Store.listRequest c = .ok r ∧
    (Inquiry.ofRequest r).Asks .list := by
  obtain ⟨r, made, method, path, -⟩ :=
    h.request .get Store.isPlainPath_listPath (by decide)
      (show Payload.none.isOrdinary = true from rfl)
  refine ⟨r, made, congrArg some method, ?_⟩
  change Route.ofPath? (Route.path r.address.path) = _
  rw [path, path_listPath, ofPath?_listPath]

/-- The archive understands every key that has a text, also one that no table can have. -/
theorem exists_keyRequest {id : Int} (writable : IsWritable id) :
    ∃ r, Store.deleteRequest c id = .ok r ∧ (Inquiry.ofRequest r).method = some .delete ∧
      ∃ name, Route.ofPath? (Inquiry.ofRequest r).path = some (.snippet name) ∧
        Validation.int (.string name) = .ok id := by
  obtain ⟨r, made, method, path, -⟩ := h.request .delete (Store.isPlainPath_snippetPath id)
    (Store.length_snippetPath writable) (show Payload.none.isOrdinary = true from rfl)
  refine ⟨r, (Store.deleteRequest_eq c writable).trans made, congrArg some method,
    integerText id, ?_, int_integerText writable⟩
  change Route.ofPath? (Route.path r.address.path) = _
  rw [path, path_snippetPath, ofPath?_snippetPath]

theorem exists_deleteRequest {id : Int} (word : IsWord id) : ∃ r, Store.deleteRequest c id = .ok r ∧
    (Inquiry.ofRequest r).Asks (.delete id) := by
  obtain ⟨r, made, method, named⟩ := exists_keyRequest h (isWritable_of_isWord word)
  exact ⟨r, made, method, word, named⟩

/-- A draft with a half that stands alone is not sent. -/
theorem createRequest_unpaired {d : Draft}
    (halved : (d.title.isOrdinary && d.content.isOrdinary) = false) :
    Store.createRequest c d = .error .unpaired := by
  have unwritable : (Payload.json d.toJson).isOrdinary = false := by
    simpa [Payload.isOrdinary, Draft.toJson, Json.isOrdinary, Json.fieldsAreOrdinary] using halved
  obtain ⟨a, read, absolute, -⟩ := h.read Store.isPlainPath_listPath (by decide)
  obtain ⟨authorization, made⟩ :=
    Client.request_eq h.acceptable .post read absolute (.json d.toJson)
  rw [unwritable] at made
  exact made

theorem exists_createRequest {d : Draft} (title : d.title.isOrdinary = true)
    (content : d.content.isOrdinary = true) : ∃ r, Store.createRequest c d = .ok r ∧
    (Inquiry.ofRequest r).Asks (.create d) := by
  have ordinary : (Payload.json d.toJson).isOrdinary = true := by
    simp [Payload.isOrdinary, Draft.toJson, Json.isOrdinary, Json.fieldsAreOrdinary, title, content]
  obtain ⟨r, made, method, path, payload⟩ :=
    h.request .post Store.isPlainPath_listPath (by decide) ordinary
  refine ⟨r, made, congrArg some method, ?_, ?_, title, content⟩
  · change Route.ofPath? (Route.path r.address.path) = _
    rw [path, path_listPath, ofPath?_listPath]
  · exact readDraft_encode title content (body_ofRequest payload)

end

end Archive
end Topograph
