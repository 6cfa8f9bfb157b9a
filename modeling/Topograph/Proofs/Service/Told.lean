import Topograph.Proofs.Number.DecimalText
import Topograph.Proofs.Number.Rounding
import Topograph.Proofs.Service.Acceptable
import Topograph.Proofs.Service.Paths
import Topograph.Proofs.Snippet.EnvelopeText
import Topograph.Proofs.Text.Trimmed
import Topograph.Service.Compiler
import Topograph.Service.Decoder
import Topograph.Snippet.Listing

/-!
# Failures that the user is told about

A service may be out of reach, refuse a request with any body, or answer with octets that are no
text, no document or the wrong document. Each of these is a problem with a message of its own, and
no message is empty. What is left out are documents that nest too deep for the client.
-/
namespace Topograph

theorem exists_of_map_eq_ok {α β : Type} {g : α → β} {x : Except Failure α} {b : β}
    (h : x.map g = .ok b) : ∃ a, x = .ok a ∧ g a = b := by
  cases x with
  | error f => cases h
  | ok a => exact ⟨a, rfl, Except.ok.inj h⟩

/-- Whatever goes wrong here is of this kind. -/
def FailsOnly (P : Failure → Prop) {α : Type} (x : Except Failure α) : Prop :=
  ∀ f, x = .error f → P f

namespace FailsOnly
variable {P : Failure → Prop} {α β : Type} {x : Except Failure α}

theorem ok (a : α) : FailsOnly P (.ok a) := by
  intro f h
  cases h

theorem error {f : Failure} (h : P f) : FailsOnly P (.error f : Except Failure α) := by
  intro f' hf
  obtain rfl := Except.error.inj hf
  exact h

theorem bind {g : α → Except Failure β} (h : FailsOnly P x)
    (hg : ∀ a, x = .ok a → FailsOnly P (g a)) : FailsOnly P (x.bind g) := by
  cases x with
  | error f => exact error (h f rfl)
  | ok a => exact hg a rfl

theorem map (h : FailsOnly P x) (g : α → β) : FailsOnly P (x.map g) := by
  cases x with
  | error f => exact error (h f rfl)
  | ok a => exact ok (g a)

end FailsOnly

/-- The failure is a problem, and its message says something. -/
def Failure.IsTold (f : Failure) : Prop := ∃ p, f = .problem p ∧ p.message.isEmpty = false

/-- Whatever goes wrong here is told. -/
def Tells {α : Type} (x : Except Failure α) : Prop := ∀ f, x = .error f → f.IsTold

/-- The reply comes from a service outside, and not from one that broke down inside the program. -/
def Reply.IsOutside (r : Reply) : Prop := ∀ f, r ≠ .broken f

/-- No document in the reply nests too deep for the client. -/
def Reply.FitsIn (r : Reply) (c : Client) : Prop :=
  ∀ status body, r = .answered status body → ¬ c.Overflows body

/-- It is enough that the text of the body does not open too many arrays and objects. -/
theorem Reply.fitsIn_of_openings {c : Client} {status : Int} {body : Bytes}
    (few : ∀ s, Json.bodyText? body = some s → Json.Reader.openings s.letters ≤ c.headroom.levels) :
    (answered status body).FitsIn c := by
  rintro _ _ ⟨⟩ deep
  obtain ⟨s, text, many⟩ := deep.lt_openings
  exact absurd (few s text) (Nat.not_le.mpr many)

theorem tells_ok {α : Type} (a : α) : Tells (Except.ok a : Except Failure α) := FailsOnly.ok a

theorem tells_problem {α : Type} {p : Problem} (h : p.message.isEmpty = false) :
    Tells (.error (.problem p) : Except Failure α) := FailsOnly.error ⟨p, rfl, h⟩

theorem Tells.bind {α β : Type} {x : Except Failure α} {g : α → Except Failure β} (h : Tells x)
    (hg : ∀ a, x = .ok a → Tells (g a)) : Tells (x.bind g) := FailsOnly.bind h hg

/-! ## Messages -/

theorem isEmpty_ofString (s : String) : (RawText.ofString s).isEmpty = s.isEmpty := by
  rw [Bool.eq_iff_iff]
  simp [RawText.isEmpty, RawText.ofString, RawText.ofChars]

theorem RawText.isEmpty_append (s t : RawText) : (s ++ t).isEmpty = (s.isEmpty && t.isEmpty) := by
  change (s.letters ++ t.letters).isEmpty = (s.letters.isEmpty && t.letters.isEmpty)
  cases s.letters <;> rfl

theorem isEmpty_append_left {s : String} (h : s.isEmpty = false) (t : String) :
    (s ++ t).isEmpty = false := by
  simp_all

theorem isEmpty_orElseText {t : String} (s : String) (h : t.isEmpty = false) :
    (orElseText s t).isEmpty = false := by
  unfold orElseText
  by_cases empty : s.isEmpty
  · rw [if_pos empty, h]
  · rw [if_neg empty]
    simpa using empty

theorem isEmpty_unusable (what : Unusable) : (Problem.unusable what).message.isEmpty = false := by
  rw [Problem.message, isEmpty_ofString]
  cases what <;> rfl

theorem isEmpty_rejected (why : Rejection) : (Problem.rejected why).message.isEmpty = false := by
  rw [Problem.message, isEmpty_ofString]
  cases why <;> rfl

theorem isEmpty_unreachable (service : Service) (address reason : RawText) :
    (Problem.unreachable service address reason).message.isEmpty = false := by
  simp only [Problem.message, RawText.isEmpty_append, isEmpty_ofString]
  rw [isEmpty_append_left (isEmpty_append_left (by decide) _)]
  rfl

theorem isEmpty_refusal_decode (status : Int) (body : Bytes) :
    (Decoder.refusal status body).isEmpty = false := by
  rw [Decoder.refusal, isEmpty_ofString, String.append_assoc, String.append_assoc]
  exact isEmpty_append_left (by decide) _

theorem isEmpty_withStatus {s : String} (h : s.isEmpty = false) (status : Int) :
    (Compiler.withStatus s status).isEmpty = false := isEmpty_append_left h _

theorem isEmpty_refusal_compile (status : Int) (body : Bytes) :
    (Compiler.compileRefusal status body).isEmpty = false := by
  rw [Compiler.compileRefusal, isEmpty_ofString]
  exact isEmpty_orElseText _ (isEmpty_withStatus (by decide) status)

theorem text_ne_nil (layout : Number.Layout) (x : Number.Binary64) : layout.text x ≠ [] := by
  cases x with
  | nan => simp [Number.Layout.text]
  | infinite negative => cases negative <;> simp [Number.Layout.text]
  | finite negative m =>
    have wf := layout.wellFormed_parts (d := m.shortest) Number.Magnitude.exponent_shortest
    intro nil
    rw [Number.Layout.text, Number.Layout.finite, ← Number.Layout.chars_parts,
      Number.DecimalText.chars] at nil
    exact wf.whole_ne_nil (by simp_all)

/-- A value that carries something is shown by some characters. -/
theorem isEmpty_message {v : Json} (h : v.isSubstantial = true) : v.message.isEmpty = false := by
  have shows {cs : List Char} (nonempty : cs ≠ []) : (RawText.ofChars cs).isEmpty = false := by
    simpa [RawText.isEmpty, RawText.ofChars] using nonempty
  cases v with
  | string s =>
    rw [Json.isSubstantial] at h
    simpa [Json.message] using h
  | bool b => cases b <;> decide
  | number n =>
    apply shows
    cases n with
    | int n =>
      change (Number.integerText n).toList ≠ []
      rw [Number.toList_integerText]
      exact List.append_ne_nil_of_right_ne_nil _ (Number.Numeral.digits_ne_nil _)
    | float x => exact text_ne_nil _ x
  | null => exact absurd h (by simp [Json.isSubstantial])
  | array items =>
    apply shows
    cases items <;> exact List.cons_ne_nil _ _
  | object fields =>
    apply shows
    cases fields <;> exact List.cons_ne_nil _ _

theorem Compiler.exists_convertRefusal {c : Client} {body : Bytes} (fits : ¬ c.Overflows body)
    (status : Int) : ∃ message, convertRefusal c status body = .ok message := by
  obtain ⟨v?, read⟩ := c.exists_document? fits
  rw [convertRefusal, read]
  exact ⟨_, rfl⟩

theorem Store.exists_refusal {c : Client} {body : Bytes} (fits : ¬ c.Overflows body)
    (status : Int) : ∃ message, refusal c status body = .ok message := by
  obtain ⟨v?, read⟩ := c.exists_document? fits
  rw [refusal, read]
  exact ⟨_, rfl⟩

theorem isEmpty_refusal_convert {c : Client} {status : Int} {body : Bytes} {message : RawText}
    (worded : Compiler.convertRefusal c status body = .ok message) : message.isEmpty = false := by
  obtain ⟨v?, -, rfl⟩ := exists_of_map_eq_ok worded
  split
  · rw [isEmpty_ofString]
    exact isEmpty_orElseText _ (by decide)
  · split
    · rename_i error found
      rw [Option.filter_eq_some_iff] at found
      exact isEmpty_message found.2
    · rw [isEmpty_ofString]
      exact isEmpty_withStatus (by decide) status

theorem isEmpty_refusal_store {c : Client} {status : Int} {body : Bytes} {message : RawText}
    (worded : Store.refusal c status body = .ok message) : message.isEmpty = false := by
  obtain ⟨v?, -, rfl⟩ := exists_of_map_eq_ok worded
  simp only
  cases told : ["msg", "detail"].findSome? fun (key : String) =>
      (((v?.getD .null).get? key).bind Json.string?).filter fun s => !s.isEmpty with
  | some s =>
    obtain ⟨key, -, found⟩ := List.exists_of_findSome?_eq_some told
    rw [Option.filter_eq_some_iff] at found
    simpa using found.2
  | none =>
    rw [Option.getD_none, isEmpty_ofString]
    exact isEmpty_orElseText _ (isEmpty_append_left (by decide) _)

/-! ## Requests -/

section
variable {c : Client} {room : Nat} (h : c.IsAcceptable room)
include h

theorem exists_decodeRequest (file : Bytes) : ∃ r, Decoder.request c file = .ok r := by
  apply h.request
  · simp
  · rfl
  · exact Nat.zero_le room
  · simp [Payload.isOrdinary, Json.isOrdinary, Json.fieldsAreOrdinary, RawText.isOrdinary_ofChars]

theorem exists_compileRequest (fits : "/reactflow".length ≤ room) {dsl : RawText}
    (blank : dsl.isAllBlank = false) (ordinary : dsl.isOrdinary = true) :
    ∃ r, Compiler.compileRequest c dsl = .ok r := by
  have plain : Address.IsPlainPath "/reactflow".toList := ⟨by decide, by decide, by decide⟩
  rw [Compiler.compileRequest, blank]
  apply h.request .post plain.head plain.control fits
  simp [Payload.isOrdinary, Json.isOrdinary, Json.fieldsAreOrdinary, ordinary]

theorem exists_convertRequest (fits : "/api/convert".length ≤ room) (xml : String) :
    ∃ r, Compiler.convertRequest c xml = .ok r := by
  have plain : Address.IsPlainPath "/api/convert".toList := ⟨by decide, by decide, by decide⟩
  rw [Compiler.convertRequest, Text.Utf8.encode?, RawText.toString?_ofString]
  exact h.request .post plain.head plain.control fits rfl

theorem exists_listRequest (fits : Store.longestPath ≤ room) :
    ∃ r, Store.listRequest c = .ok r := by
  have plain := Store.isPlainPath_listPath
  exact h.request .get plain.head plain.control (le_trans (by decide) fits) rfl

theorem exists_deleteRequest (fits : Store.longestPath ≤ room) {id : Int}
    (writable : Number.IsWritable id) : ∃ r, Store.deleteRequest c id = .ok r := by
  have plain := Store.isPlainPath_snippetPath id
  rw [Store.deleteRequest_eq c writable]
  exact h.request .delete plain.head plain.control
    (le_trans (Store.length_snippetPath writable) fits) rfl

theorem exists_createRequest (fits : Store.longestPath ≤ room) {d : Draft}
    (title : d.title.isOrdinary = true) (content : d.content.isOrdinary = true) :
    ∃ r, Store.createRequest c d = .ok r := by
  have plain := Store.isPlainPath_listPath
  apply h.request .post plain.head plain.control (le_trans (by decide) fits)
  simp [Payload.isOrdinary, Draft.toJson, Json.isOrdinary, Json.fieldsAreOrdinary, title, content]

end

/-- A save is rejected with a message, or it can be sent. -/
theorem tells_saveRequest {c : Client} {room : Nat} (h : c.IsAcceptable room)
    (fits : Store.longestPath ≤ room) {title dsl : RawText} {t : Topology}
    (htitle : title.isOrdinary = true) (hdsl : dsl.isOrdinary = true) (writable : t.IsWritable)
    (texts : t.isOrdinary = true) : Tells (Listing.saveRequest c title dsl t) := by
  unfold Listing.saveRequest Listing.draft
  by_cases untitled : title.isAllBlank = true
  · rw [if_pos untitled]
    exact tells_problem (isEmpty_rejected .noTitle)
  · rw [if_neg untitled]
    by_cases empty : dsl.isAllBlank = true
    · rw [if_pos empty]
      exact tells_problem (isEmpty_rejected .nothingToSave)
    · rw [if_neg empty, Envelope.encode_eq_ok hdsl writable texts]
      obtain ⟨r, hr⟩ := exists_createRequest h fits
        (d := ⟨title.trim, (Envelope.document dsl t.graph).write⟩)
        ((RawText.isOrdinary_trim title).trans htitle) (RawText.isOrdinary_ofString _)
      intro f hf
      cases hr.symm.trans hf

/-! ## Replies -/

theorem tells_granted {c : Client} {room : Nat} (h : c.IsAcceptable room)
    {refusal : Int → Bytes → Except Failure RawText} {r : Reply}
    (worded : ∀ status body, r = .answered status body → ∃ message,
      refusal status body = .ok message ∧ message.isEmpty = false)
    (outside : r.IsOutside) : Tells (r.granted c refusal) := by
  cases r with
  | answered status body =>
    obtain ⟨message, worded, nonempty⟩ := worded status body rfl
    cases refusing : Reply.isRefusal status with
    | true =>
      rw [Reply.granted_of_isRefusal h.namesHost refusal refusing worded]
      exact tells_problem nonempty
    | false =>
      rw [Reply.granted_of_not_isRefusal h.namesHost refusal refusing]
      exact tells_ok body
  | unreachable reason => exact tells_problem (isEmpty_unreachable _ _ _)
  | broken f => exact absurd rfl (outside f)

theorem tells_checked {α : Type} (what : Unusable) (rule : Json → Validation.Checked α)
    (body : Bytes) : Tells (Store.checked what rule body) := by
  unfold Store.checked
  split
  · exact tells_ok _
  · exact tells_problem (isEmpty_unusable what)

theorem tells_decoded (body : Bytes) : Tells (Decoder.decoded body) := by
  unfold Decoder.decoded
  split
  · exact tells_problem (isEmpty_unusable _)
  · split
    · exact tells_problem (isEmpty_unusable _)
    · exact tells_ok _

theorem tells_compiled {c : Client} {body : Bytes} (fits : ¬ c.Overflows body) :
    Tells (Compiler.compiled c body) := by
  obtain ⟨v?, read⟩ := c.exists_document? fits
  rw [Compiler.compiled, read]
  cases v? with
  | none => exact tells_problem (isEmpty_unusable _)
  | some v =>
    simp only
    split
    · exact tells_ok _
    · exact tells_problem (isEmpty_unusable _)

theorem tells_converted {c : Client} {body : Bytes} (fits : ¬ c.Overflows body) :
    Tells (Compiler.converted c body) := by
  obtain ⟨v?, read⟩ := c.exists_document? fits
  rw [Compiler.converted, read]
  cases v? with
  | none => exact tells_problem (isEmpty_unusable _)
  | some v =>
    simp only
    split
    · split
      · exact tells_problem (isEmpty_unusable _)
      · exact tells_ok _
    · exact tells_problem (isEmpty_unusable _)

theorem answered_of_granted {c : Client} {refusal : Int → Bytes → Except Failure RawText}
    {r : Reply} {body : Bytes} (h : r.granted c refusal = .ok body) :
    ∃ status, r = .answered status body := by
  cases r with
  | answered status sent =>
    rw [Reply.granted] at h
    split at h
    · cases h
    · split at h
      · split at h <;> cases h
      · exact ⟨status, by rw [Except.ok.inj h]⟩
  | unreachable reason => cases h
  | broken f => cases h

section
variable {c : Client} {room : Nat} (h : c.IsAcceptable room) {r : Reply} (outside : r.IsOutside)
include h outside

theorem tells_readDecoded : Tells (Decoder.readDecoded c r) := by
  refine Tells.bind (tells_granted h ?_ outside) fun body _ => tells_decoded body
  exact fun status body _ => ⟨_, rfl, isEmpty_refusal_decode status body⟩

section
variable (fits : r.FitsIn c)
include fits

theorem tells_readCompiled : Tells (Compiler.readCompiled c r) := by
  refine Tells.bind (tells_granted h ?_ outside) fun body granted => ?_
  · exact fun status body _ => ⟨_, rfl, isEmpty_refusal_compile status body⟩
  · obtain ⟨status, answered⟩ := answered_of_granted granted
    exact tells_compiled (fits status body answered)

theorem tells_readConverted : Tells (Compiler.readConverted c r) := by
  refine Tells.bind (tells_granted h ?_ outside) fun body granted => ?_
  · intro status body answered
    obtain ⟨message, worded⟩ := Compiler.exists_convertRefusal (fits status body answered) status
    exact ⟨message, worded, isEmpty_refusal_convert worded⟩
  · obtain ⟨status, answered⟩ := answered_of_granted granted
    exact tells_converted (fits status body answered)

theorem tells_granted_store : Tells (r.granted c (Store.refusal c)) := by
  refine tells_granted h (fun status body answered => ?_) outside
  obtain ⟨message, worded⟩ := Store.exists_refusal (fits status body answered) status
  exact ⟨message, worded, isEmpty_refusal_store worded⟩

theorem tells_readList : Tells (Store.readList c r) :=
  (tells_granted_store h outside fits).bind fun body _ => tells_checked _ _ body

theorem tells_readCreated : Tells (Store.readCreated c r) :=
  (tells_granted_store h outside fits).bind fun body _ => tells_checked _ _ body

theorem tells_readDeleted : Tells (Store.readDeleted c r) :=
  FailsOnly.map (tells_granted_store h outside fits) _

end

end

end Topograph
