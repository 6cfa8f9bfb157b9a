import Topograph.Proofs.Codec.Base64Text
import Topograph.Proofs.Json.BodyText
import Topograph.Proofs.Service.Refusals

/-!
# Transport to and from the decode service

A file goes out in base64 and is read back from the request as it was. A text comes in as UTF-8
that is compressed, in base64, and wrapped in whatever way: it arrives as it was written, wherever
blanks stand in between.
-/
namespace Topograph

namespace Text

/-- The second text is the first one with blanks put in anywhere. -/
inductive Interspersed : List Char → List Char → Prop where
  | done : Interspersed [] []
  | letter (c : Char) {cs ds : List Char} : Interspersed cs ds → Interspersed (c :: cs) (c :: ds)
  | blank {c : Char} {cs ds : List Char} : isBlank c = true → Interspersed cs ds →
    Interspersed cs (c :: ds)

theorem Interspersed.filter_eq {cs ds : List Char} (h : Interspersed cs ds) :
    ds.filter (fun c => !isBlank c) = cs.filter fun c => !isBlank c := by
  induction h with
  | done => rfl
  | letter c _ ih => simp only [List.filter_cons, ih]
  | blank blank _ ih => simp [blank, ih]

/-- Every text is the blanks in it put into the rest of it. -/
theorem Interspersed.filter (ds : List Char) : Interspersed (ds.filter fun c => !isBlank c) ds := by
  induction ds with
  | nil => exact .done
  | cons c rest ih =>
    rw [List.filter_cons]
    cases blank : isBlank c with
    | false => exact ih.letter c
    | true => exact ih.blank blank

/-- Where no character is blank, the blanks put in are all that is removed. -/
theorem Interspersed.removeBlanks {cs : List Char} {s : String} (h : Interspersed cs s.toList)
    (solid : ∀ c ∈ cs, isBlank c = false) : (removeBlanks s).toList = cs := by
  rw [Text.removeBlanks, String.toList_ofList, h.filter_eq, List.filter_eq_self]
  exact fun c hc => by rw [solid c hc, Bool.not_false]

end Text

namespace Codec.Base64

theorem isBlank_of_value? {c : Char} {n : Nat} (h : value? c = some n) :
    Text.isBlank c = false := by
  unfold value? at h
  simp only [Text.isBlank, Text.inRanges, Text.blankRanges, List.any_cons, List.any_nil] at h ⊢
  repeat' split at h
  all_goals cases h
  case isTrue.refl | isTrue.refl | isTrue.refl => simp; omega
  all_goals subst_vars; rfl

/-- No letter of a spelling is blank, and neither is an equals sign. -/
theorem Spells.isBlank_eq_false {cs : List Char} {bs : Bytes} (h : Spells cs bs) :
    ∀ c ∈ cs, Text.isBlank c = false := by
  have pad : Text.isBlank '=' = false := by decide
  induction h with
  | done => simp
  | one ha hb => simp [isBlank_of_value? ha, isBlank_of_value? hb, pad]
  | two ha hb hc => simp [isBlank_of_value? ha, isBlank_of_value? hb, isBlank_of_value? hc, pad]
  | three ha hb hc hd _ _ ih =>
    simp only [List.mem_cons]
    rintro q (rfl | rfl | rfl | rfl | hq)
    · exact isBlank_of_value? ha
    · exact isBlank_of_value? hb
    · exact isBlank_of_value? hc
    · exact isBlank_of_value? hd
    · exact ih q hq

end Codec.Base64

namespace Decoder

/-- The document that carries a file. -/
def document (file : Bytes) : Json :=
  .object [("file", .string (.ofChars (Codec.Base64.encode file))), ("action", .string "decode")]

/-- The document is read back from the body that it is written into. -/
theorem readBody?_document (headroom : Json.Headroom) (file : Bytes) :
    Json.readBody? headroom (Text.Utf8.encode (document file).write) =
      some (.ok (document file)) := by
  have settled : (document file).settled = document file := by
    rw [document, Json.settled_object (by simp) (by simp)]
    simp [Json.settled, Json.shownText_of_isOrdinary, RawText.isOrdinary_ofChars]
  have writable : (document file).IsWritable := ⟨trivial, trivial, trivial⟩
  have flat : (document file).depth ≤ 6 := by
    simp [document, Json.depth, Json.depthOfFields]
  have read := Json.readBody?_encode writable (headroom.fits flat)
  rw [← document, settled] at read
  exact read

/-- A text is decoded from any wrapping of its compressed octets in base64. -/
theorem decoded_encode {x text : String} {z : Bytes}
    (compressed : Codec.Compressed.decompress? z = some (Text.Utf8.encode x))
    (wrapped : Text.Interspersed (Codec.Base64.encode z) text.toList) :
    decoded (Text.Utf8.encode text) = .ok x := by
  have letters : (Text.removeBlanks text).toList = Codec.Base64.encode z :=
    wrapped.removeBlanks (Codec.Base64.spells_encode z).isBlank_eq_false
  rw [decoded, Text.Utf8.decode_encode, letters, Codec.Base64.decode?_encode]
  simp only [compressed, Text.Utf8.decode_encode]

/-- Every file can be sent, and whoever reads the body of the request finds the octets of the file
in it. Every text comes back from a success, whatever frame it is compressed in and wherever blanks
stand in the base64 of it. -/
theorem carries_files_and_texts {c : Client} {room : Nat} (acceptable : c.IsAcceptable room)
    (file : Bytes) :
    (∃ r v letters, request c file = .ok r ∧ r.payload = .json v ∧
      (∀ headroom, Json.readBody? headroom (Text.Utf8.encode v.write) = some (.ok v)) ∧
      v.get? "file" = some (.string (.ofChars letters)) ∧
      Codec.Base64.decode? letters = some file) ∧
    ∀ (x text : String) (z : Bytes) (status : Int),
      Codec.Compressed.decompress? z = some (Text.Utf8.encode x) →
      Text.Interspersed (Codec.Base64.encode z) text.toList → 200 ≤ status → status ≤ 299 →
      (Operation.decode file).perform c
        (fun _ => .answered status (Text.Utf8.encode text)) = .ok x := by
  obtain ⟨r, made⟩ := exists_decodeRequest acceptable file
  constructor
  · obtain ⟨-, payload, -⟩ := Client.payload_of_request made
    exact ⟨r, document file, _, made, payload,
      fun headroom => readBody?_document headroom file, rfl, Codec.Base64.decode?_encode file⟩
  · intro x text z status compressed wrapped least most
    have grants : Reply.isRefusal status = false :=
      Reply.isRefusal_eq_false_iff.mpr (.inl (by omega))
    have answered : readDecoded c (.answered status (Text.Utf8.encode text)) = .ok x := by
      rw [readDecoded, Reply.granted_of_not_isRefusal acceptable.namesHost _ grants, Except.bind,
        decoded_encode compressed wrapped]
    rw [Operation.perform, Operation.request, made, Except.bind, Operation.read, answered]
    rfl

/-- A decode service at a host of its own. -/
def reader : Client := .ofAddress .decoder "http://d" none

theorem isAcceptable_reader : reader.IsAcceptable 0 :=
  ⟨by decide, by decide, ⟨_, rfl, by decide⟩, by decide⟩

/-- A letter that is no ASCII comes back from lines that end within the padding, at a blank that is
no ASCII either. -/
theorem carries_files_and_texts_wrapped :
    (Operation.decode [0x00, 0xff]).perform reader (fun _ =>
      .answered 200 (Text.Utf8.encode "eJw7\u2003vBIA\r\nAjEB\tbQ=\u0085=\n")) = .ok "é" := by
  let z : Bytes := [0x78, 0x9c, 0x3b, 0xbc, 0x12, 0x00, 0x02, 0x31, 0x01, 0x6d]
  have compressed : Codec.Compressed.decompress? z = some (Text.Utf8.encode "é") := by
    decide +kernel
  have letters : Codec.Base64.encode z =
      "eJw7\u2003vBIA\r\nAjEB\tbQ=\u0085=\n".toList.filter fun c => !Text.isBlank c := by
    decide +kernel
  obtain ⟨-, carried⟩ := carries_files_and_texts isAcceptable_reader [0x00, 0xff]
  exact carried "é" _ z 200 compressed (letters ▸ Text.Interspersed.filter _) (by decide)
    (by decide)

end Decoder
end Topograph
