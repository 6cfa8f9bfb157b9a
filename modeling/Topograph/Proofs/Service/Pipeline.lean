import Topograph.Proofs.Codec.WholeFrame
import Topograph.Proofs.Service.Transport
import Topograph.Service.Pipeline

/-!
# The pipeline is all or nothing

The text of a file is sent to be converted just when the decode service answers with base64 of a
whole frame, and a conversion is returned just when the compiler then answers with its two parts.
Otherwise the first stage that fails decides the problem, and nothing but a problem can end it, save
an answer of the compiler that nests too deep.
-/
namespace Topograph

/-! ## Replies -/

namespace Reply

/-- An answer that succeeds or refuses, or none because the service is out of reach. -/
def IsScripted : Reply → Prop
  | answered status _ => (200 ≤ status ∧ status ≤ 299) ∨ (400 ≤ status ∧ status ≤ 599)
  | unreachable _ => True
  | broken _ => False

/-- The reply is a success with this body. -/
def Succeeds (r : Reply) (body : Bytes) : Prop :=
  ∃ status, r = .answered status body ∧ 200 ≤ status ∧ status ≤ 299

/-- What is wrong with a reply. A refusal keeps the status and the text of its answer, and `flawed`
says what is wrong with the body of a success. -/
inductive Fails (c : Client) (refusal : Int → Bytes → Except Failure RawText)
    (flawed : Bytes → Unusable → Prop) : Reply → Problem → Prop where
  | unreachable (reason : RawText) :
    Fails c refusal flawed (.unreachable reason) (.unreachable c.service c.address reason)
  | refused {status : Int} {body : Bytes} {message : RawText} : 400 ≤ status → status ≤ 599 →
    refusal status body = .ok message → Fails c refusal flawed (.answered status body)
      (.refused message status (Text.Utf8.decode body))
  | unusable {r : Reply} {body : Bytes} {what : Unusable} : r.Succeeds body → flawed body what →
    Fails c refusal flawed r (.unusable what)

theorem succeeds_answered_iff {status : Int} {body other : Bytes} :
    (answered status body).Succeeds other ↔ other = body ∧ 200 ≤ status ∧ status ≤ 299 := by
  constructor
  · rintro ⟨_, same, success⟩
    cases same
    exact ⟨rfl, success⟩
  · rintro ⟨rfl, success⟩
    exact ⟨status, rfl, success⟩

theorem not_succeeds_unreachable {reason : RawText} {body : Bytes} :
    ¬ (unreachable reason).Succeeds body := by
  rintro ⟨_, same, -⟩
  cases same

section
variable {c : Client} {refusal : Int → Bytes → Except Failure RawText}
  {flawed : Bytes → Unusable → Prop} {p : Problem}

theorem fails_unreachable_iff {reason : RawText} :
    Fails c refusal flawed (.unreachable reason) p ↔
      p = .unreachable c.service c.address reason := by
  constructor
  · intro h
    cases h with
    | unreachable => rfl
    | unusable success => exact absurd success not_succeeds_unreachable
  · rintro rfl
    exact .unreachable reason

theorem fails_of_refused {status : Int} {body : Bytes} (least : 400 ≤ status)
    (most : status ≤ 599) : Fails c refusal flawed (.answered status body) p ↔
      ∃ message, refusal status body = .ok message ∧
        p = .refused message status (Text.Utf8.decode body) := by
  constructor
  · intro h
    cases h with
    | refused _ _ worded => exact ⟨_, worded, rfl⟩
    | unusable success =>
      obtain ⟨-, -, low⟩ := succeeds_answered_iff.mp success
      omega
  · rintro ⟨message, worded, rfl⟩
    exact .refused least most worded

theorem granted_eq_error_iff {deep : Bytes → Prop} (host : c.namesHost = true)
    (words : ∀ status body f, refusal status body = .error f ↔ f = .tooDeep ∧ deep body)
    {status : Int} {body : Bytes} (least : 400 ≤ status) (most : status ≤ 599) {f : Failure} :
    (answered status body).granted c refusal = .error f ↔
      (∃ p, f = .problem p ∧ Fails c refusal flawed (.answered status body) p) ∨
        f = .tooDeep ∧ deep body := by
  have refuses := isRefusal_iff.mpr ⟨least, most⟩
  simp only [fails_of_refused least most, ← words status body f]
  cases worded : refusal status body with
  | ok message =>
    rw [granted_of_isRefusal host refusal refuses worded]
    simp [eq_comm]
  | error f' =>
    rw [granted_of_unworded host refusal refuses worded]
    simp

theorem fails_of_success {status : Int} {body : Bytes} (least : 200 ≤ status)
    (most : status ≤ 299) : Fails c refusal flawed (.answered status body) p ↔
      ∃ what, p = .unusable what ∧ flawed body what := by
  constructor
  · intro h
    cases h with
    | refused _ high => omega
    | unusable success flaw =>
      obtain ⟨rfl, -⟩ := succeeds_answered_iff.mp success
      exact ⟨_, rfl, flaw⟩
  · rintro ⟨what, rfl, flaw⟩
    exact .unusable (succeeds_answered_iff.mpr ⟨rfl, least, most⟩) flaw

end

section
variable {c : Client} (host : c.namesHost = true) {refusal : Int → Bytes → Except Failure RawText}
  {r : Reply} (scripted : r.IsScripted) {α : Type} {taken : Bytes → Except Failure α}
include host scripted

/-- Something is taken from the body of a success, and from nothing else. -/
theorem granted_bind_eq_ok_iff {a : α} : (r.granted c refusal).bind taken = .ok a ↔
    ∃ body, r.Succeeds body ∧ taken body = .ok a := by
  cases r with
  | answered status body =>
    simp only [succeeds_answered_iff]
    rcases scripted with ⟨least, most⟩ | ⟨least, most⟩
    · rw [granted_of_not_isRefusal host refusal (isRefusal_eq_false_iff.mpr (.inl (by omega)))]
      simp [Except.bind, least, most]
    · obtain ⟨f, refused⟩ :=
        exists_granted_of_isRefusal host refusal (isRefusal_iff.mpr ⟨least, most⟩) body
      rw [refused]
      simp only [Except.bind, reduceCtorEq, false_iff]
      omega
  | unreachable reason => simp [granted, Except.bind, not_succeeds_unreachable]
  | broken f => exact scripted.elim

theorem granted_bind_eq_error_iff {flawed : Bytes → Unusable → Prop} (deep : Bytes → Prop)
    (words : ∀ status body f, refusal status body = .error f ↔ f = .tooDeep ∧ deep body)
    (rejects : ∀ body f, taken body = .error f ↔
      (∃ what, f = .problem (.unusable what) ∧ flawed body what) ∨ f = .tooDeep ∧ deep body)
    {f : Failure} : (r.granted c refusal).bind taken = .error f ↔
      (∃ p, f = .problem p ∧ Fails c refusal flawed r p) ∨
        f = .tooDeep ∧ ∃ status body, r = .answered status body ∧ deep body := by
  cases r with
  | answered status body =>
    have sent : (∃ status' body', answered status body = answered status' body' ∧ deep body') ↔
        deep body := by simp
    rw [sent]
    rcases scripted with ⟨least, most⟩ | ⟨least, most⟩
    · rw [granted_of_not_isRefusal host refusal (isRefusal_eq_false_iff.mpr (.inl (by omega))),
        Except.bind, rejects]
      simp only [fails_of_success least most]
      constructor
      · rintro (⟨what, problem, flaw⟩ | nests)
        · exact .inl ⟨_, problem, what, rfl, flaw⟩
        · exact .inr nests
      · rintro (⟨_, problem, what, rfl, flaw⟩ | nests)
        · exact .inl ⟨what, problem, flaw⟩
        · exact .inr nests
    · rw [← granted_eq_error_iff host words least most]
      obtain ⟨f', refused⟩ :=
        exists_granted_of_isRefusal host refusal (isRefusal_iff.mpr ⟨least, most⟩) body
      rw [refused]
      simp only [Except.bind, Except.error.injEq]
  | unreachable reason =>
    simp only [granted, fails_unreachable_iff, Except.bind, exists_eq_right, Except.error.injEq,
      reduceCtorEq, false_and, exists_const, and_false, or_false, eq_comm]
  | broken f => exact scripted.elim

end
end Reply

/-! ## The decode service -/

namespace Decoder
open Codec

/-- The letters of a body, without its blanks. -/
def letters (body : Bytes) : List Char := (Text.removeBlanks (Text.Utf8.decode body)).toList

/-- The body is base64 of a whole frame with the octets of this text; what comes after the frame
does not count, and neither do equals signs after a full last group. -/
def Carries (body : Bytes) (xml : String) : Prop :=
  ∃ frame rest octets, Base64.Reads (letters body) (frame ++ rest) ∧
    Compressed.IsFrame frame octets ∧ xml = Text.Utf8.decode octets

/-- Why a body carries no text. -/
inductive Flawed (body : Bytes) : Unusable → Prop where
  | spelling : (∀ bs, ¬ Base64.Reads (letters body) bs) → Flawed body .encodedPayload
  | framing {bs : Bytes} : Base64.Reads (letters body) bs →
    (∀ frame rest octets, bs = frame ++ rest → ¬ Compressed.IsFrame frame octets) →
    Flawed body .compressedPayload

theorem carries_iff {body : Bytes} {xml : String} : Carries body xml ↔
    ∃ bs octets, Base64.decode? (letters body) = some bs ∧
      Compressed.decompress? bs = some octets ∧ xml = Text.Utf8.decode octets := by
  simp only [Base64.decode?_eq_some_iff, Compressed.decompress?_eq_some_iff]
  constructor
  · rintro ⟨frame, rest, octets, reads, whole, text⟩
    exact ⟨_, octets, reads, ⟨frame, rest, rfl, whole⟩, text⟩
  · rintro ⟨bs, octets, reads, ⟨frame, rest, rfl, whole⟩, text⟩
    exact ⟨frame, rest, octets, reads, whole, text⟩

theorem flawed_iff {body : Bytes} {what : Unusable} : Flawed body what ↔
    (Base64.decode? (letters body) = none ∧ what = .encodedPayload) ∨
    ∃ bs, Base64.decode? (letters body) = some bs ∧ Compressed.decompress? bs = none ∧
      what = .compressedPayload := by
  simp only [Option.eq_none_iff_forall_ne_some, Ne, Base64.decode?_eq_some_iff,
    Compressed.decompress?_eq_some_iff]
  constructor
  · intro h
    cases h with
    | spelling unread => exact .inl ⟨unread, rfl⟩
    | framing reads unframed =>
      refine .inr ⟨_, reads, ?_, rfl⟩
      rintro octets ⟨frame, rest, whole, isFrame⟩
      exact unframed frame rest octets whole isFrame
  · rintro (⟨unread, rfl⟩ | ⟨bs, reads, unframed, rfl⟩)
    · exact .spelling unread
    · exact .framing reads fun frame rest octets whole isFrame =>
        unframed octets ⟨frame, rest, whole, isFrame⟩

theorem decoded_eq_ok_iff {body : Bytes} {xml : String} :
    decoded body = .ok xml ↔ Carries body xml := by
  rw [carries_iff]
  unfold decoded letters
  cases Base64.decode? (Text.removeBlanks (Text.Utf8.decode body)).toList with
  | none => simp
  | some bs => cases framed : Compressed.decompress? bs <;> simp [framed, eq_comm]

theorem decoded_eq_error_iff {body : Bytes} {f : Failure} : decoded body = .error f ↔
    ∃ what, f = .problem (.unusable what) ∧ Flawed body what := by
  simp only [flawed_iff]
  unfold decoded letters
  cases Base64.decode? (Text.removeBlanks (Text.Utf8.decode body)).toList with
  | none => simp [eq_comm]
  | some bs => cases framed : Compressed.decompress? bs <;> simp [framed, eq_comm]

end Decoder

/-! ## The compiler -/

namespace Compiler

/-- The body is a document with a description that is not empty and with a graph. -/
def Tells (c : Client) (body : Bytes) (conversion : Conversion) : Prop :=
  ∃ v graph, c.document? body = .ok (some v) ∧ v.get? "dsl" = some (.string conversion.dsl) ∧
    conversion.dsl.isEmpty = false ∧ v.get? "react_flow" = some (.object graph) ∧
    conversion.topology = .ofGraph (.object graph)

/-- Why a body tells no conversion. -/
inductive Flawed (c : Client) (body : Bytes) : Unusable → Prop where
  | document : c.document? body = .ok none → Flawed c body .conversionJson
  | parts {v : Json} : c.document? body = .ok (some v) → (∀ conversion, ¬ Tells c body conversion) →
    Flawed c body .conversionData

theorem convertRefusal_eq_error_iff {c : Client} {status : Int} {body : Bytes} {f : Failure} :
    convertRefusal c status body = .error f ↔ f = .tooDeep ∧ c.Overflows body := by
  rw [← Client.document?_eq_error_iff, convertRefusal]
  cases c.document? body <;> simp [Except.map]

theorem bind_string?_eq_some_iff {v : Option Json} {s : RawText} :
    v.bind Json.string? = some s ↔ v = some (.string s) := by
  cases v with
  | none => simp
  | some w => cases w <;> simp [Json.string?]

theorem bind_object?_eq_some_iff {v : Option Json} {graph : Json} :
    v.bind Json.object? = some graph ↔
      ∃ fields, v = some (.object fields) ∧ graph = .object fields := by
  cases v with
  | none => simp
  | some w => cases w <;> simp [Json.object?, eq_comm]

variable {c : Client} {body : Bytes}

theorem converted_eq_ok_iff {conversion : Conversion} :
    converted c body = .ok conversion ↔ Tells c body conversion := by
  constructor
  · intro h
    unfold converted at h
    split at h
    · cases h
    · cases h
    · rename_i v read
      split at h
      · rename_i dsl graph description object
        obtain ⟨fields, found, rfl⟩ := bind_object?_eq_some_iff.mp object
        split at h
        · cases h
        · rename_i nonempty
          cases h
          exact ⟨v, fields, read, bind_string?_eq_some_iff.mp description,
            Bool.eq_false_of_not_eq_true nonempty, found, rfl⟩
      · cases h
  · rintro ⟨v, fields, read, description, nonempty, found, topology⟩
    obtain ⟨dsl, t⟩ := conversion
    have object := bind_object?_eq_some_iff.mpr ⟨fields, found, rfl⟩
    simp only [converted, read, bind_string?_eq_some_iff.mpr description, object]
    rw [if_neg (by simp [nonempty]), ← topology]

/-- A document that tells no conversion lacks one of the parts. -/
theorem converted_of_document? {v : Json} (read : c.document? body = .ok (some v)) :
    (∃ conversion, converted c body = .ok conversion) ∨
      converted c body = .error (.problem (.unusable .conversionData)) := by
  unfold converted
  rw [read]
  dsimp only
  split
  · split
    · exact .inr rfl
    · exact .inl ⟨_, rfl⟩
  · exact .inr rfl

theorem converted_eq_error_iff {f : Failure} : converted c body = .error f ↔
    (∃ what, f = .problem (.unusable what) ∧ Flawed c body what) ∨
      f = .tooDeep ∧ c.Overflows body := by
  constructor
  · intro h
    cases read : c.document? body with
    | error f' =>
      rw [converted, read] at h
      obtain rfl := Except.error.inj h
      exact .inr (Client.document?_eq_error_iff.mp read)
    | ok v? =>
      cases v? with
      | none =>
        rw [converted, read] at h
        cases h
        exact .inl ⟨_, rfl, .document read⟩
      | some v =>
        rcases converted_of_document? read with ⟨conversion, ok⟩ | error
        · rw [ok] at h
          cases h
        · have none : ∀ conversion, ¬ Tells c body conversion := by
            intro conversion tells
            rw [converted_eq_ok_iff.mpr tells] at h
            cases h
          rw [error] at h
          cases h
          exact .inl ⟨_, rfl, .parts read none⟩
  · rintro (⟨what, rfl, flawed⟩ | nests)
    · cases flawed with
      | document unread => rw [converted, unread]
      | parts read none =>
        rcases converted_of_document? read with ⟨conversion, ok⟩ | error
        · exact absurd (converted_eq_ok_iff.mp ok) (none conversion)
        · exact error
    · rw [converted, Client.document?_eq_error_iff.mpr nests]

end Compiler

/-! ## The whole -/

namespace Pipeline

/-- The decode service gives this text. -/
def Brings (first : Reply) (xml : String) : Prop :=
  ∃ body, first.Succeeds body ∧ Decoder.Carries body xml

/-- The compiler gives this conversion. -/
def Converts (compiler : Client) (second : Reply) (conversion : Conversion) : Prop :=
  ∃ body, second.Succeeds body ∧ Compiler.Tells compiler body conversion

/-- What is wrong with the reply of the decode service. -/
abbrev DecodingFails (decoder : Client) : Reply → Problem → Prop :=
  Reply.Fails decoder (fun status body => .ok (Decoder.refusal status body)) Decoder.Flawed

/-- What is wrong with the reply of the compiler. -/
abbrev ConvertingFails (compiler : Client) : Reply → Problem → Prop :=
  Reply.Fails compiler (Compiler.convertRefusal compiler) (Compiler.Flawed compiler)

/-- The problem of the first stage that fails. -/
inductive FailsFirst (decoder compiler : Client) (first second : Reply) (p : Problem) : Prop where
  | decoding : DecodingFails decoder first p → FailsFirst decoder compiler first second p
  | converting {xml : String} : Brings first xml → ConvertingFails compiler second p →
    FailsFirst decoder compiler first second p

section
variable {decoder compiler : Client} {first second : Reply} {p : Problem}

theorem failsFirst_iff_decoding (none : ∀ xml, ¬ Brings first xml) :
    FailsFirst decoder compiler first second p ↔ DecodingFails decoder first p := by
  constructor
  · intro h
    cases h with
    | decoding flaw => exact flaw
    | converting brought => exact absurd brought (none _)
  · exact .decoding

theorem failsFirst_iff_converting {xml : String} (brought : Brings first xml)
    (fine : ¬ DecodingFails decoder first p) :
    FailsFirst decoder compiler first second p ↔ ConvertingFails compiler second p := by
  constructor
  · intro h
    cases h with
    | decoding flaw => exact absurd flaw fine
    | converting _ flaw => exact flaw
  · exact .converting brought

end

theorem not_fitsIn_iff {c : Client} {r : Reply} : ¬ r.FitsIn c ↔
    ∃ status body, r = .answered status body ∧ c.Overflows body := by
  simp [Reply.FitsIn]

section
variable {c : Client} (host : c.namesHost = true) {r : Reply} (scripted : r.IsScripted)
include host scripted

theorem readDecoded_eq_ok_iff {xml : String} :
    Decoder.readDecoded c r = .ok xml ↔ Brings r xml := by
  rw [Decoder.readDecoded, Reply.granted_bind_eq_ok_iff host scripted]
  simp only [Decoder.decoded_eq_ok_iff, Brings]

theorem readDecoded_eq_error_iff {f : Failure} : Decoder.readDecoded c r = .error f ↔
    ∃ p, f = .problem p ∧ DecodingFails c r p := by
  rw [Decoder.readDecoded, Reply.granted_bind_eq_error_iff host scripted (fun _ => False)
    (by simp) fun body f => by rw [Decoder.decoded_eq_error_iff, and_false, or_false]]
  simp

theorem readConverted_eq_ok_iff {conversion : Conversion} :
    Compiler.readConverted c r = .ok conversion ↔ Converts c r conversion := by
  rw [Compiler.readConverted, Reply.granted_bind_eq_ok_iff host scripted]
  simp only [Compiler.converted_eq_ok_iff, Converts]

theorem readConverted_eq_error_iff {f : Failure} : Compiler.readConverted c r = .error f ↔
    (∃ p, f = .problem p ∧ ConvertingFails c r p) ∨ f = .tooDeep ∧ ¬ r.FitsIn c := by
  rw [not_fitsIn_iff, Compiler.readConverted]
  exact Reply.granted_bind_eq_error_iff host scripted c.Overflows
    (fun _ _ _ => Compiler.convertRefusal_eq_error_iff) fun _ _ => Compiler.converted_eq_error_iff

end

/-- Every text can be sent to be converted, and its octets are what the request carries. -/
theorem exists_upload {c : Client} (h : c.IsAcceptable "/api/convert".length) (xml : String) :
    ∃ r, Compiler.convertRequest c xml = .ok r ∧
      r.payload = .upload (Compiler.upload (Text.Utf8.encode xml)) := by
  obtain ⟨r, made⟩ := exists_convertRequest h le_rfl xml
  refine ⟨r, made, ?_⟩
  rw [Compiler.convertRequest, Text.Utf8.encode?, RawText.toString?_ofString] at made
  exact (Client.payload_of_request made).2.1

section
variable {decoder compiler : Client} {file : Bytes} {first : Reply} {ask : Request}
  (asked : Decoder.request decoder file = .ok ask)
include asked

/-- Without a text nothing more is sent. -/
theorem run_of_error {f : Failure} (h : Decoder.readDecoded decoder first = .error f)
    (second : Reply) : run decoder compiler file first second = ([ask], .error f) := by
  simp only [run, asked, h]

/-- With a text the second reply decides. -/
theorem run_of_ok {xml : String} (h : Decoder.readDecoded decoder first = .ok xml)
    {convert : Request} (made : Compiler.convertRequest compiler xml = .ok convert)
    (second : Reply) : run decoder compiler file first second =
      ([ask, convert], Compiler.readConverted compiler second) := by
  simp only [run, asked, h, made]

end

/-- The compiler is asked just when the decode service brings a text, and then for that text. A
conversion is returned just when the compiler tells one besides, and it is that one. In every other
case the pipeline ends with the problem of the first stage that fails, except that an answer of the
compiler that nests too deep ends it without a problem. -/
theorem all_or_nothing {decoder compiler : Client} (decodes : decoder.IsAcceptable 0)
    (converts : compiler.IsAcceptable "/api/convert".length) (file : Bytes) {first second : Reply}
    (replies : first.IsScripted ∧ second.IsScripted) :
    ∃ ask, Decoder.request decoder file = .ok ask ∧
      (∀ xml, Brings first xml → ∃ convert, Compiler.convertRequest compiler xml = .ok convert ∧
        convert.payload = .upload (Compiler.upload (Text.Utf8.encode xml)) ∧
        (run decoder compiler file first second).1 = [ask, convert]) ∧
      ((∀ xml, ¬ Brings first xml) → (run decoder compiler file first second).1 = [ask]) ∧
      (∀ c, (run decoder compiler file first second).2 = .ok c ↔
        (∃ xml, Brings first xml) ∧ Converts compiler second c) ∧
      ∀ f, (run decoder compiler file first second).2 = .error f ↔
        (∃ p, f = .problem p ∧ FailsFirst decoder compiler first second p) ∨
          f = .tooDeep ∧ (∃ xml, Brings first xml) ∧ ¬ second.FitsIn compiler := by
  obtain ⟨scripted, scripted'⟩ := replies
  obtain ⟨ask, asked⟩ := exists_decodeRequest decodes file
  have brings {xml : String} : Decoder.readDecoded decoder first = .ok xml ↔ Brings first xml :=
    readDecoded_eq_ok_iff decodes.namesHost scripted
  have fails {f : Failure} : Decoder.readDecoded decoder first = .error f ↔
      ∃ p, f = .problem p ∧ DecodingFails decoder first p :=
    readDecoded_eq_error_iff decodes.namesHost scripted
  refine ⟨ask, asked, ?_⟩
  cases decoded : Decoder.readDecoded decoder first with
  | error f =>
    have none : ∀ xml, ¬ Brings first xml := by
      intro xml h
      rw [brings.mpr h] at decoded
      cases decoded
    rw [run_of_error asked decoded]
    refine ⟨fun xml h => absurd h (none xml), fun _ => rfl, fun c => ?_, fun f' => ?_⟩
    · simp [none]
    · simp only [failsFirst_iff_decoding none, ← fails, decoded, Except.error.injEq, none,
        exists_false, false_and, and_false, or_false]
  | ok xml =>
    obtain ⟨convert, made, payload⟩ := exists_upload converts xml
    have brought : Brings first xml := brings.mp decoded
    have brought' : ∃ xml, Brings first xml := ⟨xml, brought⟩
    have fine : ∀ p, ¬ DecodingFails decoder first p := by
      intro p flaw
      rw [fails.mpr ⟨p, rfl, flaw⟩] at decoded
      cases decoded
    rw [run_of_ok asked decoded made]
    refine ⟨fun xml' h => ?_, fun h => absurd brought (h xml), fun c => ?_, fun f => ?_⟩
    · rw [brings.mpr h] at decoded
      cases decoded
      exact ⟨convert, made, payload, rfl⟩
    · rw [readConverted_eq_ok_iff converts.namesHost scripted', and_iff_right brought']
    · rw [readConverted_eq_error_iff converts.namesHost scripted', and_iff_right brought']
      simp only [failsFirst_iff_converting brought (fine _)]

/-- A compiler at a host of its own. -/
def converter : Client := .ofAddress .compiler "http://c" none

theorem isAcceptable_converter : converter.IsAcceptable "/api/convert".length :=
  ⟨by decide, by decide, ⟨_, rfl, by decide⟩, by decide⟩

/-- A success brings the text that its base64 holds. -/
theorem brings_of_letters {text xml : String} (bs octets : Bytes)
    (read : Codec.Base64.decode? (Text.removeBlanks text).toList = some bs)
    (inflated : Codec.Compressed.decompress? bs = some octets)
    (spelled : xml = Text.Utf8.decode octets) :
    Brings (.answered 200 (Text.Utf8.encode text)) xml := by
  refine ⟨_, ⟨200, rfl, by decide, by decide⟩, Decoder.carries_iff.mpr ⟨bs, octets, ?_⟩⟩
  rw [Decoder.letters, Text.Utf8.decode_encode]
  exact ⟨read, inflated, spelled⟩

/-- A decoded text is sent, and the refusal to convert it ends the pipeline. -/
theorem all_or_nothing_refused :
    ∃ ask convert, convert.payload = .upload (Compiler.upload [0xc3, 0xa9]) ∧
      run Decoder.reader converter [0x00, 0xff]
          (.answered 200 (Text.Utf8.encode "eJw7vBIA\nAjEBbQ=="))
          (.answered 422 (Text.Utf8.encode "no")) =
        ([ask, convert], .error (.problem (.refused "no" 422 "no"))) := by
  have brought : Brings (.answered 200 (Text.Utf8.encode "eJw7vBIA\nAjEBbQ==")) "é" := by
    refine brings_of_letters [0x78, 0x9c, 0x3b, 0xbc, 0x12, 0x00, 0x02, 0x31, 0x01, 0x6d]
      [0xc3, 0xa9] ?_ ?_ ?_ <;> decide +kernel
  have worded : Compiler.convertRefusal converter 422 (Text.Utf8.encode "no") = .ok "no" := by
    decide +kernel
  have refused : ConvertingFails converter (.answered 422 (Text.Utf8.encode "no"))
      (.refused "no" 422 (Text.Utf8.decode (Text.Utf8.encode "no"))) :=
    .refused (by decide) (by decide) worded
  rw [Text.Utf8.decode_encode] at refused
  have scripted : (Reply.answered 200 (Text.Utf8.encode "eJw7vBIA\nAjEBbQ==")).IsScripted ∧
      (Reply.answered 422 (Text.Utf8.encode "no")).IsScripted :=
    ⟨.inl ⟨by decide, by decide⟩, .inr ⟨by decide, by decide⟩⟩
  obtain ⟨ask, -, sent, -, -, ended⟩ :=
    all_or_nothing Decoder.isAcceptable_reader isAcceptable_converter [0x00, 0xff] scripted
  obtain ⟨convert, -, payload, requests⟩ := sent "é" brought
  have problem := (ended _).mpr (.inl ⟨_, rfl, .converting brought refused⟩)
  exact ⟨ask, convert, payload, Prod.ext requests problem⟩

/-- Base64 that is full without the equals sign after it. -/
def overpadded : Bytes := Text.Utf8.encode "eJwrSEypAAAEJwGu="

/-- Equals signs after a full last group are no part of strict base64, and still the text is sent to
be converted. -/
theorem not_strict : (∀ bs, ¬ Codec.Base64.Spells (Decoder.letters overpadded) bs) ∧
    ∃ ask convert, (run Decoder.reader converter [0x00, 0xff] (.answered 200 overpadded)
      (.unreachable "no route")).1 = [ask, convert] := by
  constructor
  · intro bs spells
    have length := spells.four_dvd_length
    rw [Decoder.letters, overpadded, Text.Utf8.decode_encode] at length
    revert length
    decide +kernel
  · have brought : Brings (.answered 200 overpadded) "padx" := by
      refine brings_of_letters [0x78, 0x9c, 0x2b, 0x48, 0x4c, 0xa9, 0x00, 0x00, 0x04, 0x27, 0x01,
        0xae] [0x70, 0x61, 0x64, 0x78] ?_ ?_ ?_ <;> decide +kernel
    have scripted : (Reply.answered 200 overpadded).IsScripted := .inl ⟨by decide, by decide⟩
    obtain ⟨ask, asked⟩ := exists_decodeRequest Decoder.isAcceptable_reader [0x00, 0xff]
    obtain ⟨convert, made, -⟩ := exists_upload isAcceptable_converter "padx"
    have read := (readDecoded_eq_ok_iff Decoder.isAcceptable_reader.namesHost scripted).mpr brought
    exact ⟨ask, convert, by rw [run_of_ok asked read made]⟩

end Pipeline
end Topograph
