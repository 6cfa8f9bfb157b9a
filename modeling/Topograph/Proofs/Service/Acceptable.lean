import Topograph.Proofs.Address.Appended
import Topograph.Proofs.Json.BodyText
import Topograph.Proofs.Json.Openings
import Topograph.Service.Exchange

/-!
# Clients that can make requests

A client is acceptable if its token can stand in a header and its address names a host and is not
too long for a path behind it. Such a client makes every request whose payload can be written as
octets, and takes every answer.
-/
namespace Topograph

theorem RawText.shown_append (s t : RawText) : (s ++ t).shown = s.shown ++ t.shown := by
  change String.ofList ((s.letters ++ t.letters).map Letter.shown) = _
  rw [List.map_append, String.ofList_append]
  rfl

theorem RawText.isOrdinary_append (s t : RawText) :
    (s ++ t).isOrdinary = (s.isOrdinary && t.isOrdinary) := List.all_append

theorem RawText.shown_ofString (s : String) : (RawText.ofString s).shown = s := by
  rw [RawText.shown, RawText.shownChars_ofString, String.ofList_toList]

namespace Client

/-- The client can ask for paths of up to `room` characters. -/
structure IsAcceptable (c : Client) (room : Nat) : Prop where
  token : ∀ t, c.token = some t → t.toList.all (fun ch => ch.toNat < 0x80) = true
  ordinary : c.address.isOrdinary = true
  address : ∃ a, Address.read? c.address.shown = some a ∧ a.isAbsolute = true
  fits : c.address.shown.length + room ≤ Address.lengthLimit

theorem IsAcceptable.tokenHeader {c : Client} {room : Nat} (h : c.IsAcceptable room) :
    ∃ header, c.tokenHeader = .ok header := by
  unfold Client.tokenHeader
  split
  case h_1 => exact ⟨_, rfl⟩
  case h_2 t ht =>
    split
    · exact ⟨_, rfl⟩
    · rw [if_pos (h.token t ht)]
      exact ⟨_, rfl⟩

theorem ofText_eq_ok {s : RawText} {a : Address} (h : Address.read? s.shown = some a)
    (ordinary : s.isOrdinary = true) : Address.ofText s = .ok a := by
  rw [Address.ofText, h]
  exact if_pos ordinary

theorem IsAcceptable.namesHost {c : Client} {room : Nat} (h : c.IsAcceptable room) :
    c.namesHost = true := by
  obtain ⟨a, ha, absolute⟩ := h.address
  rw [Client.namesHost, ofText_eq_ok ha h.ordinary]
  exact absolute

/-- A request carries its payload, which can be written as octets. -/
theorem payload_of_request {c : Client} {m : Method} {path : String} {payload : Payload}
    {r : Request} (h : c.request m path payload = .ok r) :
    r.method = m ∧ r.payload = payload ∧ payload.isOrdinary = true := by
  unfold Client.request at h
  cases header : c.tokenHeader with
  | error f =>
    rw [header] at h
    cases h
  | ok token =>
    cases place : Address.ofText (c.address ++ .ofString path) with
    | error f =>
      rw [header, place] at h
      cases h
    | ok address =>
      cases ordinary : payload.isOrdinary with
      | false =>
        rw [header, place, ordinary] at h
        cases h
      | true =>
        rw [header, place, ordinary] at h
        obtain rfl := Except.ok.inj h
        exact ⟨rfl, rfl, rfl⟩

/-- A request goes to the address that the path is read at, if its payload can be written. -/
theorem request_eq {c : Client} {room : Nat} (h : c.IsAcceptable room) (m : Method)
    {path : String} {a : Address} (ha : Address.read? (c.address.shown ++ path) = some a)
    (absolute : a.isAbsolute = true) (payload : Payload) :
    ∃ authorization, c.request m path payload = if payload.isOrdinary then
      .ok ⟨c.service, m, a, authorization, payload⟩ else .error .unpaired := by
  obtain ⟨header, hheader⟩ := h.tokenHeader
  have htext : Address.ofText (c.address ++ .ofString path) = .ok a := by
    apply ofText_eq_ok
    · rw [RawText.shown_append, RawText.shown_ofString, ha]
    · rw [RawText.isOrdinary_append, h.ordinary, RawText.isOrdinary_ofString]
      rfl
  have hrequest : a.forRequest = a := if_pos absolute
  refine ⟨(a.credentials?.map userHeader).orElse fun _ => header, ?_⟩
  simp only [Client.request, hheader, htext, hrequest, bind, Except.bind, pure, Except.pure]

theorem request_eq_ok {c : Client} {room : Nat} (h : c.IsAcceptable room) (m : Method)
    {path : String} {a : Address} (ha : Address.read? (c.address.shown ++ path) = some a)
    (absolute : a.isAbsolute = true) {payload : Payload} (ordinary : payload.isOrdinary = true) :
    ∃ authorization,
      c.request m path payload = .ok ⟨c.service, m, a, authorization, payload⟩ := by
  obtain ⟨authorization, made⟩ := request_eq h m ha absolute payload
  exact ⟨authorization, made.trans (if_pos ordinary)⟩

/-- A request is made for every path there is room for. -/
theorem IsAcceptable.request {c : Client} {room : Nat} (h : c.IsAcceptable room) (m : Method)
    {path : String} (rooted : ∀ ch ∈ path.toList.head?, ch = '/')
    (control : path.toList.any Address.isControl = false) (length : path.length ≤ room)
    {payload : Payload} (ordinary : payload.isOrdinary = true) :
    ∃ r, c.request m path payload = .ok r := by
  obtain ⟨a, ha, absolute⟩ := h.address
  obtain ⟨b, hb, named⟩ :=
    Address.exists_read?_append ha absolute rooted control (by have := h.fits; omega)
  obtain ⟨authorization, hrequest⟩ := request_eq_ok h m hb named ordinary
  exact ⟨_, hrequest⟩

/-! ## Documents in answers -/

/-- The body is a document that nests too deep for the client. -/
def Overflows (c : Client) (body : Bytes) : Prop := c.document? body = .error .tooDeep

instance (c : Client) (body : Bytes) : Decidable (c.Overflows body) :=
  inferInstanceAs (Decidable (_ = _))

/-- Nothing else can go wrong. -/
theorem document?_eq_error_iff {c : Client} {body : Bytes} {f : Failure} :
    c.document? body = .error f ↔ f = .tooDeep ∧ c.Overflows body := by
  constructor
  · intro h
    have deep : f = .tooDeep := by
      unfold document? at h
      split at h <;> cases h
      rfl
    rw [deep] at h
    exact ⟨deep, h⟩
  · rintro ⟨rfl, overflows⟩
    exact overflows

theorem exists_document? {c : Client} {body : Bytes} (fits : ¬ c.Overflows body) :
    ∃ v?, c.document? body = .ok v? := by
  cases read : c.document? body with
  | ok v? => exact ⟨v?, rfl⟩
  | error f => exact absurd (document?_eq_error_iff.mp read).2 fits

/-- A shallow object that was written into a body is found there. -/
theorem not_overflows_encode (c : Client) {f : RawText × Json} {fields : List (RawText × Json)}
    (writable : (Json.object (f :: fields)).IsWritable)
    (shallow : (Json.object (f :: fields)).depth ≤ 6) :
    ¬ c.Overflows (Text.Utf8.encode (Json.write (.object (f :: fields)))) := by
  have read := Json.readBody?_encode writable (c.headroom.fits shallow)
  rw [Overflows, document?, read]
  exact nofun

/-- A body overflows only if its text opens more arrays and objects than there is headroom for. -/
theorem Overflows.lt_openings {c : Client} {body : Bytes} (h : c.Overflows body) :
    ∃ s, Json.bodyText? body = some s ∧ c.headroom.levels < Json.Reader.openings s.letters := by
  unfold Overflows document? at h
  split at h
  · cases h
  · rename_i read
    obtain ⟨s, text, deep⟩ := Option.map_eq_some_iff.mp read
    exact ⟨s, text, Json.lt_openings_of_read deep⟩
  · cases h

theorem overflows_brackets {c : Client} {n : Nat} (many : c.headroom.levels < n) :
    c.Overflows (Text.Utf8.encode (String.ofList (List.replicate n '['))) := by
  rw [Overflows, document?, Json.readBody?_brackets many]

theorem document?_eq_some_iff {c : Client} {body : Bytes} {v : Json} :
    c.document? body = .ok (some v) ↔ Json.readBody? c.headroom body = some (.ok v) := by
  unfold document?
  split <;> simp_all

end Client

namespace Reply

theorem isRefusal_iff {status : Int} : isRefusal status = true ↔ 400 ≤ status ∧ status ≤ 599 := by
  simp [isRefusal]

theorem isRefusal_eq_false_iff {status : Int} :
    isRefusal status = false ↔ status < 400 ∨ 599 < status := by
  rw [← Bool.not_eq_true, isRefusal_iff]
  omega

section
variable {c : Client} (host : c.namesHost = true) (refusal : Int → Bytes → Except Failure RawText)
  {status : Int}
include host

theorem granted_of_isRefusal (h : isRefusal status = true) {body : Bytes} {message : RawText}
    (worded : refusal status body = .ok message) :
    (answered status body).granted c refusal =
      .error (.problem (.refused message status (Text.Utf8.decode body))) := by
  rw [granted, host, h]
  simp only [Bool.not_true, Bool.false_eq_true, if_false, if_true, worded]

theorem granted_of_unworded (h : isRefusal status = true) {body : Bytes} {f : Failure}
    (unworded : refusal status body = .error f) :
    (answered status body).granted c refusal = .error f := by
  rw [granted, host, h]
  simp only [Bool.not_true, Bool.false_eq_true, if_false, if_true, unworded]

theorem exists_granted_of_isRefusal (h : isRefusal status = true) (body : Bytes) :
    ∃ f, (answered status body).granted c refusal = .error f := by
  cases worded : refusal status body with
  | ok message => exact ⟨_, granted_of_isRefusal host refusal h worded⟩
  | error f => exact ⟨_, granted_of_unworded host refusal h worded⟩

theorem granted_of_not_isRefusal (h : isRefusal status = false) (body : Bytes) :
    (answered status body).granted c refusal = .ok body := by
  rw [granted, host, h]
  rfl

end

end Reply
end Topograph
