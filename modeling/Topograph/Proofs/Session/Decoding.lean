import Topograph.Proofs.Service.Brought
import Topograph.Proofs.Session.Flight

/-!
# Decoding

What decoding leaves in a session is told by the outcome of the two services alone: their last
answer decides, whatever was there before and whatever was typed or edited meanwhile. While a reply
is missing, nothing is compiled and the canvas is empty.
-/
namespace Topograph

namespace Services

/-- What comes of a decoded text once the replies are there; none while one is missing. -/
def convertOutcome (v : Services) (xml : String) (replies : List Reply) :
    Option (Except Failure Conversion) :=
  match Compiler.convertRequest v.compiler xml with
  | .error f => some (.error f)
  | .ok _ => replies.head?.map (Compiler.readConverted v.compiler)

/-- What comes of a file once the replies are there; none while one is missing. -/
def decodeOutcome (v : Services) (file : Bytes) (replies : List Reply) :
    Option (Except Failure Conversion) :=
  match Decoder.request v.decoder file with
  | .error f => some (.error f)
  | .ok _ => replies.head?.bind fun r => match Decoder.readDecoded v.decoder r with
    | .error f => some (.error f)
    | .ok xml => v.convertOutcome xml replies.tail

theorem convertOutcome_of_request {v : Services} {xml : String} {r : Request}
    (h : Compiler.convertRequest v.compiler xml = .ok r) (replies : List Reply) :
    v.convertOutcome xml replies = replies.head?.map (Compiler.readConverted v.compiler) := by
  rw [convertOutcome, h]

theorem decodeOutcome_nil {v : Services} {file : Bytes} {r : Request}
    (h : Decoder.request v.decoder file = .ok r) : v.decodeOutcome file [] = none := by
  rw [decodeOutcome, h]
  rfl

theorem decodeOutcome_cons {v : Services} {file : Bytes} {r : Request}
    (h : Decoder.request v.decoder file = .ok r) (a : Reply) (rest : List Reply) :
    v.decodeOutcome file (a :: rest) = match Decoder.readDecoded v.decoder a with
      | .error f => some (.error f)
      | .ok xml => v.convertOutcome xml rest := by
  rw [decodeOutcome, h]
  rfl

end Services

namespace Session

/-- What decoding leaves in the session, by the outcome of the services. A failure that is not a
problem goes to the caller. -/
def Decoded : Option (Except Failure Conversion) → Session × Progress → Prop
  | none, (s, progress) => s.IsBare ∧ ∃ r p, progress = .waiting r p
  | some (.ok c), (s, progress) =>
    s.Shows c.dsl c.topology ∧ progress = .ended (.ok (.done true))
  | some (.error (.problem p)), (s, progress) =>
    s.IsBare ∧ s.dsl = "" ∧ s.error = some p.message ∧ progress = .ended (.ok (.done false))
  | some (.error f), (s, progress) => s.IsBare ∧ progress = .ended (.error f)

/-- What a decoding waits for, after these replies. -/
inductive DecodeWaits (v : Services) (file : Bytes) : List Reply → Pending → Prop where
  | decode {r : Request} : Decoder.request v.decoder file = .ok r → DecodeWaits v file [] .decode
  | convert {r r' : Request} {a : Reply} {xml : String} :
      Decoder.request v.decoder file = .ok r → Decoder.readDecoded v.decoder a = .ok xml →
      Compiler.convertRequest v.compiler xml = .ok r' → DecodeWaits v file [a] .convert

/-- The decoding is at the stage that these replies bring it to. -/
structure DecodeStage (v : Services) (file : Bytes) (replies : List Reply)
    (o : Session × Progress) : Prop where
  shown : Decoded (v.decodeOutcome file replies) o
  waits : ∀ s r p, o = (s, .waiting r p) →
    s.busy = true ∧ s.services = v ∧ DecodeWaits v file replies p

theorem decoded_fail {s : Session} (h : s.IsBare) (f : Failure) :
    Decoded (some (.error f)) (s.fail f clear (.done false)) := by
  cases f with
  | problem p => exact ⟨⟨rfl, rfl⟩, rfl, rfl, rfl⟩
  | _ => exact ⟨⟨h.compiled, h.editor⟩, rfl⟩

theorem DecodeStage.of_ended {v : Services} {file : Bytes} {replies : List Reply}
    {o : Session × Progress} (h : Decoded (v.decodeOutcome file replies) o)
    (ended : ∃ result, o.2 = .ended result) : DecodeStage v file replies o where
  shown := h
  waits s r p waiting := absurd waiting (ne_waiting_of_ended ended s r p)

theorem decodeStage_fail {v : Services} {file : Bytes} {replies : List Reply} {f : Failure}
    (h : v.decodeOutcome file replies = some (.error f)) {s : Session} (bare : s.IsBare) :
    DecodeStage v file replies (s.fail f clear (.done false)) := by
  apply DecodeStage.of_ended
  · rw [h]
    exact decoded_fail bare f
  · exact ended_fail s f clear (.done false)

theorem decodeStage_start (s : Session) (file : ChosenFile) :
    DecodeStage s.services file.content [] (s.occupy.startDecode file) := by
  unfold startDecode await
  cases request : Decoder.request s.occupy.services.decoder file.content with
  | error f =>
    have same : Decoder.request s.services.decoder file.content = .error f := request
    have outcome : s.services.decodeOutcome file.content [] = some (.error f) := by
      rw [Services.decodeOutcome, same]
    exact decodeStage_fail outcome (isBare_clear _)
  | ok r =>
    have same : Decoder.request s.services.decoder file.content = .ok r := request
    constructor
    · rw [Services.decodeOutcome_nil same]
      exact ⟨isBare_clear _, r, .decode, rfl⟩
    · rintro u r' p ⟨⟩
      exact ⟨rfl, rfl, .decode same⟩

theorem DecodeWaits.outcome {v : Services} {file : Bytes} {replies : List Reply} {p : Pending}
    (h : DecodeWaits v file replies p) : v.decodeOutcome file replies = none := by
  cases h with
  | decode request => exact Services.decodeOutcome_nil request
  | convert request decoded convert =>
    rw [Services.decodeOutcome_cons request, decoded]
    exact Services.convertOutcome_of_request convert []

theorem DecodeStage.isBare {v : Services} {file : Bytes} {replies : List Reply} {s : Session}
    {r : Request} {p : Pending} (h : DecodeStage v file replies (s, .waiting r p)) :
    s.IsBare := by
  obtain ⟨-, -, waits⟩ := h.waits s r p rfl
  have shown := h.shown
  rw [waits.outcome] at shown
  exact shown.1

theorem decodeStage_beside {v : Services} {file : Bytes} {replies : List Reply} {s : Session}
    {r : Request} {p : Pending} (h : DecodeStage v file replies (s, .waiting r p))
    (i : Interlude) : DecodeStage v file replies (s.interlude i, .waiting r p) := by
  obtain ⟨busy, services, waits⟩ := h.waits s r p rfl
  have bare := h.isBare
  have beside := beside_interlude busy i
  constructor
  · rw [waits.outcome]
    exact ⟨⟨beside.compiled.trans bare.compiled, beside.clear bare.editor⟩, r, p, rfl⟩
  · rintro u r' p' ⟨⟩
    exact ⟨beside.busy, beside.services.trans services, waits⟩

/-- The decoded text arrives, or the reason why there is none. -/
theorem decodeStage_decoded {v : Services} {file : Bytes} {s : Session} {r : Request}
    (hs : s.services = v) (busy : s.busy = true) (bare : s.IsBare)
    (request : Decoder.request v.decoder file = .ok r) (a : Reply) :
    DecodeStage v file [a] (s.resume .decode a) := by
  subst hs
  have outcome := Services.decodeOutcome_cons request a []
  unfold resume
  cases decoded : Decoder.readDecoded s.services.decoder a with
  | error f =>
    rw [decoded] at outcome
    exact decodeStage_fail outcome bare
  | ok xml =>
    cases convert : Compiler.convertRequest s.services.compiler xml with
    | error f =>
      rw [decoded] at outcome
      simp only [Services.convertOutcome, convert] at outcome
      simp only [await, convert]
      exact decodeStage_fail outcome bare
    | ok r' =>
      have waits : DecodeWaits s.services file [a] .convert := .convert request decoded convert
      simp only [await, convert]
      constructor
      · rw [waits.outcome]
        exact ⟨bare, r', .convert, rfl⟩
      · rintro u r'' p ⟨⟩
        exact ⟨busy, rfl, waits⟩

/-- The conversion arrives, or the reason why there is none. -/
theorem decodeStage_converted {v : Services} {file : Bytes} {s : Session} {a : Reply}
    (hs : s.services = v) (bare : s.IsBare) (waits : DecodeWaits v file [a] .convert)
    (b : Reply) : DecodeStage v file [a, b] (s.resume .convert b) := by
  subst hs
  have outcome : s.services.decodeOutcome file [a, b] =
      some (Compiler.readConverted s.services.compiler b) := by
    cases waits with
    | convert request decoded convert =>
      rw [Services.decodeOutcome_cons request, decoded]
      exact Services.convertOutcome_of_request convert [b]
  unfold resume
  cases converted : Compiler.readConverted s.services.compiler b with
  | error f =>
    rw [converted] at outcome
    exact decodeStage_fail outcome bare
  | ok c =>
    have writable := Compiler.isWritable_of_readConverted converted
    simp only [finishInstall_install s c.dsl writable]
    apply DecodeStage.of_ended
    · rw [outcome, converted]
      exact ⟨shows_of_editor writable rfl rfl rfl, rfl⟩
    · exact ⟨_, rfl⟩

theorem decodeStage_reply {v : Services} {file : Bytes} {replies : List Reply} {s : Session}
    {r : Request} {p : Pending} (h : DecodeStage v file replies (s, .waiting r p)) (a : Reply) :
    DecodeStage v file (replies ++ [a]) (s.resume p a) := by
  obtain ⟨busy, services, waits⟩ := h.waits s r p rfl
  cases waits with
  | decode request => exact decodeStage_decoded services busy h.isBare request a
  | convert request decoded convert =>
    exact decodeStage_converted services h.isBare (.convert request decoded convert) a

/-- A decoding in flight is at the stage of the replies that have arrived. -/
theorem decodeStage_flight {s : Session} {file : ChosenFile} {hs : List Happening}
    {o : Session × Progress} (h : Flight (s.occupy.startDecode file) hs o) :
    DecodeStage s.services file.content (Happening.replies hs) o := by
  induction h with
  | start => exact decodeStage_start s file
  | beside i _ ih =>
    rw [Happening.replies_beside]
    exact decodeStage_beside ih i
  | reply a _ ih =>
    rw [Happening.replies_reply]
    exact decodeStage_reply ih a

end Session
end Topograph
