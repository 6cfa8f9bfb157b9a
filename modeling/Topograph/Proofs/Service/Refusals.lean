import Topograph.Proofs.Service.Told
import Topograph.Service.Compiler
import Topograph.Service.Decoder
import Topograph.Snippet.Listing

/-!
# Which answers refuse

Six operations ask a service for something and read what it answers. Each reads a status from 400
to 599 as a refusal and words it from the status and the body; it reads the body of any other
answer, and then the body may be unusable. The line is drawn at 400 and not at 300, so that a hint
or a redirection passes for success: it is enough for a snippet to leave the listing. A document
that nests too deep is no refusal and not unusable either: where it is read, the operation ends with
a failure of its own, whatever the status was.
-/
namespace Topograph

/-- What a client does with its service. -/
inductive Operation where
  | compile (dsl : RawText)
  | convert (xml : RawText)
  | decode (file : Bytes)
  | list
  | create (d : Draft)
  | delete (id : Int)

namespace Operation

/-- What an operation brings. -/
def Result : Operation → Type
  | .compile _ => Topology
  | .convert _ => Conversion
  | .decode _ => String
  | .list => List Snippet
  | .create _ => Snippet
  | .delete _ => Unit

def request (c : Client) : Operation → Except Failure Request
  | .compile dsl => Compiler.compileRequest c dsl
  | .convert xml => Compiler.convertRequest c xml
  | .decode file => Decoder.request c file
  | .list => Store.listRequest c
  | .create d => Store.createRequest c d
  | .delete id => Store.deleteRequest c id

/-- What the operation makes of a reply. -/
def read (c : Client) (reply : Reply) : (o : Operation) → Except Failure o.Result
  | .compile _ => Compiler.readCompiled c reply
  | .convert _ => Compiler.readConverted c reply
  | .decode _ => Decoder.readDecoded c reply
  | .list => Store.readList c reply
  | .create _ => Store.readCreated c reply
  | .delete _ => Store.readDeleted c reply

/-- Make the request, and read what `serve` replies to it. -/
def perform (c : Client) (serve : Request → Reply) (o : Operation) : Except Failure o.Result :=
  (o.request c).bind fun r => o.read c (serve r)

/-- The message of a refusal. -/
def refusal (c : Client) : Operation → Int → Bytes → Except Failure RawText
  | .compile _ => fun status body => .ok (Compiler.compileRefusal status body)
  | .convert _ => Compiler.convertRefusal c
  | .decode _ => fun status body => .ok (Decoder.refusal status body)
  | .list | .create _ | .delete _ => Store.refusal c

/-- What the body of an answer brings that refuses nothing. -/
def taken (c : Client) : (o : Operation) → Bytes → Except Failure o.Result
  | .compile _ => Compiler.compiled c
  | .convert _ => Compiler.converted c
  | .decode _ => Decoder.decoded
  | .list => Store.checked .snippetList (Validation.Checked.list (Validation.snippet .document))
  | .create _ => Store.checked .snippet (Validation.snippet .document)
  | .delete _ => fun _ => .ok ()

/-- The message of a refusal is looked for in a document. -/
def refusesByDocument : Operation → Bool
  | .compile _ | .decode _ => false
  | .convert _ | .list | .create _ | .delete _ => true

/-- What is brought is looked for in a document that need not keep to the strict rules, which have
a limit of their own. -/
def bringsByDocument : Operation → Bool
  | .compile _ | .convert _ => true
  | .decode _ | .list | .create _ | .delete _ => false

/-- Every operation looks at the status first, in the same way. -/
theorem read_eq (c : Client) (reply : Reply) (o : Operation) :
    o.read c reply = (reply.granted c (o.refusal c)).bind (o.taken c) := by
  cases o with
  | delete id =>
    change (reply.granted c (Store.refusal c)).map (fun _ => ()) = _
    rw [refusal]
    cases reply.granted c (Store.refusal c) <;> rfl
  | _ => rfl

theorem perform_eq {c : Client} {o : Operation} {r : Request} (made : o.request c = .ok r)
    (serve : Request → Reply) :
    o.perform c serve = ((serve r).granted c (o.refusal c)).bind (o.taken c) := by
  rw [perform, made, ← read_eq]
  rfl

section
variable {c : Client} {o : Operation} {body : Bytes}

/-- A refusal has a message, unless it is looked for in a document that nests too deep. -/
theorem exists_refusal (fits : ¬ (o.refusesByDocument = true ∧ c.Overflows body)) (status : Int) :
    ∃ message, o.refusal c status body = .ok message := by
  cases o with
  | compile dsl | decode file => exact ⟨_, rfl⟩
  | convert xml => exact Compiler.exists_convertRefusal (fun deep => fits ⟨rfl, deep⟩) status
  | list | create d | delete id => exact Store.exists_refusal (fun deep => fits ⟨rfl, deep⟩) status

theorem refusal_of_overflows (byDocument : o.refusesByDocument = true) (deep : c.Overflows body)
    (status : Int) : o.refusal c status body = .error .tooDeep := by
  cases o with
  | compile dsl | decode file => cases byDocument
  | convert xml =>
    rw [refusal, Compiler.convertRefusal, show c.document? body = .error .tooDeep from deep]
    rfl
  | list | create d | delete id =>
    rw [refusal, Store.refusal, show c.document? body = .error .tooDeep from deep]
    rfl

/-- A body that refuses nothing is unusable at worst, or it is a document that nests too deep. -/
theorem unusable_of_taken {f : Failure} (h : o.taken c body = .error f) :
    (∃ what, f = .problem (.unusable what)) ∨
      o.bringsByDocument = true ∧ c.Overflows body ∧ f = .tooDeep := by
  have checked {α : Type} {what : Unusable} {rule : Json → Validation.Checked α}
      (h : Store.checked what rule body = .error f) : f = .problem (.unusable what) := by
    unfold Store.checked at h
    split at h <;> cases h
    rfl
  have stopped (unread : c.document? body = .error f) : c.Overflows body ∧ f = .tooDeep := by
    obtain ⟨deep, overflows⟩ := Client.document?_eq_error_iff.mp unread
    exact ⟨overflows, deep⟩
  cases o with
  | compile dsl | convert xml =>
    simp only [taken, Compiler.compiled, Compiler.converted] at h
    split at h
    · rename_i unread
      cases h
      exact .inr ⟨rfl, stopped unread⟩
    all_goals
      repeat' split at h
      all_goals cases h
      all_goals exact .inl ⟨_, rfl⟩
  | decode file =>
    simp only [taken, Decoder.decoded] at h
    repeat' split at h
    all_goals cases h
    all_goals exact .inl ⟨_, rfl⟩
  | list => exact .inl ⟨_, checked h⟩
  | create d => exact .inl ⟨_, checked h⟩
  | delete id => cases h

end

end Operation

/-! ## Deletions -/

/-- A problem is made by the client that reads a reply. If the service broke down, it did so with
another failure. -/
def Reply.IsGenuine (reply : Reply) : Prop := ∀ f, reply = .broken f → ∀ p, f ≠ .problem p

/-- The store has answered, with 404 and a body that can be read or with a status that refuses
nothing. -/
def Reply.letsGo (c : Client) : Reply → Bool
  | .answered status body => (status == 404 && !decide (c.Overflows body)) || !isRefusal status
  | .unreachable _ | .broken _ => false

theorem Reply.letsGo_iff {c : Client} (reply : Reply) : reply.letsGo c = true ↔ ∃ status body,
    reply = .answered status body ∧
      (status = 404 ∧ ¬ c.Overflows body ∨ status < 400 ∨ 599 < status) := by
  cases reply with
  | answered status body => simp [letsGo, isRefusal_eq_false_iff]
  | _ => simp [letsGo]

namespace Listing

/-- Delete a snippet: ask the store, and patch the listing by what it replies. -/
def delete (l : Listing) (c : Client) (id : Int) (serve : Request → Reply) : Outcome Listing Unit :=
  match Store.deleteRequest c id with
  | .ok r => l.deleted c id (serve r)
  | .error f => (l, .error f)

variable {c : Client} (l : Listing) (id : Int)

theorem deleted_failed {reply : Reply} {f : Failure}
    (failed : Store.readDeleted c reply = .error f) :
    (l.deleted c id reply).1 = if isGone f then l.filter fun s => s.id != id else l := by
  simp only [deleted, failed]
  cases isGone f <;> rfl

theorem isGone_refused (message : RawText) (status : Int) (text : String) :
    isGone (.problem (.refused message status text)) = (status == 404) := by
  by_cases gone : status = 404
  · subst gone
    rfl
  · have other : isGone (.problem (.refused message status text)) = false := by
      unfold isGone
      split
      · rename_i same
        cases same
        exact absurd rfl gone
      · rfl
    rw [other, beq_eq_false_iff_ne.mpr gone]

theorem isGone_of_no_problem {f : Failure} (h : ∀ p, f ≠ .problem p) : isGone f = false := by
  unfold isGone
  split
  · exact absurd rfl (h _)
  · rfl

/-- The listing after a refusal. -/
theorem deleted_fst_of_isRefusal (host : c.namesHost = true) {status : Int} {body : Bytes}
    (refusing : Reply.isRefusal status = true) : (l.deleted c id (.answered status body)).1 =
      if (Reply.answered status body).letsGo c then l.filter fun s => s.id != id else l := by
  have letsGo : (Reply.answered status body).letsGo c =
      (status == 404 && !decide (c.Overflows body)) := by
    rw [Reply.letsGo, refusing, Bool.not_true, Bool.or_false]
  rw [letsGo]
  by_cases deep : c.Overflows body
  · have unworded : Store.refusal c status body = .error .tooDeep :=
      Operation.refusal_of_overflows (o := .delete id) rfl deep status
    have read : Store.readDeleted c (.answered status body) = .error .tooDeep := by
      rw [Store.readDeleted, Reply.granted_of_unworded host _ refusing unworded]
      rfl
    rw [deleted_failed l id read, decide_eq_true deep, Bool.not_true, Bool.and_false]
    rfl
  · obtain ⟨message, worded⟩ := Store.exists_refusal deep status
    have read : Store.readDeleted c (.answered status body) =
        .error (.problem (.refused message status (Text.Utf8.decode body))) := by
      rw [Store.readDeleted, Reply.granted_of_isRefusal host _ refusing worded]
      rfl
    rw [deleted_failed l id read, isGone_refused, decide_eq_false deep, Bool.not_false,
      Bool.and_true]

/-- The listing after a reply to a deletion. -/
theorem deleted_fst (host : c.namesHost = true) {reply : Reply} (genuine : reply.IsGenuine) :
    (l.deleted c id reply).1 = if reply.letsGo c then l.filter fun s => s.id != id else l := by
  cases reply with
  | answered status body =>
    cases refusing : Reply.isRefusal status with
    | true => exact deleted_fst_of_isRefusal l id host refusing
    | false =>
      have read : Store.readDeleted c (.answered status body) = .ok () := by
        rw [Store.readDeleted, Reply.granted_of_not_isRefusal host _ refusing]
        rfl
      simp only [deleted, read, Reply.letsGo, refusing, Bool.not_false, Bool.or_true, if_true]
  | unreachable reason =>
    have failed : Store.readDeleted c (.unreachable reason) =
        .error (.problem (.unreachable c.service c.address reason)) := rfl
    exact deleted_failed l id failed
  | broken f =>
    have failed : Store.readDeleted c (.broken f) = .error f := rfl
    rw [deleted_failed l id failed, isGone_of_no_problem (genuine f rfl)]
    rfl

theorem deleted_answered (host : c.namesHost = true) {status : Int} {body : Bytes}
    (gone : status = 404 ∧ ¬ c.Overflows body ∨ status < 400 ∨ 599 < status) :
    (l.deleted c id (.answered status body)).1 = l.filter fun s => s.id != id := by
  have letsGo := (Reply.letsGo_iff (c := c) (.answered status body)).mpr ⟨_, _, rfl, gone⟩
  rw [deleted_fst l id host fun _ => Reply.noConfusion, if_pos letsGo]

/-- A snippet that the store does not have counts as deleted. -/
theorem deleted_notFound (host : c.namesHost = true) {body : Bytes} (fits : ¬ c.Overflows body) :
    l.deleted c id (.answered 404 body) = (l.filter fun s => s.id != id, .ok ()) := by
  obtain ⟨message, worded⟩ := Store.exists_refusal fits 404
  have read : Store.readDeleted c (.answered 404 body) =
      .error (.problem (.refused message 404 (Text.Utf8.decode body))) := by
    rw [Store.readDeleted, Reply.granted_of_isRefusal host _ (by decide) worded]
    rfl
  simp only [deleted, read, isGone_refused, beq_self_eq_true, if_true]

/-- What leaves the listing is what was to be deleted, when the store has let it go. -/
theorem not_mem_delete_iff (host : c.namesHost = true) {serve : Request → Reply}
    (genuine : ∀ r, (serve r).IsGenuine) {s : Snippet} (hs : s ∈ l) :
    s ∉ (l.delete c id serve).1 ↔
      s.id = id ∧ ∃ r, Store.deleteRequest c id = .ok r ∧ (serve r).letsGo c = true := by
  unfold delete
  cases made : Store.deleteRequest c id with
  | error f => simp [hs]
  | ok r =>
    simp only [deleted_fst l id host (genuine r), Except.ok.injEq, exists_eq_left']
    cases (serve r).letsGo c <;> simp [hs]

end Listing

/-- An answer is reported as a refusal, with its status and its text, exactly if the status is from
400 to 599, unless the message is looked for in a document that nests too deep: then the operation
ends with that failure, which is none that users are told about. Any other status, a redirection as
well, makes no difference: the operation goes by the body alone, and if it fails, then because that
is unusable or nests too deep. A snippet leaves the listing only by its own deletion, and as soon as
the store has answered with 404 and a body that can be read, or with a status that is not from 400
to 599. -/
theorem Client.refused_by_status {c : Client} (host : c.namesHost = true) :
    (∀ (o : Operation) (serve : Request → Reply) (r : Request) (status : Int) (body : Bytes),
      o.request c = .ok r → serve r = .answered status body →
        (400 ≤ status ∧ status ≤ 599 →
          (¬ (o.refusesByDocument = true ∧ c.Overflows body) → ∃ message,
            o.refusal c status body = .ok message ∧ o.perform c serve =
              .error (.problem (.refused message status (Text.Utf8.decode body)))) ∧
          (o.refusesByDocument = true ∧ c.Overflows body →
            o.perform c serve = .error .tooDeep)) ∧
        (status < 400 ∨ 599 < status → o.perform c serve = o.taken c body ∧
          ∀ f, o.perform c serve = .error f → (∃ what, f = .problem (.unusable what)) ∨
            o.bringsByDocument = true ∧ c.Overflows body ∧ f = .tooDeep)) ∧
    ∀ (l : Listing) (id : Int) (serve : Request → Reply), (∀ r, (serve r).IsGenuine) →
      ∀ s ∈ l, s ∉ (l.delete c id serve).1 ↔ s.id = id ∧ ∃ r status body,
        Store.deleteRequest c id = .ok r ∧ serve r = .answered status body ∧
        (status = 404 ∧ ¬ c.Overflows body ∨ status < 400 ∨ 599 < status) := by
  constructor
  · intro o serve r status body made answer
    rw [o.perform_eq made, answer]
    constructor
    · intro refusing
      have refuses := Reply.isRefusal_iff.mpr refusing
      constructor
      · intro fits
        obtain ⟨message, worded⟩ := Operation.exists_refusal fits status
        rw [Reply.granted_of_isRefusal host _ refuses worded]
        exact ⟨message, worded, rfl⟩
      · rintro ⟨byDocument, deep⟩
        have unworded := Operation.refusal_of_overflows byDocument deep status
        rw [Reply.granted_of_unworded host _ refuses unworded]
        rfl
    · intro other
      rw [Reply.granted_of_not_isRefusal host _ (Reply.isRefusal_eq_false_iff.mpr other)]
      exact ⟨rfl, fun f failed => Operation.unusable_of_taken failed⟩
  · intro l id serve genuine s hs
    rw [Listing.not_mem_delete_iff l id host genuine hs]
    simp only [Reply.letsGo_iff, exists_and_left]

/-- A store at a host of its own. -/
def Client.depot : Client := .ofAddress .store "http://s" none

def Snippet.lab : Snippet where
  id := 7
  title := "lab"
  content := ""
  createdAt :=
    { date := ⟨2024, 5, 1, by decide⟩, clock := ⟨10, 0, 0, 0, by decide⟩, offset := none }

/-- A body that opens a thousand brackets. -/
def Client.brackets : Bytes := Text.Utf8.encode (String.ofList (List.replicate 1000 '['))

theorem Client.overflows_depot : depot.Overflows brackets :=
  overflows_brackets (show 900 < 1000 by decide)

/-- The deletion of a snippet is redirected elsewhere, and passes for done; when the store is
unavailable, it does not; and when the store says so with a thousand brackets, it ends with another
failure. -/
theorem Client.refused_by_status_redirected : Client.depot.namesHost = true ∧
    Operation.perform .depot (fun _ => .answered 302 []) (.delete 7) = .ok () ∧
    Operation.perform .depot (fun _ => .answered 503 Client.brackets) (.delete 7) =
      .error .tooDeep ∧
    Snippet.lab ∉ (Listing.delete [.lab] .depot 7 fun _ => .answered 302 []).1 ∧
    Snippet.lab ∈ (Listing.delete [.lab] .depot 7 fun _ => .answered 503 []).1 := by
  have acceptable : Client.depot.IsAcceptable Store.longestPath :=
    ⟨by decide, by decide, ⟨_, rfl, by decide⟩, by decide⟩
  have host := acceptable.namesHost
  have writable : Number.IsWritable 7 := Number.isWritable_of_isWord (by decide)
  obtain ⟨r, made⟩ := exists_deleteRequest acceptable le_rfl writable
  obtain ⟨performed, left⟩ := Client.refused_by_status host
  obtain ⟨-, taken⟩ := performed (.delete 7) (fun _ => .answered 302 []) r 302 [] made rfl
  obtain ⟨refused, -⟩ :=
    performed (.delete 7) (fun _ => .answered 503 Client.brackets) r 503 _ made rfl
  have dropped (status : Int) := left [.lab] 7 (fun _ => .answered status [])
    (fun _ _ => Reply.noConfusion) .lab List.mem_cons_self
  refine ⟨host, (taken (by decide)).1, ?_, (dropped 302).mpr ?_, ?_⟩
  · exact (refused (by decide)).2 ⟨rfl, overflows_depot⟩
  · exact ⟨rfl, r, 302, [], made, rfl, by decide⟩
  · by_contra gone
    obtain ⟨-, r', status, body, -, same, letsGo⟩ := (dropped 503).mp gone
    cases same
    rcases letsGo with ⟨notFound, -⟩ | other
    · exact absurd notFound (by decide)
    · exact absurd other (by decide)

end Topograph
