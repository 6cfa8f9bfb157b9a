import Topograph.Proofs.Service.Told
import Topograph.Proofs.Session.OneFlight

/-!
# How commands end

No failure of a service gets past the session. Whatever is answered, and if nothing is, a command
ends with an answer and releases the busy flag; its message is empty exactly when it has succeeded.
This holds in every state of a run, as long as the services can be asked at all: addresses that
name a host, tokens that a header can carry, and texts without halves that stand alone. Documents
that nest too deep are left out.
-/
namespace Topograph

/-- The services can be asked everything that a session asks them. -/
structure Services.AreAcceptable (v : Services) : Prop where
  compiler : v.compiler.IsAcceptable "/api/convert".length
  decoder : v.decoder.IsAcceptable 0
  store : v.store.IsAcceptable Store.longestPath

/-- The texts that a session may send have no half that stands alone. -/
structure Session.IsSendable (s : Session) : Prop where
  dsl : s.dsl.isOrdinary = true
  title : s.title.isOrdinary = true
  compiled : ∀ t, s.compiled = some t → t.isOrdinary = true

/-- What a command itself brings can be sent. -/
def Command.IsSendable : Command → Prop
  | .save (some title) => title.isOrdinary = true
  | .deleteSnippet id => Number.IsWritable id
  | _ => True

/-- What a command opens does not nest too deep. -/
def Command.FitsIn (v : Services) : Command → Prop
  | .openSnippet snippet => Json.read v.store.headroom snippet.content ≠ .error .tooDeep
  | _ => True

/-- The reply comes from outside, and no document in it nests too deep. -/
structure Reply.IsFair (v : Services) (r : Reply) : Prop where
  outside : r.IsOutside
  compiler : r.FitsIn v.compiler
  store : r.FitsIn v.store

theorem isFair_exhausted (v : Services) : Turn.exhausted.reply.IsFair v where
  outside := fun _ => Reply.noConfusion
  compiler := fun _ _ => Reply.noConfusion
  store := fun _ _ => Reply.noConfusion

namespace Session

/-- The answer of a command that has succeeded, where `fetched` is what the store lists. -/
def Succeeded (fetched : Except Failure (List Snippet)) (u : Session) (a : Answer) :
    Command → Prop
  | .save _ => ∃ snippet, a = .saved (some snippet)
  | .refresh => ∃ snippets, fetched = .ok snippets ∧ u.listing = Listing.newestFirst snippets ∧
      a = .listed u.listing
  | _ => a = .done true

/-- The answer of a command that has failed, where `old` was listed before. -/
def Failed (fetched : Except Failure (List Snippet)) (old : Listing) (u : Session) (a : Answer) :
    Command → Prop
  | .save _ => a = .saved none
  | .refresh => (∃ f, fetched = .error f) ∧ u.listing = old ∧ a = .listed old
  | _ => a = .done false

theorem not_succeeded_of_failed {fetched : Except Failure (List Snippet)} {old : Listing}
    {u : Session} {a : Answer} {c : Command} (h : Failed fetched old u a c) :
    ¬ Succeeded fetched u a c := by
  intro succeeded
  cases c with
  | save title =>
    obtain ⟨snippet, saved⟩ := succeeded
    cases h.symm.trans saved
  | refresh =>
    obtain ⟨snippets, listed, -⟩ := succeeded
    obtain ⟨⟨f, unlisted⟩, -⟩ := h
    cases unlisted.symm.trans listed
  | _ => cases Eq.trans (Eq.symm h) succeeded

/-- A command has ended: the flag is released, and there is a message exactly if it has failed. -/
structure Concludes (c : Command) (fetched : Except Failure (List Snippet)) (old : Listing)
    (u : Session) (a : Answer) : Prop where
  released : u.busy = false
  outcome : u.error = none ∧ Succeeded fetched u a c ∨
    ∃ message, u.error = some message ∧ message.isEmpty = false ∧ Failed fetched old u a c

/-- What holds while a command waits: nothing has gone wrong so far. -/
structure InFlight (v : Services) (old : Listing) (s : Session) : Prop where
  busy : s.busy = true
  error : s.error = none
  services : s.services = v
  listing : s.listing = old

/-- What each command waits for. -/
inductive Awaits : Command → Pending → Prop where
  | decode : Awaits .decode .decode
  | convert : Awaits .decode .convert
  | compile : Awaits .compile .compile
  | save (title : Option RawText) : Awaits (.save title) .save
  | refresh : Awaits .refresh .refresh
  | deleteSnippet (id : Int) : Awaits (.deleteSnippet id) (.deleteSnippet id)

/-- A command with the turns it has left. The first of these tells what a refresh lists. -/
inductive Stage (v : Services) (c : Command) (fetched : Except Failure (List Snippet))
    (old : Listing) : Session × Progress → List Turn → Prop where
  | ended {u : Session} {a : Answer} {turns : List Turn} :
    Concludes c fetched old u a → Stage v c fetched old (u, .ended (.ok a)) turns
  | waiting {s : Session} {r : Request} {p : Pending} {turns : List Turn} :
    InFlight v old s → Awaits c p →
    (c = .refresh → Store.readList v.store (turns.headD .exhausted).reply = fetched) →
    Stage v c fetched old (s, .waiting r p) turns

/-! ## Failures and interludes -/

/-- A way to fall back leaves the message, the listing and the services alone. -/
def Spares (fallback : Session → Session) : Prop := ∀ s,
  (fallback s).error = s.error ∧ (fallback s).listing = s.listing ∧
    (fallback s).services = s.services

theorem spares_id : Spares id := fun _ => ⟨rfl, rfl, rfl⟩

theorem spares_clear : Spares clear := fun _ => ⟨rfl, rfl, rfl⟩

theorem spares_clearGraph : Spares clearGraph := fun _ => ⟨rfl, rfl, rfl⟩

section
variable {v : Services} {c : Command} {fetched : Except Failure (List Snippet)} {old : Listing}

theorem stage_fail (s : Session) {f : Failure} (told : f.IsTold) {fallback : Session → Session}
    (spares : Spares fallback) {a : Answer} (turns : List Turn)
    (failed : ∀ u : Session, u.listing = s.listing → Failed fetched old u a c) :
    Stage v c fetched old (s.fail f fallback a) turns := by
  obtain ⟨p, rfl, nonempty⟩ := told
  obtain ⟨error, listing, -⟩ := spares { s with error := some p.message }
  apply Stage.ended
  constructor
  · rfl
  · right
    exact ⟨p.message, error, nonempty, failed _ listing⟩

theorem inFlight_gesture {s : Session} (h : InFlight v old s) (g : Gesture) :
    InFlight v old (s.gesture g) := by
  cases g with
  | chooseFile file =>
    rw [gesture, chooseFile, if_pos h.busy]
    exact h
  | dismissError => exact ⟨h.busy, rfl, h.services, h.listing⟩
  | _ => exact ⟨h.busy, h.error, h.services, h.listing⟩

theorem inFlight_interludes {s : Session} (h : InFlight v old s) (is : List Interlude) :
    InFlight v old (is.foldl interlude s) := by
  induction is generalizing s with
  | nil => exact h
  | cons i rest ih =>
    apply ih
    rcases interlude_cases h.busy i with ⟨g, same, -⟩ | ⟨same, -⟩
    · rw [same]
      exact inFlight_gesture h g
    · rw [same]
      exact h

/-! ## Replies -/

theorem stage_finishInstall {s : Session} (h : s.error = none) (dsl : RawText) {t : Topology}
    (writable : t.IsWritable) (turns : List Turn)
    (succeeded : ∀ u : Session, Succeeded fetched u (.done true) c) :
    Stage v c fetched old (finishInstall (s.install dsl t)) turns := by
  rw [finishInstall_install s dsl writable]
  apply Stage.ended
  constructor
  · rfl
  · left
    exact ⟨h, succeeded _⟩

theorem stage_finishListing {α : Type} {s : Session} (h : s.error = none) {o : Outcome Listing α}
    (tells : Tells o.2) {good : α → Answer} {bad : Answer} (turns : List Turn)
    (succeeded : ∀ a, o.2 = .ok a → ∀ u : Session, u.listing = o.1 →
      Succeeded fetched u (good a) c)
    (failed : ∀ f, o.2 = .error f → ∀ u : Session, u.listing = o.1 →
      Failed fetched old u bad c) :
    Stage v c fetched old (s.finishListing o good bad) turns := by
  unfold finishListing
  cases result : o.2 with
  | ok a =>
    apply Stage.ended
    constructor
    · rfl
    · left
      exact ⟨h, succeeded a result _ rfl⟩
  | error f => exact stage_fail _ (tells f result) spares_id turns (failed f result)

section
variable {client : Client} {room : Nat} (acceptable : client.IsAcceptable room) {reply : Reply}
  (outside : reply.IsOutside) (fits : reply.FitsIn client) (l : Listing)
include acceptable outside fits

theorem tells_saved : Tells (l.saved client reply).2 := by
  unfold Listing.saved
  cases created : Store.readCreated client reply with
  | ok snippet => exact tells_ok snippet
  | error f =>
    intro e he
    obtain rfl := Except.error.inj he
    exact tells_readCreated acceptable outside fits f created

theorem tells_listed : Tells (l.listed client reply).2 := by
  unfold Listing.listed
  cases listed : Store.readList client reply with
  | ok snippets => exact tells_ok (Listing.newestFirst snippets)
  | error f =>
    intro e he
    obtain rfl := Except.error.inj he
    exact tells_readList acceptable outside fits f listed

theorem tells_deleted (id : Int) : Tells (l.deleted client id reply).2 := by
  unfold Listing.deleted
  cases deleted : Store.readDeleted client reply with
  | ok done => exact tells_ok ()
  | error f =>
    simp only
    split
    · exact tells_ok ()
    · intro e he
      obtain rfl := Except.error.inj he
      exact tells_readDeleted acceptable outside fits f deleted

end

/-- One turn brings a command to its end, or to the conversion of what was decoded. -/
theorem stage_resume (acceptable : v.AreAcceptable) {s : Session} (h : InFlight v old s)
    {p : Pending} (awaits : Awaits c p) {reply : Reply} (fair : reply.IsFair v)
    (lists : c = .refresh → Store.readList v.store reply = fetched) (turns : List Turn) :
    Stage v c fetched old (s.resume p reply) turns := by
  obtain ⟨busy, error, rfl, rfl⟩ := h
  cases awaits with
  | decode =>
    rw [resume]
    cases decoded : Decoder.readDecoded s.services.decoder reply with
    | error f =>
      have told := tells_readDecoded acceptable.decoder fair.outside f decoded
      exact stage_fail s told spares_clear turns fun _ _ => rfl
    | ok xml =>
      obtain ⟨r, sent⟩ := exists_convertRequest acceptable.compiler le_rfl xml
      simp only [await, sent]
      exact .waiting ⟨busy, error, rfl, rfl⟩ .convert fun refresh => by cases refresh
  | convert =>
    rw [resume]
    cases converted : Compiler.readConverted s.services.compiler reply with
    | error f =>
      have told := tells_readConverted acceptable.compiler fair.outside fair.compiler f converted
      exact stage_fail s told spares_clear turns fun _ _ => rfl
    | ok conversion =>
      have writable := Compiler.isWritable_of_readConverted converted
      exact stage_finishInstall error conversion.dsl writable turns fun _ => rfl
  | compile =>
    rw [resume]
    cases compiled : Compiler.readCompiled s.services.compiler reply with
    | error f =>
      have told := tells_readCompiled acceptable.compiler fair.outside fair.compiler f compiled
      exact stage_fail s told spares_clearGraph turns fun _ _ => rfl
    | ok t =>
      have writable := Compiler.isWritable_of_readCompiled compiled
      exact stage_finishInstall error s.dsl writable turns fun _ => rfl
  | save title =>
    rw [resume]
    have tells := tells_saved acceptable.store fair.outside fair.store s.listing
    apply stage_finishListing error tells turns
    · exact fun snippet _ _ _ => ⟨snippet, rfl⟩
    · exact fun _ _ _ _ => rfl
  | refresh =>
    rw [resume]
    have tells := tells_listed acceptable.store fair.outside fair.store s.listing
    apply stage_finishListing error tells turns
    · intro snippets brought u listing
      rw [Listing.listed] at brought listing
      cases read : Store.readList s.services.store reply with
      | error f =>
        rw [read] at brought
        cases brought
      | ok fresh =>
        rw [read] at brought listing
        obtain rfl := Except.ok.inj brought
        exact ⟨fresh, (lists rfl).symm.trans read, listing, congrArg _ listing.symm⟩
    · intro f unread u listing
      rw [Listing.listed] at unread listing
      cases read : Store.readList s.services.store reply with
      | error e =>
        rw [read] at listing
        exact ⟨⟨e, (lists rfl).symm.trans read⟩, listing, rfl⟩
      | ok fresh =>
        rw [read] at unread
        cases unread
  | deleteSnippet id =>
    rw [resume]
    have tells := tells_deleted acceptable.store fair.outside fair.store s.listing id
    apply stage_finishListing error tells turns
    · exact fun _ _ _ _ => rfl
    · exact fun _ _ _ _ => rfl

/-! ## Starting -/

theorem stage_await {s : Session} (h : InFlight v old s) {request : Except Failure Request}
    (tells : Tells request) {p : Pending} (awaits : Awaits c p) {fallback : Session → Session}
    (spares : Spares fallback) {a : Answer} (turns : List Turn)
    (failed : ∀ f, request = .error f → ∀ u : Session, Failed fetched old u a c)
    (lists : c = .refresh → Store.readList v.store (turns.headD .exhausted).reply = fetched) :
    Stage v c fetched old (s.await request p fallback a) turns := by
  cases result : request with
  | ok r => exact .waiting h awaits lists
  | error f => exact stage_fail s (tells f result) spares turns fun u _ => failed f result u

theorem tells_of_ok {α : Type} {x : Except Failure α} (h : ∃ a, x = .ok a) : Tells x := by
  obtain ⟨a, rfl⟩ := h
  exact tells_ok a

theorem tells_parse {headroom : Json.Headroom} {content : RawText}
    (fits : Json.read headroom content ≠ .error .tooDeep) :
    Tells (Envelope.parse headroom content) := by
  unfold Envelope.parse
  split
  · contradiction
  · exact tells_problem (isEmpty_unusable _)
  · split
    · exact tells_ok _
    · exact tells_problem (isEmpty_unusable _)

theorem stage_openSnippet {s : Session} (h : s.error = none) {snippet : Snippet}
    (fits : (Command.openSnippet snippet).FitsIn s.services) (turns : List Turn) :
    Stage v (.openSnippet snippet) fetched old (s.openSnippet snippet) turns := by
  unfold openSnippet
  cases parsed : Envelope.parse s.services.store.headroom snippet.content with
  | error f => exact stage_fail s (tells_parse fits f parsed) spares_id turns fun _ _ => rfl
  | ok parts =>
    obtain ⟨dsl, t⟩ := parts
    have writable := Envelope.isWritable_of_parse parsed
    simp only [install_of_isWritable s dsl writable]
    exact .ended ⟨rfl, .inl ⟨h, rfl⟩⟩

end

/-- A command that has something to work on waits for a service, or has ended. -/
theorem stage_work {s : Session} (acceptable : s.services.AreAcceptable) (busy : s.busy = true)
    (error : s.error = none) (sendable : s.IsSendable)
    (writable : ∀ t, s.compiled = some t → t.IsWritable) {c : Command} (own : c.IsSendable)
    (fits : c.FitsIn s.services) (works : s.isIdle c = false) (turns : List Turn) :
    Stage s.services c (Store.readList s.services.store (turns.headD .exhausted).reply) s.listing
      (s.work c) turns := by
  have flight : InFlight s.services s.listing s := ⟨busy, error, rfl, rfl⟩
  cases c with
  | decode =>
    cases chosen : s.file with
    | none => simp [isIdle, chosen] at works
    | some file =>
      have sent := exists_decodeRequest acceptable.decoder file.content
      have cleared : InFlight s.services s.listing s.clear := ⟨busy, error, rfl, rfl⟩
      simp only [work, chosen]
      apply stage_await cleared (tells_of_ok sent) .decode spares_clear turns
      · exact fun _ _ _ => rfl
      · exact fun _ => rfl
  | compile =>
    have sent := exists_compileRequest acceptable.compiler (by decide) works sendable.dsl
    apply stage_await flight (tells_of_ok sent) .compile spares_clearGraph turns
    · exact fun _ _ _ => rfl
    · exact fun _ => rfl
  | save title =>
    have topology : (s.compiled.getD {}).IsWritable ∧ (s.compiled.getD {}).isOrdinary = true := by
      cases compiled : s.compiled with
      | none => exact ⟨⟨by simp, by simp⟩, rfl⟩
      | some t => exact ⟨writable t compiled, sendable.compiled t compiled⟩
    have sent := tells_saveRequest acceptable.store le_rfl sendable.title sendable.dsl topology.1
      topology.2
    apply stage_await flight sent (.save title) spares_id turns
    · exact fun _ _ _ => rfl
    · exact fun _ => rfl
  | refresh =>
    obtain ⟨r, sent⟩ := exists_listRequest acceptable.store le_rfl
    apply stage_await flight (tells_of_ok ⟨r, sent⟩) .refresh spares_id turns
    · intro f unsent
      cases sent.symm.trans unsent
    · exact fun _ => rfl
  | deleteSnippet id =>
    have sent := exists_deleteRequest acceptable.store le_rfl own
    rw [work, startDelete]
    apply stage_await flight (tells_of_ok sent) (.deleteSnippet id) spares_id turns
    · exact fun _ _ _ => rfl
    · exact fun _ => rfl
  | openSnippet snippet => exact stage_openSnippet error fits turns

theorem start_of_isIdle {s : Session} {c : Command} (h : s.isIdle c = true) :
    s.start c = (s, .ended (.ok (.done false))) := by
  cases c with
  | decode => exact if_pos h
  | compile => exact if_pos h
  | _ => cases h

theorem isSendable_prepare {s : Session} (h : s.IsSendable) {c : Command} (own : c.IsSendable) :
    (s.prepare c).IsSendable := by
  cases c with
  | save title =>
    cases title with
    | none => exact h
    | some title => exact ⟨h.dsl, own, h.compiled⟩
  | _ => exact h

theorem stage_start {s : Session} (acceptable : s.services.AreAcceptable) (free : s.busy = false)
    (sendable : s.IsSendable) (writable : ∀ t, s.compiled = some t → t.IsWritable) {c : Command}
    (own : c.IsSendable) (fits : c.FitsIn s.services) (works : s.isIdle c = false)
    (turns : List Turn) :
    Stage s.services c (Store.readList s.services.store (turns.headD .exhausted).reply) s.listing
      (s.start c) turns := by
  have ready := isSendable_prepare sendable own
  have works' : (s.prepare c).isIdle c = false := by rw [isIdle_prepare, works]
  rw [start_of_free free works]
  rcases prepare_cases s c with same | ⟨title, same⟩
  · rw [same] at ready works' ⊢
    exact stage_work (s := s.occupy) acceptable rfl rfl ⟨ready.dsl, ready.title, ready.compiled⟩
      writable own fits works' turns
  · rw [same] at ready works' ⊢
    exact stage_work (s := (s.setTitle title).occupy) acceptable rfl rfl
      ⟨ready.dsl, ready.title, ready.compiled⟩ writable own fits works' turns

/-- Served to its end, a command concludes. -/
theorem concludes_conduct {v : Services} (acceptable : v.AreAcceptable) {c : Command}
    {fetched : Except Failure (List Snippet)} {old : Listing} {o : Session × Progress}
    {turns : List Turn} (stage : Stage v c fetched old o turns)
    (fair : ∀ t ∈ turns, t.reply.IsFair v) :
    ∃ u a, conduct o turns = (u, .ok a) ∧ Concludes c fetched old u a := by
  -- Decoding takes two turns, so the stage must speak of those that are left.
  induction o, turns using conduct.induct with
  | case1 s result turns =>
    cases stage with
    | ended concludes => exact ⟨_, _, conduct_ended _ _ _, concludes⟩
  | case2 s r p turns ih =>
    cases stage with
    | waiting flight awaits lists =>
      rw [conduct_waiting]
      apply ih
      · apply stage_resume acceptable (inFlight_interludes flight _) awaits _ lists
        cases turns with
        | nil => exact isFair_exhausted v
        | cons t turns => exact fair t List.mem_cons_self
      · exact fun t ht => fair t (List.mem_of_mem_tail ht)

/-! ## Services stay where they are -/

theorem services_fail (s : Session) (f : Failure) {fallback : Session → Session}
    (spares : Spares fallback) (a : Answer) : (s.fail f fallback a).1.services = s.services := by
  cases f with
  | problem p =>
    obtain ⟨-, -, services⟩ := spares { s with error := some p.message }
    exact services
  | _ => rfl

theorem services_await (s : Session) (request : Except Failure Request) (p : Pending)
    {fallback : Session → Session} (spares : Spares fallback) (a : Answer) :
    (s.await request p fallback a).1.services = s.services := by
  cases request with
  | ok r => rfl
  | error f => exact services_fail s f spares a

theorem services_finishListing {α : Type} (s : Session) (o : Outcome Listing α)
    (good : α → Answer) (bad : Answer) : (s.finishListing o good bad).1.services = s.services := by
  unfold finishListing
  cases o.2 with
  | ok a => rfl
  | error f => exact services_fail _ f spares_id bad

theorem services_openSnippet (s : Session) (snippet : Snippet) :
    (s.openSnippet snippet).1.services = s.services := by
  unfold openSnippet
  cases parsed : Envelope.parse s.services.store.headroom snippet.content with
  | error f => exact services_fail s f spares_id _
  | ok parts =>
    obtain ⟨dsl, t⟩ := parts
    simp only [install_of_isWritable s dsl (Envelope.isWritable_of_parse parsed)]
    rfl

theorem services_work (s : Session) (c : Command) : (s.work c).1.services = s.services := by
  cases c with
  | decode =>
    cases chosen : s.file with
    | none =>
      simp only [work, chosen]
      rfl
    | some file =>
      simp only [work, chosen]
      exact services_await s.clear _ _ spares_clear _
  | compile => exact services_await s _ _ spares_clearGraph _
  | save title => exact services_await s _ _ spares_id _
  | refresh => exact services_await s _ _ spares_id _
  | deleteSnippet id =>
    rw [work, startDelete]
    exact services_await s _ _ spares_id _
  | openSnippet snippet => exact services_openSnippet s snippet

theorem services_prepare (s : Session) (c : Command) : (s.prepare c).services = s.services := by
  rcases prepare_cases s c with same | ⟨title, same⟩
  · rw [same]
  · rw [same]
    rfl

theorem services_start (s : Session) (c : Command) : (s.start c).1.services = s.services := by
  unfold start
  simp only
  split
  · exact services_prepare s c
  · split
    · exact services_prepare s c
    · exact (services_work _ c).trans (services_prepare s c)

theorem services_resume (s : Session) (p : Pending) (r : Reply) :
    (s.resume p r).1.services = s.services := by
  cases p with
  | decode =>
    rw [resume]
    split
    · exact services_await s _ _ spares_clear _
    · exact services_fail s _ spares_clear _
  | convert =>
    rw [resume]
    split
    · rfl
    · exact services_fail s _ spares_clear _
  | compile =>
    rw [resume]
    split
    · rfl
    · exact services_fail s _ spares_clearGraph _
  | save | refresh | deleteSnippet id => exact services_finishListing s _ _ _

end Session

namespace Workbench

theorem services_step (w : Workbench) (event : Event) :
    (w.step event).session.services = w.session.services := by
  cases event with
  | gesture g =>
    obtain ⟨title, file, error, frame⟩ := Session.gesture_eq w.session g
    exact (congrArg Session.services frame).trans rfl
  | start c => exact w.session.services_start c
  | reply index r =>
    cases found : w.flights[index]? with
    | none => simp only [step, found]
    | some p =>
      simp only [step, found]
      exact w.session.services_resume p r

theorem services_run (v : Services) (events : List Event) :
    (run v events).session.services = v := by
  induction events using List.reverseRecOn with
  | nil => rfl
  | append_singleton events event ih => rw [run_append, services_step, ih]

/-- What a session has compiled was read from a document, so it is writable. -/
theorem isWritable_compiled_run (v : Services) (events : List Event) (t : Topology)
    (h : (run v events).session.compiled = some t) : t.IsWritable := by
  have keeps {s u : Session} {installed : Bool} (effect : Session.GraphEffect s u installed)
      (before : ∀ t, s.compiled = some t → t.IsWritable) :
      ∀ t, u.compiled = some t → t.IsWritable := by
    intro t ht
    cases effect with
    | kept compiled editor => exact before t (compiled.symm.trans ht)
    | cleared bare => cases bare.compiled.symm.trans ht
    | installed t' writable compiled editor =>
      obtain rfl := Option.some.inj (compiled.symm.trans ht)
      exact writable
  induction events using List.reverseRecOn generalizing t with
  | nil => cases h
  | append_singleton events event ih =>
    rw [run_append] at h
    generalize run v events = w at *
    cases event with
    | gesture g => exact ih t ((Session.compiled_gesture _ g).symm.trans h)
    | start c => exact keeps (w.session.graphEffect_start c) ih t h
    | reply index r =>
      cases found : w.flights[index]? with
      | none =>
        simp only [step, found] at h
        exact ih t h
      | some p =>
        simp only [step, found] at h
        exact keeps (w.session.graphEffect_resume p r) ih t h

/-! ## Main result -/

/-- In every state of a run in which no command is in flight: a command with nothing to work on
answers at once and changes nothing. Any other ends with an answer, whatever the services reply and
whatever goes on beside it; it releases the busy flag, and it leaves no message exactly if it has
succeeded, and else one that says something. No document that is replied or opened may nest too
deep. -/
theorem command_concludes {v : Services} (acceptable : v.AreAcceptable) {events : List Event}
    {s : Session} (reached : (run v events).session = s) (free : s.busy = false)
    (sendable : s.IsSendable) {c : Command} (own : c.IsSendable) (fits : c.FitsIn v)
    {turns : List Turn} (fair : ∀ t ∈ turns, t.reply.IsFair v) :
    (s.isIdle c = true → s.start c = (s, .ended (.ok (.done false)))) ∧
    (s.isIdle c = false → ∃ u a, Session.conduct (s.start c) turns = (u, .ok a) ∧
      u.busy = false ∧
      (u.error = none ↔ Session.Succeeded
        (Store.readList v.store (turns.headD .exhausted).reply) u a c) ∧
      ∀ message, u.error = some message → message.isEmpty = false ∧ Session.Failed
        (Store.readList v.store (turns.headD .exhausted).reply) s.listing u a c) := by
  have services : s.services = v := by rw [← reached, services_run]
  have writable : ∀ t, s.compiled = some t → t.IsWritable := by
    intro t ht
    exact isWritable_compiled_run v events t (by rw [reached, ht])
  refine ⟨Session.start_of_isIdle, fun works => ?_⟩
  rw [← services] at acceptable fits fair ⊢
  have stage := Session.stage_start acceptable free sendable writable own fits works turns
  obtain ⟨u, a, served, concludes⟩ := Session.concludes_conduct acceptable stage fair
  refine ⟨u, a, served, concludes.released, ?_, ?_⟩
  · rcases concludes.outcome with ⟨silent, succeeded⟩ | ⟨message, told, -, failed⟩
    · exact ⟨fun _ => succeeded, fun _ => silent⟩
    · constructor
      · intro silent
        cases told.symm.trans silent
      · exact fun succeeded => absurd succeeded (Session.not_succeeded_of_failed failed)
  · intro message told
    rcases concludes.outcome with ⟨silent, -⟩ | ⟨message', told', nonempty, failed⟩
    · cases silent.symm.trans told
    · obtain rfl := Option.some.inj (told.symm.trans told')
      exact ⟨nonempty, failed⟩

/-- Three services at hosts of their own. -/
def hosts : Services := .ofAddresses "http://c" "http://d" "http://s" (some "t0")

theorem areAcceptable_hosts : hosts.AreAcceptable where
  compiler := ⟨by decide, by decide, ⟨_, rfl, by decide⟩, by decide⟩
  decoder := ⟨by decide, by decide, ⟨_, rfl, by decide⟩, by decide⟩
  store := ⟨by decide, by decide, ⟨_, rfl, by decide⟩, by decide⟩

/-- A save of what was typed, which the store refuses while the description is changed again. -/
theorem command_concludes_refused : hosts.AreAcceptable ∧ ∃ u a,
    Session.conduct ((run hosts [.gesture (.editDsl "router r1")]).session.start (.save (some "lab")))
      [⟨[.gesture (.editDsl "router r2")], .answered 503 []⟩] = (u, .ok a) ∧ u.busy = false ∧
    (u.error = none ↔ ∃ snippet, a = .saved (some snippet)) := by
  have empty : Json.bodyText? [] = some ⟨[]⟩ := by decide +kernel
  have fits (c : Client) : (Reply.answered 503 []).FitsIn c := by
    refine Reply.fitsIn_of_openings fun s text => ?_
    obtain rfl := Option.some.inj (empty.symm.trans text)
    exact Nat.zero_le _
  have fair : ∀ t ∈ [(⟨[.gesture (.editDsl "router r2")], .answered 503 []⟩ : Turn)],
      t.reply.IsFair hosts := by
    intro t ht
    rw [List.mem_singleton.mp ht]
    exact ⟨fun _ => Reply.noConfusion, fits _, fits _⟩
  have typed : (run hosts [.gesture (.editDsl "router r1")]).session.IsSendable :=
    ⟨by decide, by decide, fun t none => by cases none⟩
  obtain ⟨-, concluded⟩ := command_concludes areAcceptable_hosts rfl rfl typed
    (c := .save (some "lab")) (show RawText.isOrdinary "lab" = true by decide) trivial fair
  obtain ⟨u, a, served, released, silent, -⟩ := concluded rfl
  exact ⟨areAcceptable_hosts, u, a, served, released, silent⟩

end Workbench
end Topograph
