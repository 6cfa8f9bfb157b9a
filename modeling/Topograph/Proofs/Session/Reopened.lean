import Topograph.Proofs.Session.Conclusion
import Topograph.Proofs.Session.Wholesale
import Topograph.Proofs.Snippet.Mirror

/-!
# Reopening what was saved

A session compiles a description, perhaps edits the graph, and saves to an archive; later another
session lists the archive and opens the snippet. It then shows the description and the topology that
the compiler had sent, but for numbers that are not finite, which no document can hold: they come
back as zero. Between the two, others may use the archive, as long as they leave the snippet there.
-/
namespace Topograph
namespace Session

/-! ## The session that saves -/

/-- While a command is in flight and when it has ended, the flag tells which, and the services are
those it started with. -/
theorem holdsFlag_flight {s : Session} (idle : s.busy = false) {c : Command} {hs : List Happening}
    {o : Session × Progress} (flight : Flight (s.start c) hs o) :
    HoldsFlag o ∧ o.1.services = s.services := by
  induction flight with
  | start => exact ⟨holdsFlag_start idle c, services_start s c⟩
  | beside i _ ih =>
    obtain ⟨flag, services⟩ := ih
    have beside := beside_interlude flag i
    exact ⟨beside.busy, beside.services.trans services⟩
  | reply a _ ih =>
    obtain ⟨flag, services⟩ := ih
    exact ⟨holdsFlag_resume flag _ a, (services_resume _ _ a).trans services⟩

theorem isWritable_of_compileOutcome {v : Services} {dsl : RawText} {replies : List Reply}
    {t : Topology} (h : v.compileOutcome dsl replies = some (.ok t)) : t.IsWritable := by
  unfold Services.compileOutcome at h
  split at h
  · cases h
  · obtain ⟨reply, -, read⟩ := Option.map_eq_some_iff.mp h
    exact Compiler.isWritable_of_readCompiled read

/-- What a compilation that has succeeded leaves. -/
theorem shows_of_compiled {s u : Session} (idle : s.busy = false)
    (written : s.dsl.isAllBlank = false) {hs : List Happening}
    (accepted : Flight (s.start .compile) hs (u, .ended (.ok (.done true)))) :
    ∃ t, t.IsWritable ∧ u.Shows u.dsl t := by
  have compiled := compiled_flight idle written accepted
  cases outcome : s.services.compileOutcome s.dsl (Happening.replies hs) with
  | none =>
    rw [outcome] at compiled
    obtain ⟨-, r, p, waits⟩ := compiled
    cases waits
  | some result =>
    rw [outcome] at compiled
    cases result with
    | ok t =>
      have shows := compiled.1
      exact ⟨t, isWritable_of_compileOutcome outcome, shows.dsl.symm ▸ shows⟩
    | error f =>
      cases f with
      | problem p =>
        obtain ⟨-, -, -, ended⟩ := compiled
        cases ended
      | _ =>
        obtain ⟨-, ended⟩ := compiled
        cases ended

/-- Edits of the graph change nothing but the graph. -/
theorem edits_eq (s : Session) {edits : List Gesture}
    (graph : ∀ g ∈ edits, g.isGraphEdit = true) :
    ∃ editor, edits.foldl gesture s = { s with editor } := by
  induction edits generalizing s with
  | nil => exact ⟨s.editor, rfl⟩
  | cons g rest ih =>
    have first : ∃ editor, s.gesture g = { s with editor } := by
      have edit := graph g List.mem_cons_self
      cases g with
      | editDsl _ | setTitle _ | dismissError | chooseFile _ => cases edit
      | _ => exact ⟨_, rfl⟩
    obtain ⟨editor, first⟩ := first
    obtain ⟨editor', others⟩ := ih (s.gesture g) fun g' hg' => graph g' (List.mem_cons_of_mem g hg')
    exact ⟨editor', by rw [List.foldl_cons, others, first]⟩

theorem start_save {s : Session} (idle : s.busy = false) (given : Option RawText) :
    s.start (.save given) = { s with title := given.getD s.title }.occupy.startSave := by
  rw [start_of_free idle rfl]
  cases given <;> rfl

/-- What is sent for a title and a description that are not blank. -/
theorem saveRequest_eq (c : Client) {title dsl : RawText} (titled : title.isAllBlank = false)
    (told : dsl.isAllBlank = false) (t : Topology) :
    Listing.saveRequest c title dsl t =
      (Envelope.encode dsl t).bind fun content => Store.createRequest c ⟨title.trim, content⟩ := by
  rw [Listing.saveRequest, Listing.draft, titled, told]
  cases Envelope.encode dsl t <;> rfl

/-! ## Commands that an archive serves -/

/-- The command waits for the reply to one request, and ends when the archive has replied. -/
def IsServed (a : Archive) (now : RawText) (started : Session × Progress) (r : Request)
    (b : Archive) (u : Session) (result : Except Failure Answer) : Prop :=
  ∃ s p reply, started = (s, .waiting r p) ∧ a.reply now r = (b, reply) ∧
    s.resume p reply = (u, .ended result)

section
variable {s : Session} (idle : s.busy = false) (root : s.services.store.IsAtRoot) {t : Topology}
  (compiled : s.compiled = some t) (writable : t.IsWritable)
  (told : s.dsl.isAllBlank = false) {given : Option RawText}
  (titled : (given.getD s.title).isAllBlank = false)
include idle root compiled writable told titled

/-- A half that stands alone, in any of the texts, keeps a save from being sent. -/
theorem start_save_halved
    (halved : (s.dsl.isOrdinary && t.isOrdinary && (given.getD s.title).isOrdinary) = false) :
    ∃ u f, s.start (.save given) = (u, .ended (.error f)) := by
  have request : Listing.saveRequest s.services.store (given.getD s.title) s.dsl t =
      .error .unstorable ∨ Listing.saveRequest s.services.store (given.getD s.title) s.dsl t =
      .error .unpaired := by
    rw [saveRequest_eq _ titled told]
    cases texts : s.dsl.isOrdinary && t.isOrdinary with
    | false =>
      rw [Envelope.encode_eq_unstorable writable texts]
      exact .inl rfl
    | true =>
      obtain ⟨hdsl, htexts⟩ := Bool.and_eq_true_iff.mp texts
      rw [texts, Bool.true_and] at halved
      rw [Envelope.encode_eq_ok hdsl writable htexts]
      apply Or.inr
      apply Archive.createRequest_unpaired root
      rw [RawText.isOrdinary_trim, halved, Bool.false_and]
  rw [start_save idle, startSave]
  rcases request with unstorable | unpaired
  · simp only [occupy, compiled, Option.getD_some, unstorable]
    exact ⟨_, _, rfl⟩
  · simp only [occupy, compiled, Option.getD_some, unpaired]
    exact ⟨_, _, rfl⟩

/-- The archive stores the description and the topology under the next key. -/
theorem isServed_save (texts : (s.dsl.isOrdinary && t.isOrdinary) = true)
    (title : (given.getD s.title).isOrdinary = true) {a : Archive}
    {records : List Archive.Record} {last : Int} (keeps : a.Keeps records last)
    (next : Number.IsWritable (last + 1)) (time : Timestamp) :
    ∃ r b u, ∃ record : Archive.Record, IsServed a time.stamp (s.start (.save given)) r b u
        (.ok (.saved (some record.snippet))) ∧
      b.Keeps (records ++ [record]) (last + 1) ∧ record.id = last + 1 ∧
      record.snippet.title = (given.getD s.title).trim ∧
      ∀ headroom, Envelope.parse headroom record.snippet.content = .ok (s.dsl, t.settled) := by
  obtain ⟨hdsl, htexts⟩ := Bool.and_eq_true_iff.mp texts
  obtain ⟨r, made, asks⟩ := Archive.exists_createRequest root
    (d := ⟨(given.getD s.title).trim, (Envelope.document s.dsl t.graph).write⟩)
    ((RawText.isOrdinary_trim _).trans title) (RawText.isOrdinary_ofString _)
  have request : Listing.saveRequest s.services.store (given.getD s.title) s.dsl t = .ok r := by
    rw [saveRequest_eq _ titled told, Envelope.encode_eq_ok hdsl writable htexts]
    exact made
  obtain ⟨b, response, records', last', answered, handles, keeps'⟩ := keeps.handles asks time
  cases handles with
  | blank blank =>
    rw [RawText.trim_trim, RawText.isEmpty_trim, titled] at blank
    cases blank
  | @created _ record _ key _ title content =>
    have read := Store.readCreated_encode root.acceptable
      (Archive.Record.isStorable_snippet (key ▸ next))
    have served : IsServed a time.stamp (s.start (.save given)) r b
        { s with title := given.getD s.title, listing := record.snippet :: s.listing, busy := false,
                 error := none } (.ok (.saved (some record.snippet))) := by
      refine ⟨{ s with title := given.getD s.title }.occupy, .save,
        .answered 201 (Text.Utf8.encode record.snippet.toJson.write), ?_, ?_, ?_⟩
      · rw [start_save idle, startSave]
        simp only [occupy, compiled, Option.getD_some, request, await]
      · simp only [Archive.reply, answered]
        rfl
      · simp only [resume, occupy, Listing.saved, read, finishListing]
        rfl
    have parsed (headroom : Json.Headroom) :
        Envelope.parse headroom record.snippet.content = .ok (s.dsl, t.settled) := by
      rw [content]
      exact Envelope.parse_write headroom hdsl writable htexts
    exact ⟨r, b, _, record, served, keeps', key, title.trans (RawText.trim_trim _), parsed⟩

end

/-- A new session lists the archive with one request to its store, and opens a snippet that it finds
there with none. -/
def Reopens (a : Archive) (now : RawText) (v : Services) (snippet : Snippet) (o : Session) : Prop :=
  ∃ r u listing, Store.listRequest v.store = .ok r ∧
    IsServed a now (({ services := v } : Session).start .refresh) r a u (.ok (.listed listing)) ∧
    snippet ∈ listing ∧ u.start (.openSnippet snippet) = (o, .ended (.ok (.done true)))

theorem exists_reopens {v : Services} (root : v.store.IsAtRoot) {a : Archive}
    {records : List Archive.Record} {last : Int} (keeps : a.Keeps records last)
    (writable : ∀ r ∈ records, Number.IsWritable r.id) (now : RawText) {record : Archive.Record}
    (kept : record ∈ records) {dsl : RawText} {t : Topology}
    (parsed : Envelope.parse v.store.headroom record.snippet.content = .ok (dsl, t)) :
    ∃ o, Reopens a now v record.snippet o ∧ o.Shows dsl t ∧ o.title = record.snippet.title := by
  obtain ⟨r, made, asks⟩ := Archive.exists_listRequest root
  have read := Store.readList_encode root.acceptable fun s hs =>
    Archive.isStorable_of_mem_shelf writable hs
  have served : IsServed a now (({ services := v } : Session).start .refresh) r a
      { services := v, listing := Listing.newestFirst (Archive.shelf records) }
      (.ok (.listed (Listing.newestFirst (Archive.shelf records)))) := by
    refine ⟨({ services := v } : Session).occupy, .refresh,
      .answered 200 (Text.Utf8.encode (listDocument (Archive.shelf records)).write), ?_, ?_, ?_⟩
    · rw [start_of_free rfl rfl]
      simp only [prepare, work, startRefresh, occupy, made, await]
    · simp only [Archive.reply, keeps.answer_list asks]
      rfl
    · simp only [resume, occupy, Listing.listed, read, finishListing]
      rfl
  have listed : record.snippet ∈ Listing.newestFirst (Archive.shelf records) :=
    Listing.mem_newestFirst.mpr (Archive.mem_shelf.mpr ⟨record, kept, rfl⟩)
  have opened := opened_openSnippet (s :=
    { services := v, listing := Listing.newestFirst (Archive.shelf records) }) rfl record.snippet
  rw [parsed] at opened
  generalize started : start _ (.openSnippet record.snippet) = result at opened
  obtain ⟨o, progress⟩ := result
  obtain ⟨frame, shows, rfl⟩ := opened
  exact ⟨o, ⟨r, _, _, made, served, listed, started⟩, shows, by rw [frame]⟩

theorem Shows.state {s : Session} {dsl : RawText} {t : Topology} (h : s.Shows dsl t) :
    s.editor.state = .loaded := by
  rw [Editor.state, h.topology, h.inspected]

/-! ## Main result -/

/-- A description has been compiled with success, and perhaps the graph was edited. A save under a
title is not sent if a half stands alone in one of the texts. Otherwise the archive stores a
snippet, and after visits that do not delete it a new session can list and open it: it then shows
the description and the topology, under the title without blanks at its ends. The topology is the
one that was compiled exactly if all its numbers are finite; one that is not has become zero. -/
theorem reopens_what_was_saved {s u : Session} (idle : s.busy = false)
    (root : s.services.store.IsAtRoot) (written : s.dsl.isAllBlank = false) {hs : List Happening}
    (accepted : Flight (s.start .compile) hs (u, .ended (.ok (.done true))))
    {edits : List Gesture} (graph : ∀ g ∈ edits, g.isGraphEdit = true)
    (told : u.dsl.isAllBlank = false) {given : Option RawText}
    (titled : (given.getD u.title).isAllBlank = false) (earlier later : List Archive.Visit)
    (few : Number.IsWord (earlier.length + later.length + 1)) {v : Services}
    (root' : v.store.IsAtRoot) (time : Timestamp) (now : RawText) :
    ∃ t, u.compiled = some t ∧
      if u.dsl.isOrdinary && t.isOrdinary && (given.getD u.title).isOrdinary then
        ∃ r b w snippet, IsServed (Archive.fresh.serve earlier).1 time.stamp
            ((edits.foldl gesture u).start (.save given)) r b w (.ok (.saved (some snippet))) ∧
          ((∀ visit ∈ later, visit.ask ≠ .delete snippet.id) →
            ∃ o, Reopens (b.serve later).1 now v snippet o ∧ o.Shows u.dsl t.settled ∧
              o.title = (given.getD u.title).trim ∧ o.editor.state = .loaded ∧
              (t.settled.same t = true ↔ t.isFinite = true))
      else ∃ w f, (edits.foldl gesture u).start (.save given) = (w, .ended (.error f)) := by
  obtain ⟨t, ht, shows⟩ := shows_of_compiled idle written accepted
  obtain ⟨flag, services⟩ := holdsFlag_flight idle accepted
  obtain ⟨editor, edited⟩ := edits_eq u graph
  rw [edited]
  refine ⟨t, shows.compiled, ?_⟩
  have root : u.services.store.IsAtRoot := services.symm ▸ root
  split
  case isFalse halved =>
    exact start_save_halved (s := { u with editor }) flag root shows.compiled ht told titled
      (Bool.eq_false_of_not_eq_true halved)
  case isTrue ordinary =>
    obtain ⟨texts, title⟩ := Bool.and_eq_true_iff.mp ordinary
    have writable := Number.isWritable_of_isWord few
    obtain ⟨records, last, keeps, started, bounded, new, -⟩ := Archive.keeps_fresh.serve earlier
    obtain ⟨r, b, w, record, served, keeps₁, key, titled', parsed⟩ := isServed_save
      (s := { u with editor }) flag root shows.compiled ht told titled texts title keeps
      (writable.of_le (by omega)) time
    refine ⟨r, b, w, record.snippet, served, fun spared => ?_⟩
    obtain ⟨records', last', keeps', grown, bounded', new', stays⟩ := keeps₁.serve later
    have positive : ∀ q ∈ records', 0 < q.id := by
      intro q hq
      rcases new' q hq with old | newer
      · rcases List.mem_append.mp old with old | saved
        · exact (new q old).resolve_left List.not_mem_nil
        · rw [List.mem_singleton.mp saved]
          omega
      · omega
    have keys : ∀ q ∈ records', Number.IsWritable q.id := by
      intro q hq
      have below := keeps'.below q hq
      have above := positive q hq
      exact writable.of_le (by omega)
    have kept : record ∈ records' := stays record (by simp) spared
    obtain ⟨o, reopens, shows', named⟩ := exists_reopens root' keeps' keys now kept (parsed _)
    exact ⟨o, reopens, shows', named.trans titled', shows'.state, Topology.same_settled_iff⟩

/-- A session with nothing but a description. -/
def untidy : Session where
  services := Workbench.hosts
  dsl := "router r1"

/-- A compiler's reply, with a coordinate past the largest number. -/
def overflown : Reply := .answered 200 (Text.Utf8.encode
  ("\x7b\"react_flow\":\x7b\"nodes\":[\x7b\"id\":\"1\",\"position\":\x7b\"x\":1e400\x7d\x7d]," ++
    "\"edges\":[]\x7d\x7d"))

/-- The topology in the reply. -/
def farOff : Topology where
  devices := [{ id := 1, position := { x := .given (.infinite false), y := .given .zero },
                coordinatesLabel := "inf 0" }]

/-- The coordinate is infinite where it was compiled, and zero where the snippet was opened. -/
theorem reopens_what_was_saved_overflown : ∃ u r b w snippet o,
    Flight (untidy.start .compile) [.reply overflown] (u, .ended (.ok (.done true))) ∧
    u.compiled = some farOff ∧
    IsServed (Archive.fresh.serve []).1 Timestamp.noon.stamp
      ((u.gesture (.deleteDevice 1 none)).start (.save (some " Lab "))) r b w
      (.ok (.saved (some snippet))) ∧
    Reopens b "" Workbench.hosts snippet o ∧ o.compiled = some farOff.settled ∧
    farOff.settled.same farOff = false := by
  have written : untidy.dsl.isAllBlank = false := by decide +kernel
  have pending : untidy.services.compileOutcome untidy.dsl [] = none := by decide +kernel
  have outcome : untidy.services.compileOutcome untidy.dsl [overflown] = some (.ok farOff) := by
    decide +kernel
  have started := compiled_flight rfl written .start
  rw [show Happening.replies [] = [] from rfl, pending] at started
  obtain ⟨-, r, p, waits⟩ := started
  have begun : Flight (untidy.start .compile) [] ((untidy.start .compile).1, .waiting r p) := by
    rw [← waits]
    exact .start
  have flight := begun.reply overflown
  have compiled := compiled_flight rfl written flight
  rw [show Happening.replies _ = [overflown] from rfl, outcome] at compiled
  generalize (untidy.start .compile).1.resume p overflown = result at flight compiled
  obtain ⟨u, progress⟩ := result
  obtain ⟨shows, rfl⟩ := compiled
  have told : u.dsl = "router r1" := shows.dsl
  have graph : ∀ g ∈ [Gesture.deleteDevice 1 none], g.isGraphEdit = true := by
    simp [Gesture.isGraphEdit]
  have spelled : RawText.isAllBlank " Lab " = false := by decide +kernel
  have titled : ((some (" Lab " : RawText)).getD u.title).isAllBlank = false := spelled
  have root : Workbench.hosts.store.IsAtRoot := Mirror.isAtRoot_shop
  obtain ⟨t, ht, saved⟩ := reopens_what_was_saved rfl root written flight graph (told ▸ written)
    titled [] [] (by decide) root .noon ""
  obtain rfl : t = farOff := Option.some.inj (ht.symm.trans shows.compiled)
  rw [told, Option.getD_some, if_pos (by decide +kernel)] at saved
  obtain ⟨r, b, w, snippet, served, reopens⟩ := saved
  obtain ⟨o, reopened, shows', -, -, same⟩ := reopens (by simp)
  refine ⟨u, r, b, w, snippet, o, flight, ht, served, reopened, shows'.compiled, ?_⟩
  rw [Bool.eq_false_iff, ne_eq, same]
  decide +kernel

end Session
end Topograph
