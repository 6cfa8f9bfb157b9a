import Topograph.Proofs.Service.Acceptable
import Topograph.Proofs.Service.Brought
import Topograph.Proofs.Session.Flight
import Topograph.Proofs.Session.LiveGraph

/-!
# Runs of a session

A run is any list of actions, starts of commands, and replies to requests of commands in flight, in
any order. Nothing here keeps two commands from being in flight together. Beside the session, a run
keeps track of the devices that were deleted since a topology was last installed.

In every state of a run the live graph is what the deletions have left of the compiled one, and
what is saved is the compiled one.
-/
namespace Topograph

/-- One step of a run. -/
inductive Event where
  | gesture (g : Gesture)
  | start (c : Command)
  /-- a reply to one of the requests in flight -/
  | reply (index : Nat) (r : Reply)

/-- A session, what its commands in flight wait for, and the identifiers that were deleted from the
graph since a topology was last installed. -/
structure Workbench where
  session : Session
  flights : List Pending := []
  deleted : List Int := []

/-- A command that installs a topology if it succeeds without waiting. -/
def Command.installs : Command → Bool
  | .openSnippet _ => true
  | _ => false

/-- A reply that installs a topology if the command ends with success. -/
def Pending.installs : Pending → Bool
  | .convert | .compile => true
  | _ => false

/-- An action on the graph: selecting, dismissing, deleting or moving a device. -/
def Gesture.isGraphEdit : Gesture → Bool
  | .selectDevice _ | .dismissDevice | .deleteDevice _ _ | .moveDevice _ _ _ => true
  | _ => false

theorem Gesture.typed_of_isGraphEdit (g : Gesture) (h : g.isGraphEdit = true) (dsl : RawText) :
    g.typed dsl = dsl := by
  cases g with
  | editDsl text => exact absurd h (by simp [isGraphEdit])
  | _ => rfl

namespace Progress

def isSuccess : Progress → Bool
  | .ended (.ok (.done true)) => true
  | _ => false

def pending? : Progress → Option Pending
  | .waiting _ p => some p
  | .ended _ => none

end Progress

namespace Workbench

def fresh (v : Services) : Workbench where
  session := { services := v }

/-- The workbench after one step. A reply that no command waits for is lost. -/
def step (w : Workbench) : Event → Workbench
  | .gesture g =>
    { w with session := w.session.gesture g, deleted := w.session.deletedBy g ++ w.deleted }
  | .start c =>
    let (session, progress) := w.session.start c
    { session
      flights := w.flights ++ progress.pending?.toList
      deleted := if c.installs && progress.isSuccess then [] else w.deleted }
  | .reply index r =>
    match w.flights[index]? with
    | none => w
    | some p =>
      let (session, progress) := w.session.resume p r
      { session
        flights := w.flights.eraseIdx index ++ progress.pending?.toList
        deleted := if p.installs && progress.isSuccess then [] else w.deleted }

def run (v : Services) (events : List Event) : Workbench := events.foldl step (fresh v)

theorem run_append (v : Services) (events : List Event) (event : Event) :
    run v (events ++ [event]) = (run v events).step event := by
  rw [run, List.foldl_append]
  rfl

end Workbench

namespace Session

/-! ## What a command does to the graph -/

/-- A command leaves the graph and the compiled topology alone, clears both, or installs a topology
as both. -/
inductive GraphEffect (s u : Session) : Bool → Prop where
  | kept : u.compiled = s.compiled → u.editor = s.editor → GraphEffect s u false
  | cleared : u.IsBare → GraphEffect s u false
  | installed (t : Topology) : t.IsWritable → u.compiled = some t → u.editor = .showing t →
    GraphEffect s u true

/-- Only the graph and the compiled topology of the session before matter. -/
theorem GraphEffect.of_same {s s' u : Session} {installed : Bool}
    (h : GraphEffect s' u installed) (compiled : s'.compiled = s.compiled)
    (editor : s'.editor = s.editor) : GraphEffect s u installed := by
  cases h with
  | kept compiled' editor' => exact .kept (compiled'.trans compiled) (editor'.trans editor)
  | cleared bare => exact .cleared bare
  | installed t writable compiled' editor' => exact .installed t writable compiled' editor'

/-- A way to fall back leaves the graph alone or clears it. -/
def FallsBack (fallback : Session → Session) : Prop :=
  ∀ s, GraphEffect s (fallback s) false

theorem fallsBack_id : FallsBack id := fun _ => .kept rfl rfl

theorem fallsBack_clear : FallsBack clear := fun s => .cleared (isBare_clear s)

theorem fallsBack_clearGraph : FallsBack clearGraph := fun _ => .cleared ⟨rfl, rfl⟩

theorem graphEffect_fail (s : Session) (f : Failure) {fallback : Session → Session}
    (h : FallsBack fallback) (a : Answer) : GraphEffect s (s.fail f fallback a).1 false := by
  cases f with
  | problem p =>
    cases h { s with error := some p.message } with
    | kept compiled editor => exact .kept compiled editor
    | cleared bare => exact .cleared ⟨bare.compiled, bare.editor⟩
  | _ => exact .kept rfl rfl

/-- A failure ends a command without success. -/
theorem isSuccess_fail (s : Session) (f : Failure) (fallback : Session → Session) :
    (s.fail f fallback (.done false)).2.isSuccess = false := by
  cases f <;> rfl

theorem graphEffect_await (s : Session) (request : Except Failure Request) (p : Pending)
    {fallback : Session → Session} (h : FallsBack fallback) (a : Answer) :
    GraphEffect s (s.await request p fallback a).1 false := by
  cases request with
  | ok r => exact .kept rfl rfl
  | error f => exact graphEffect_fail s f h a

theorem graphEffect_finishListing {α : Type} (s : Session) (o : Outcome Listing α)
    (good : α → Answer) (bad : Answer) :
    GraphEffect s (s.finishListing o good bad).1 false := by
  unfold finishListing
  cases o.2 with
  | ok a => exact .kept rfl rfl
  | error f =>
    have failed := graphEffect_fail { s with listing := o.1 } f fallsBack_id bad
    exact failed.of_same rfl rfl

theorem graphEffect_openSnippet (s : Session) (snippet : Snippet) :
    GraphEffect s (s.openSnippet snippet).1 (s.openSnippet snippet).2.isSuccess := by
  unfold openSnippet
  cases parsed : Envelope.parse s.services.store.headroom snippet.content with
  | error f =>
    simp only [isSuccess_fail]
    exact graphEffect_fail s f fallsBack_id (.done false)
  | ok parts =>
    obtain ⟨dsl, t⟩ := parts
    have writable := Envelope.isWritable_of_parse parsed
    simp only [install_of_isWritable s dsl writable]
    exact .installed t writable rfl rfl

theorem graphEffect_work (s : Session) (c : Command) :
    GraphEffect s (s.work c).1 (c.installs && (s.work c).2.isSuccess) := by
  cases c with
  | decode =>
    cases chosen : s.file with
    | none =>
      simp only [work, chosen]
      exact .kept rfl rfl
    | some file =>
      simp only [work, chosen]
      have awaited := graphEffect_await s.clear (Decoder.request s.services.decoder file.content)
        .decode fallsBack_clear (.done false)
      cases awaited with
      | kept compiled editor => exact .cleared ⟨compiled, editor⟩
      | cleared bare => exact .cleared bare
  | compile =>
    rw [work, startCompile]
    exact graphEffect_await s _ .compile fallsBack_clearGraph (.done false)
  | save title =>
    rw [work, startSave]
    exact graphEffect_await s _ .save fallsBack_id (.saved none)
  | refresh =>
    rw [work, startRefresh]
    exact graphEffect_await s _ .refresh fallsBack_id (.listed s.listing)
  | deleteSnippet id =>
    rw [work, startDelete]
    exact graphEffect_await s _ (.deleteSnippet id) fallsBack_id (.done false)
  | openSnippet snippet =>
    rw [Command.installs, Bool.true_and]
    exact graphEffect_openSnippet s snippet

theorem graphEffect_start (s : Session) (c : Command) :
    GraphEffect s (s.start c).1 (c.installs && (s.start c).2.isSuccess) := by
  obtain ⟨compiled, editor⟩ : (s.prepare c).compiled = s.compiled ∧
      (s.prepare c).editor = s.editor := by
    rcases prepare_cases s c with same | ⟨title, same⟩
    · exact ⟨congrArg _ same, congrArg _ same⟩
    · rw [same]
      exact ⟨rfl, rfl⟩
  unfold start
  simp only
  split
  · show GraphEffect s (s.prepare c) (c.installs && false)
    rw [Bool.and_false]
    exact .kept compiled editor
  · split
    · show GraphEffect s (s.prepare c) (c.installs && false)
      rw [Bool.and_false]
      exact .kept compiled editor
    · exact (graphEffect_work (s.prepare c).occupy c).of_same compiled editor

theorem graphEffect_resume (s : Session) (p : Pending) (r : Reply) :
    GraphEffect s (s.resume p r).1 (p.installs && (s.resume p r).2.isSuccess) := by
  cases p with
  | decode =>
    rw [resume]
    split
    · exact graphEffect_await s _ .convert fallsBack_clear (.done false)
    · exact graphEffect_fail s _ fallsBack_clear (.done false)
  | convert =>
    rw [Pending.installs, Bool.true_and, resume]
    cases converted : Compiler.readConverted s.services.compiler r with
    | error f =>
      simp only [isSuccess_fail]
      exact graphEffect_fail s f fallsBack_clear (.done false)
    | ok c =>
      have writable := Compiler.isWritable_of_readConverted converted
      simp only [finishInstall_install s c.dsl writable]
      exact .installed c.topology writable rfl rfl
  | compile =>
    rw [Pending.installs, Bool.true_and, resume]
    cases compiled : Compiler.readCompiled s.services.compiler r with
    | error f =>
      simp only [isSuccess_fail]
      exact graphEffect_fail s f fallsBack_clearGraph (.done false)
    | ok t =>
      have writable := Compiler.isWritable_of_readCompiled compiled
      simp only [finishInstall_install s s.dsl writable]
      exact .installed t writable rfl rfl
  | save | refresh | deleteSnippet id =>
    rw [resume]
    exact graphEffect_finishListing s _ _ _

theorem GraphEffect.tracks {s u : Session} {installed : Bool} (h : GraphEffect s u installed)
    {deleted : List Int} (ht : s.editor.Tracks deleted s.compiled) :
    u.editor.Tracks (if installed then [] else deleted) u.compiled := by
  cases h with
  | kept compiled editor =>
    rw [compiled, editor]
    exact ht
  | cleared bare =>
    rw [bare.compiled, bare.editor]
    exact rfl
  | installed t writable compiled editor =>
    rw [compiled, editor]
    exact Editor.tracks_showing writable

/-! ## Saving -/

theorem content_of_saveRequest {c : Client} {title dsl : RawText} {t : Topology} {r : Request}
    (h : Listing.saveRequest c title dsl t = .ok r) :
    r.method = .post ∧ ∃ content, Envelope.encode dsl t = .ok content ∧
      r.payload = .json (Draft.toJson ⟨title.trim, content⟩) := by
  unfold Listing.saveRequest at h
  cases drafted : Listing.draft title dsl t with
  | error f =>
    rw [drafted] at h
    cases h
  | ok d =>
    rw [drafted] at h
    obtain ⟨method, payload, -⟩ := Client.payload_of_request h
    unfold Listing.draft at drafted
    split at drafted
    · cases drafted
    · split at drafted
      · cases drafted
      · cases encoded : Envelope.encode dsl t with
        | error f =>
          rw [encoded] at drafted
          cases drafted
        | ok content =>
          rw [encoded] at drafted
          obtain rfl := Except.ok.inj drafted
          exact ⟨method, content, rfl, payload⟩

/-- A command that waits from its start has done its work. -/
theorem start_waits {s : Session} {c : Command} {r : Request} {p : Pending}
    (h : (s.start c).2 = .waiting r p) : ((s.prepare c).occupy.work c).2 = .waiting r p := by
  unfold start at h
  simp only at h
  split at h
  · cases h
  · split at h
    · cases h
    · exact h

/-- What a save sends: the title without blanks at its ends, and the content for the description
and the compiled topology, or the empty one. -/
theorem save_sends {s : Session} {title : Option RawText} {r : Request} {p : Pending}
    (h : (s.start (.save title)).2 = .waiting r p) :
    p = .save ∧ r.method = .post ∧ ∃ content,
      Envelope.encode s.dsl (s.compiled.getD {}) = .ok content ∧
        r.payload = .json (Draft.toJson ⟨(title.getD s.title).trim, content⟩) := by
  have work := start_waits h
  obtain ⟨dsl, compiled, titled⟩ : (s.prepare (.save title)).dsl = s.dsl ∧
      (s.prepare (.save title)).compiled = s.compiled ∧
      (s.prepare (.save title)).title = title.getD s.title := by
    cases title <;> exact ⟨rfl, rfl, rfl⟩
  rw [← dsl, ← compiled, ← titled]
  generalize s.prepare (.save title) = u at work ⊢
  rw [Session.work, startSave] at work
  unfold await at work
  split at work
  · rename_i request sent
    obtain ⟨rfl, rfl⟩ := Progress.waiting.inj work
    exact ⟨rfl, content_of_saveRequest sent⟩
  · rename_i f _
    obtain ⟨result, ended⟩ := ended_fail u.occupy f id (.saved none)
    rw [ended] at work
    cases work

/-- After its request a save sends nothing more. -/
theorem save_ends (s : Session) (r : Reply) : ∃ result, (s.resume .save r).2 = .ended result := by
  rw [resume, finishListing]
  split
  · exact ⟨_, rfl⟩
  · exact ended_fail _ _ _ _

end Session

namespace Workbench

/-- The live graph is what the deletions have left of the compiled one. -/
def IsTracked (w : Workbench) : Prop := w.session.editor.Tracks w.deleted w.session.compiled

theorem isTracked_step {w : Workbench} (h : w.IsTracked) (event : Event) :
    (w.step event).IsTracked := by
  cases event with
  | gesture g => exact w.session.tracks_gesture h g
  | start c => exact (w.session.graphEffect_start c).tracks h
  | reply index r =>
    cases found : w.flights[index]? with
    | none =>
      simp only [step, found]
      exact h
    | some p =>
      simp only [step, found]
      exact (w.session.graphEffect_resume p r).tracks h

theorem isTracked_run (v : Services) (events : List Event) : (run v events).IsTracked := by
  induction events using List.reverseRecOn with
  | nil => exact rfl
  | append_singleton events event ih =>
    rw [run_append]
    exact isTracked_step ih event

theorem state_of_tracked {w : Workbench} (h : w.IsTracked) :
    w.session.compiled = none ↔ w.session.editor.state = .empty := by
  unfold IsTracked at h
  constructor
  · intro none
    rw [none] at h
    rw [show w.session.editor = .clear from h]
    rfl
  · intro empty
    cases compiled : w.session.compiled with
    | none => rfl
    | some c =>
      rw [compiled] at h
      obtain ⟨-, live, shown, -⟩ := h
      unfold Editor.state at empty
      rw [shown] at empty
      cases inspected : w.session.editor.inspected with
      | none =>
        rw [inspected] at empty
        cases empty
      | some d =>
        rw [inspected] at empty
        cases empty

theorem follows_of_tracked {w : Workbench} (h : w.IsTracked) {compiled : Topology}
    (hc : w.session.compiled = some compiled) :
    ∃ live, w.session.editor.topology = some live ∧
      Topology.Follows w.deleted compiled live := by
  rw [IsTracked, hc] at h
  exact h.2

/-! ## Main result -/

/-- In every state of a run: nothing is compiled exactly when the editor is empty; the live
topology is otherwise the compiled one without the deleted devices and their links, in the same
order, with devices perhaps at another place; no edit of the graph touches the description or the
compiled topology; and a save sends the description and the compiled topology as they are when it
starts, once. -/
theorem graph_of_run (v : Services) (events : List Event) :
    ((run v events).session.compiled = none ↔
      (run v events).session.editor.state = .empty) ∧
    (∀ compiled, (run v events).session.compiled = some compiled →
      ∃ live, (run v events).session.editor.topology = some live ∧
        Topology.Follows (run v events).deleted compiled live) ∧
    (∀ g : Gesture, g.isGraphEdit = true →
      ((run v events).session.gesture g).dsl = (run v events).session.dsl ∧
      ((run v events).session.gesture g).compiled = (run v events).session.compiled) ∧
    ∀ title r p, ((run v events).session.start (.save title)).2 = .waiting r p →
      p = .save ∧ r.method = .post ∧
      (∃ content, Envelope.encode (run v events).session.dsl
          ((run v events).session.compiled.getD {}) = .ok content ∧
        r.payload = .json
          (Draft.toJson ⟨(title.getD (run v events).session.title).trim, content⟩)) ∧
      ∀ (u : Session) (a : Reply), ∃ result, (u.resume p a).2 = .ended result := by
  have tracked := isTracked_run v events
  refine ⟨state_of_tracked tracked, fun compiled hc => follows_of_tracked tracked hc, ?_, ?_⟩
  · intro g edit
    refine ⟨?_, Session.compiled_gesture _ g⟩
    rw [Session.dsl_gesture, g.typed_of_isGraphEdit edit]
  · intro title r p waits
    obtain ⟨rfl, method, sent⟩ := Session.save_sends waits
    exact ⟨rfl, method, sent, Session.save_ends⟩

end Workbench
end Topograph
