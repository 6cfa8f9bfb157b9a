import Topograph.Proofs.Session.Decoding

/-!
# Wholesale replacement

Decoding, compiling and opening a snippet replace what the session shows as a whole. What a command
leaves there is told by the outcome of the services alone, or by the snippet alone, whatever was
there when it started and whatever was typed or edited while it waited.
-/
namespace Topograph

/-- What comes of a description once the reply is there; none while it is missing. -/
def Services.compileOutcome (v : Services) (dsl : RawText) (replies : List Reply) :
    Option (Except Failure Topology) :=
  match Compiler.compileRequest v.compiler dsl with
  | .error f => some (.error f)
  | .ok _ => replies.head?.map (Compiler.readCompiled v.compiler)

namespace Session

/-- What compiling leaves in the session, by the outcome of the compiler, for a description as it
was last typed. -/
def Compiled (typed : RawText) : Option (Except Failure Topology) → Session × Progress → Prop
  | none, (s, progress) => s.dsl = typed ∧ ∃ r p, progress = .waiting r p
  | some (.ok t), (s, progress) => s.Shows typed t ∧ progress = .ended (.ok (.done true))
  | some (.error (.problem p)), (s, progress) =>
    s.IsBare ∧ s.dsl = typed ∧ s.error = some p.message ∧ progress = .ended (.ok (.done false))
  | some (.error f), (s, progress) => s.dsl = typed ∧ progress = .ended (.error f)

/-! ## Compiling -/

/-- The compilation of a description is at the stage that these replies bring it to. -/
structure CompileStage (v : Services) (dsl typed : RawText) (replies : List Reply)
    (o : Session × Progress) : Prop where
  shown : Compiled typed (v.compileOutcome dsl replies) o
  waits : ∀ s r p, o = (s, .waiting r p) →
    s.busy = true ∧ s.services = v ∧ p = .compile ∧ replies = [] ∧
      ∃ r, Compiler.compileRequest v.compiler dsl = .ok r

theorem compiled_fail {s : Session} {typed : RawText} (h : s.dsl = typed) (f : Failure) :
    Compiled typed (some (.error f)) (s.fail f clearGraph (.done false)) := by
  cases f with
  | problem p => exact ⟨⟨rfl, rfl⟩, h, rfl, rfl⟩
  | _ => exact ⟨h, rfl⟩

theorem CompileStage.of_ended {v : Services} {dsl typed : RawText} {replies : List Reply}
    {o : Session × Progress} (h : Compiled typed (v.compileOutcome dsl replies) o)
    (ended : ∃ result, o.2 = .ended result) : CompileStage v dsl typed replies o where
  shown := h
  waits s r p waiting := absurd waiting (ne_waiting_of_ended ended s r p)

theorem compileStage_fail {v : Services} {dsl typed : RawText} {replies : List Reply}
    {f : Failure} (h : v.compileOutcome dsl replies = some (.error f)) {s : Session}
    (hdsl : s.dsl = typed) :
    CompileStage v dsl typed replies (s.fail f clearGraph (.done false)) := by
  apply CompileStage.of_ended
  · rw [h]
    exact compiled_fail hdsl f
  · exact ended_fail s f clearGraph (.done false)

theorem compileOutcome_nil {v : Services} {dsl : RawText} {r : Request}
    (h : Compiler.compileRequest v.compiler dsl = .ok r) : v.compileOutcome dsl [] = none := by
  rw [Services.compileOutcome, h]
  rfl

theorem compileStage_start (s : Session) :
    CompileStage s.services s.dsl s.dsl [] s.occupy.startCompile := by
  unfold startCompile await
  cases request : Compiler.compileRequest s.occupy.services.compiler s.occupy.dsl with
  | error f =>
    have same : Compiler.compileRequest s.services.compiler s.dsl = .error f := request
    have outcome : s.services.compileOutcome s.dsl [] = some (.error f) := by
      rw [Services.compileOutcome, same]
    exact compileStage_fail outcome rfl
  | ok r =>
    have same : Compiler.compileRequest s.services.compiler s.dsl = .ok r := request
    constructor
    · rw [compileOutcome_nil same]
      exact ⟨rfl, r, .compile, rfl⟩
    · rintro u r' p ⟨⟩
      exact ⟨rfl, rfl, rfl, rfl, r, same⟩

theorem compileStage_beside {v : Services} {dsl typed : RawText} {replies : List Reply}
    {s : Session} {r : Request} {p : Pending}
    (h : CompileStage v dsl typed replies (s, .waiting r p)) (i : Interlude) :
    CompileStage v dsl (i.typed typed) replies (s.interlude i, .waiting r p) := by
  obtain ⟨busy, services, rfl, rfl, r', request⟩ := h.waits s r p rfl
  have shown := h.shown
  rw [compileOutcome_nil request] at shown
  have beside := beside_interlude busy i
  constructor
  · rw [compileOutcome_nil request]
    refine ⟨?_, r, .compile, rfl⟩
    rw [dsl_interlude busy i, shown.1]
  · rintro u r'' p ⟨⟩
    exact ⟨beside.busy, beside.services.trans services, rfl, rfl, r', request⟩

/-- The graph arrives, or the reason why there is none. -/
theorem compileStage_reply {v : Services} {dsl typed : RawText} {replies : List Reply}
    {s : Session} {r : Request} {p : Pending}
    (h : CompileStage v dsl typed replies (s, .waiting r p)) (a : Reply) :
    CompileStage v dsl typed (replies ++ [a]) (s.resume p a) := by
  obtain ⟨-, rfl, rfl, rfl, r', request⟩ := h.waits s r p rfl
  have shown := h.shown
  rw [compileOutcome_nil request] at shown
  have outcome : s.services.compileOutcome dsl [a] =
      some (Compiler.readCompiled s.services.compiler a) := by
    simp only [Services.compileOutcome, request, List.head?_cons, Option.map_some]
  rw [List.nil_append]
  unfold resume
  cases compiled : Compiler.readCompiled s.services.compiler a with
  | error f =>
    rw [compiled] at outcome
    exact compileStage_fail outcome shown.1
  | ok t =>
    have writable := Compiler.isWritable_of_readCompiled compiled
    simp only [finishInstall_install s s.dsl writable]
    apply CompileStage.of_ended
    · rw [outcome, compiled]
      exact ⟨shows_of_editor writable shown.1 rfl rfl, rfl⟩
    · exact ⟨_, rfl⟩

/-- A compilation in flight is at the stage of the replies that have arrived. -/
theorem compileStage_flight {s : Session} {hs : List Happening} {o : Session × Progress}
    (h : Flight s.occupy.startCompile hs o) :
    CompileStage s.services s.dsl (Happening.typed s.dsl hs) (Happening.replies hs) o := by
  induction h with
  | start => exact compileStage_start s
  | beside i _ ih =>
    rw [Happening.replies_beside, Happening.typed_beside]
    exact compileStage_beside ih i
  | reply a _ ih =>
    rw [Happening.replies_reply, Happening.typed_reply]
    exact compileStage_reply ih a

/-! ## Opening a snippet -/

/-- What opening a snippet makes of a session: everything but the message is as before if the
content is unusable or nests too deep, and otherwise description, topology, canvas and title are the
snippet's. -/
def Opened (s : Session) (snippet : Snippet) : Except Failure (RawText × Topology) →
    Session × Progress → Prop
  | .error (.problem p), (u, progress) =>
    u = { s with error := some p.message } ∧ progress = .ended (.ok (.done false))
  | .error f, (u, progress) => u = { s with error := none } ∧ progress = .ended (.error f)
  | .ok (dsl, t), (u, progress) =>
    u = { s with dsl, compiled := some t, editor := u.editor, title := snippet.title,
                 error := none } ∧
      u.Shows dsl t ∧ progress = .ended (.ok (.done true))

/-- A command that has work to do starts it when no other command is in flight. -/
theorem start_of_idle {s : Session} (idle : s.busy = false) {c : Command}
    (same : s.prepare c = s) (work : s.isIdle c = false) : s.start c = s.occupy.work c := by
  rw [start_of_free idle work, same]

theorem opened_fail {s : Session} (idle : s.busy = false) (snippet : Snippet) (f : Failure) :
    Opened s snippet (.error f) (s.occupy.fail f id (.done false)) := by
  have released (error : Option RawText) :
      { s.occupy with error, busy := false } = { s with error } := by
    rw [← idle]
    rfl
  cases f with
  | problem p => exact ⟨released (some p.message), rfl⟩
  | _ => exact ⟨released none, rfl⟩

theorem opened_openSnippet {s : Session} (idle : s.busy = false) (snippet : Snippet) :
    Opened s snippet (Envelope.parse s.services.store.headroom snippet.content)
      (s.start (.openSnippet snippet)) := by
  rw [start_of_idle idle rfl rfl, work, openSnippet]
  cases parsed : Envelope.parse s.services.store.headroom snippet.content with
  | error f =>
    rw [show s.occupy.services = s.services from rfl, parsed]
    exact opened_fail idle snippet f
  | ok parts =>
    obtain ⟨dsl, t⟩ := parts
    have writable := Envelope.isWritable_of_parse parsed
    rw [show s.occupy.services = s.services from rfl, parsed]
    simp only [install_of_isWritable s.occupy dsl writable]
    refine ⟨?_, shows_of_editor writable rfl rfl rfl, rfl⟩
    rw [idle]
    rfl

/-! ## Runs of a command -/

theorem decoded_flight {s : Session} (idle : s.busy = false) {file : ChosenFile}
    (chosen : s.file = some file) {hs : List Happening} {o : Session × Progress}
    (flight : Flight (s.start .decode) hs o) :
    Decoded (s.services.decodeOutcome file.content (Happening.replies hs)) o := by
  have started : s.start .decode = s.occupy.startDecode file := by
    rw [start_of_idle idle rfl (by simp [isIdle, chosen])]
    simp only [work, occupy, chosen]
  rw [started] at flight
  exact (decodeStage_flight flight).shown

theorem compiled_flight {s : Session} (idle : s.busy = false)
    (written : s.dsl.isAllBlank = false) {hs : List Happening} {o : Session × Progress}
    (flight : Flight (s.start .compile) hs o) :
    Compiled (Happening.typed s.dsl hs)
      (s.services.compileOutcome s.dsl (Happening.replies hs)) o := by
  rw [start_of_idle (c := .compile) idle rfl written] at flight
  exact (compileStage_flight flight).shown

/-! ## Main result -/

/-- For any session without a command in flight: decoding, compiling and opening a snippet each
leave what the outcome of the services or the snippet tells, however their replies are mixed with
actions that end at once and with second commands. -/
theorem replaced_wholesale (s : Session) (idle : s.busy = false) :
    (∀ file, s.file = some file → ∀ hs o, Flight (s.start .decode) hs o →
      Decoded (s.services.decodeOutcome file.content (Happening.replies hs)) o) ∧
    (s.dsl.isAllBlank = false → ∀ hs o, Flight (s.start .compile) hs o →
      Compiled (Happening.typed s.dsl hs)
        (s.services.compileOutcome s.dsl (Happening.replies hs)) o) ∧
    ∀ snippet, Opened s snippet (Envelope.parse s.services.store.headroom snippet.content)
      (s.start (.openSnippet snippet)) := by
  refine ⟨?_, ?_, opened_openSnippet idle⟩
  · intro file chosen hs o flight
    exact decoded_flight idle chosen flight
  · intro written hs o flight
    exact compiled_flight idle written flight

/-- A session with a description, a chosen file and something on the canvas. -/
def desk : Session where
  services := .ofAddresses "http://c" "http://d" "http://s" none
  editor := .showing { devices := [{ id := 1, coordinatesLabel := "0 0" }] }
  dsl := "router r1"
  compiled := some { devices := [{ id := 1, coordinatesLabel := "0 0" }] }
  file := some ⟨"lab.bin", [1, 2, 3]⟩

/-- A compilation during which the device is deleted and the description changed, and whose reply
does not arrive. -/
def deskHappenings : List Happening :=
  [.beside (.gesture (.deleteDevice 1 none)), .beside (.gesture (.editDsl "router r2")),
    .reply (.unreachable "refused")]

theorem replaced_wholesale_desk : desk.busy = false ∧ desk.dsl.isAllBlank = false ∧
    ∃ o, Flight (desk.start .compile) deskHappenings o ∧ o.1.IsBare ∧ o.1.dsl = "router r2" := by
  have written : desk.dsl.isAllBlank = false := by decide +kernel
  have compiled := (replaced_wholesale desk rfl).2.1 written
  have pending : desk.services.compileOutcome desk.dsl [] = none := by decide +kernel
  have outcome : ∃ p, desk.services.compileOutcome desk.dsl [.unreachable "refused"] =
      some (.error (.problem p)) := ⟨.unreachable .compiler "http://c" "refused", by decide +kernel⟩
  have started := compiled [] _ .start
  rw [show Happening.replies [] = [] from rfl, pending] at started
  obtain ⟨-, r, p, waits⟩ := started
  have begun : Flight (desk.start .compile) [] ((desk.start .compile).1, .waiting r p) := by
    rw [← waits]
    exact .start
  have flight := ((begun.beside (.gesture (.deleteDevice 1 none))).beside
    (.gesture (.editDsl "router r2"))).reply (.unreachable "refused")
  obtain ⟨q, refused⟩ := outcome
  have ended := compiled _ _ flight
  rw [show Happening.replies _ = [.unreachable "refused"] from rfl, refused] at ended
  exact ⟨rfl, written, _, flight, ended.1, ended.2.1⟩

end Session
end Topograph
