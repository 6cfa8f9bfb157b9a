import Topograph.Proofs.Session.Gestures

/-!
# Commands in flight

A command that has started goes on as long as it waits for a reply, among actions that end at once
and second commands. What it may leave in a session is the whole of a description and its topology,
freshly drawn, or an empty canvas.
-/
namespace Topograph

/-- What happens while a command is in flight. -/
inductive Happening where
  | beside (i : Interlude)
  | reply (r : Reply)

namespace Happening

def reply? : Happening → Option Reply
  | .beside _ => none
  | .reply r => some r

/-- The replies, in the order in which they arrive. -/
def replies (hs : List Happening) : List Reply := hs.filterMap reply?

/-- The description after one happening. -/
def after (dsl : RawText) : Happening → RawText
  | .beside i => i.typed dsl
  | .reply _ => dsl

/-- The description as it was last typed. -/
def typed (dsl : RawText) (hs : List Happening) : RawText := hs.foldl after dsl

@[simp] theorem replies_beside (hs : List Happening) (i : Interlude) :
    replies (hs ++ [.beside i]) = replies hs := by
  simp [replies, reply?]

@[simp] theorem replies_reply (hs : List Happening) (r : Reply) :
    replies (hs ++ [.reply r]) = replies hs ++ [r] := by
  simp [replies, reply?]

@[simp] theorem typed_beside (dsl : RawText) (hs : List Happening) (i : Interlude) :
    typed dsl (hs ++ [.beside i]) = i.typed (typed dsl hs) := by
  rw [typed, List.foldl_append]
  rfl

@[simp] theorem typed_reply (dsl : RawText) (hs : List Happening) (r : Reply) :
    typed dsl (hs ++ [.reply r]) = typed dsl hs := by
  rw [typed, List.foldl_append]
  rfl

end Happening

/-- A command that has started goes on as long as it waits, and ends with the reply that it needs
no further one after. -/
inductive Flight (started : Session × Progress) : List Happening → Session × Progress → Prop where
  | start : Flight started [] started
  | beside {hs : List Happening} {s : Session} {r : Request} {p : Pending} (i : Interlude) :
      Flight started hs (s, .waiting r p) →
      Flight started (hs ++ [.beside i]) (s.interlude i, .waiting r p)
  | reply {hs : List Happening} {s : Session} {r : Request} {p : Pending} (a : Reply) :
      Flight started hs (s, .waiting r p) →
      Flight started (hs ++ [.reply a]) (s.resume p a)

namespace Session

/-- The session shows this description with this topology, freshly drawn and with no device
inspected. -/
structure Shows (s : Session) (dsl : RawText) (t : Topology) : Prop where
  dsl : s.dsl = dsl
  compiled : s.compiled = some t
  topology : s.editor.topology = some t
  inspected : s.editor.inspected = none
  drawn : t.project? = some s.editor.projection

/-- Nothing is compiled and the canvas is empty. -/
structure IsBare (s : Session) : Prop where
  compiled : s.compiled = none
  editor : s.editor = .clear

theorem isBare_clear (s : Session) : s.clear.IsBare := ⟨rfl, rfl⟩

theorem ended_fail (s : Session) (f : Failure) (fallback : Session → Session) (a : Answer) :
    ∃ result, (s.fail f fallback a).2 = .ended result := by
  cases f <;> exact ⟨_, rfl⟩

/-- A command that has ended waits for nothing. -/
theorem ne_waiting_of_ended {o : Session × Progress} (h : ∃ result, o.2 = .ended result)
    (s : Session) (r : Request) (p : Pending) : o ≠ (s, .waiting r p) := by
  rintro rfl
  obtain ⟨result, waiting⟩ := h
  cases waiting

theorem install_of_isWritable (s : Session) (dsl : RawText) {t : Topology} (h : t.IsWritable) :
    s.install dsl t =
      ({ s with dsl, compiled := some t, editor := Editor.showing t }, .ok ()) := by
  rw [install, Editor.replace_eq_showing s.editor h]

theorem finishInstall_install (s : Session) (dsl : RawText) {t : Topology} (h : t.IsWritable) :
    finishInstall (s.install dsl t) =
      ({ s with dsl, compiled := some t, editor := Editor.showing t, busy := false },
        .ended (.ok (.done true))) := by
  rw [install_of_isWritable s dsl h]
  rfl

theorem shows_of_editor {s : Session} {dsl : RawText} {t : Topology} (h : t.IsWritable)
    (hdsl : s.dsl = dsl) (hcompiled : s.compiled = some t) (heditor : s.editor = .showing t) :
    s.Shows dsl t where
  dsl := hdsl
  compiled := hcompiled
  topology := by rw [heditor]; rfl
  inspected := by rw [heditor]; rfl
  drawn := by rw [heditor, Topology.project?_eq_drawing h]; rfl

end Session
end Topograph
