import Topograph.Proofs.Canvas.Edits
import Topograph.Session.Command

/-!
# What happens beside a command

While a command waits for a reply, the actions that end at once go on, and a second command may be
started and is turned away. None of this touches the compiled topology, the busy flag or the
services, and on an empty canvas nothing can be drawn by it. Only typing changes the description.
-/
namespace Topograph

/-- An action that ends at once. -/
inductive Gesture where
  | editDsl (text : RawText)
  | setTitle (title : RawText)
  | dismissError
  | chooseFile (file : ChosenFile)
  | selectDevice (id : Int)
  | dismissDevice
  | deleteDevice (id : Int) (confirm : Option (Device → Bool))
  | moveDevice (id : Int) (x y : Json)

/-- What can come between the request of a command and its reply. -/
inductive Interlude where
  | gesture (g : Gesture)
  | start (c : Command)

namespace Session

/-- The session that an action leaves behind, whether it succeeds or not. -/
def gesture (s : Session) : Gesture → Session
  | .editDsl text => s.editDsl text
  | .setTitle title => s.setTitle title
  | .dismissError => s.dismissError
  | .chooseFile file => (s.chooseFile file).1
  | .selectDevice id => (s.selectDevice id).1
  | .dismissDevice => s.dismissDevice
  | .deleteDevice id confirm => (s.deleteDevice id confirm).1
  | .moveDevice id x y => (s.moveDevice id x y).1

def interlude (s : Session) : Interlude → Session
  | .gesture g => s.gesture g
  | .start c => (s.start c).1

end Session

/-- The description after an action. -/
def Gesture.typed (dsl : RawText) : Gesture → RawText
  | .editDsl text => text
  | _ => dsl

def Interlude.typed (dsl : RawText) : Interlude → RawText
  | .gesture g => g.typed dsl
  | .start _ => dsl

namespace Session

/-! ## Actions that end at once -/

/-- An action changes only the description, the title, the chosen file, the message and the
graph. -/
theorem gesture_eq (s : Session) (g : Gesture) : ∃ title file error, s.gesture g =
    { s with dsl := g.typed s.dsl, title, file, error, editor := (s.gesture g).editor } := by
  cases g with
  | chooseFile file =>
    simp only [gesture, chooseFile]
    split <;> exact ⟨_, _, _, rfl⟩
  | _ => exact ⟨_, _, _, rfl⟩

theorem dsl_gesture (s : Session) (g : Gesture) : (s.gesture g).dsl = g.typed s.dsl := by
  obtain ⟨title, file, error, frame⟩ := gesture_eq s g
  rw [frame]

theorem compiled_gesture (s : Session) (g : Gesture) : (s.gesture g).compiled = s.compiled := by
  obtain ⟨title, file, error, frame⟩ := gesture_eq s g
  rw [frame]

/-- Without a topology there is no device to select, to delete or to move. -/
theorem editor_gesture_of_clear {s : Session} (h : s.editor = .clear) (g : Gesture) :
    (s.gesture g).editor = .clear := by
  cases g with
  | chooseFile file =>
    simp only [gesture, chooseFile]
    split <;> exact h
  | selectDevice id =>
    rw [gesture, selectDevice, afterEdit, h]
    rfl
  | dismissDevice =>
    rw [gesture, dismissDevice, h]
    rfl
  | deleteDevice id confirm =>
    rw [gesture, deleteDevice, afterEdit, h]
    rfl
  | moveDevice id x y =>
    rw [gesture, moveDevice, afterEdit, h]
    rfl
  | _ => exact h

/-! ## Second commands -/

/-- Setting a title is all that a command can do to a session without its work. -/
theorem prepare_cases (s : Session) (c : Command) :
    s.prepare c = s ∨ ∃ title, s.prepare c = s.setTitle title := by
  unfold prepare
  split
  · exact .inr ⟨_, rfl⟩
  · exact .inl rfl

theorem busy_prepare (s : Session) (c : Command) : (s.prepare c).busy = s.busy := by
  obtain same | ⟨title, same⟩ := prepare_cases s c
  · rw [same]
  · rw [same]
    rfl

theorem isIdle_prepare (s : Session) (c : Command) : (s.prepare c).isIdle c = s.isIdle c := by
  cases c <;> rfl

/-- A command that has something to work on does its work when no other one is in flight. -/
theorem start_of_free {s : Session} (free : s.busy = false) {c : Command}
    (works : s.isIdle c = false) : s.start c = (s.prepare c).occupy.work c := by
  have idle : (s.prepare c).isIdle c = false := (isIdle_prepare s c).trans works
  have busy : (s.prepare c).busy = false := (busy_prepare s c).trans free
  rw [start]
  simp only [idle, busy, Bool.false_eq_true, if_false]

/-- A session that is busy takes at most the title of a second command. -/
theorem start_of_busy {s : Session} (h : s.busy = true) (c : Command) :
    ∃ result, s.start c = (s.prepare c, .ended result) := by
  have busy : (s.prepare c).busy = true := (busy_prepare s c).trans h
  unfold start
  simp only [busy, if_true]
  split
  · exact ⟨_, rfl⟩
  · exact ⟨_, rfl⟩

/-- For a busy session every interlude is an action that ends at once, or nothing. -/
theorem interlude_cases {s : Session} (h : s.busy = true) (i : Interlude) :
    (∃ g : Gesture, s.interlude i = s.gesture g ∧ g.typed s.dsl = i.typed s.dsl) ∨
      s.interlude i = s ∧ i.typed s.dsl = s.dsl := by
  cases i with
  | gesture g => exact .inl ⟨g, rfl, rfl⟩
  | start c =>
    obtain ⟨result, started⟩ := start_of_busy h c
    rw [interlude, started]
    rcases prepare_cases s c with same | ⟨title, titled⟩
    · exact .inr ⟨same, rfl⟩
    · exact .inl ⟨.setTitle title, titled, rfl⟩

/-- What an interlude leaves alone while a command is in flight. -/
structure Beside (s u : Session) : Prop where
  busy : u.busy = true
  services : u.services = s.services
  compiled : u.compiled = s.compiled
  clear : s.editor = .clear → u.editor = .clear

theorem beside_interlude {s : Session} (h : s.busy = true) (i : Interlude) :
    Beside s (s.interlude i) := by
  rcases interlude_cases h i with ⟨g, same, -⟩ | ⟨same, -⟩
  · obtain ⟨title, file, error, frame⟩ := gesture_eq s g
    rw [same]
    refine ⟨?_, ?_, compiled_gesture s g, fun empty => editor_gesture_of_clear empty g⟩
    · rw [frame, h]
    · rw [frame]
  · rw [same]
    exact ⟨h, rfl, rfl, id⟩

theorem dsl_interlude {s : Session} (h : s.busy = true) (i : Interlude) :
    (s.interlude i).dsl = i.typed s.dsl := by
  rcases interlude_cases h i with ⟨g, same, typed⟩ | ⟨same, typed⟩
  · rw [same, dsl_gesture, typed]
  · rw [same, typed]

end Session
end Topograph
