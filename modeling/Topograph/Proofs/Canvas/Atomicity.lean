import Topograph.Proofs.Canvas.Edits

/-!
# Edits that are not done

An edit is not done if it fails, or if it is a deletion that is declined. It then leaves the editor
as it was in every part, with one exception: installing, deleting and moving store the new topology
before they need the texts of identifiers, and where there is no such text, the edit fails half
done. What is drawn is then still the drawing of before. A move needs the text only for a device
that has a node to be drawn on; after an installation that was half done, not every device does.
-/
namespace Topograph.Editor

/-- How an edit ends: in a failure, or with whether it was done. -/
def report (e : Editor) : Edit → Except Failure Bool
  | .replace t => (e.replace t).2.map fun _ => true
  | .clear | .dismiss => .ok true
  | .select id => (e.select id).2.map fun _ => true
  | .delete id confirm => (e.delete id confirm).2
  | .move id x y => (e.move id x y).2.map fun _ => true

/-- What an edit leaves behind that has stored its topology when it misses the text of an
identifier. -/
inductive HalfDone (e : Editor) : Edit → Editor → Prop where
  | replace {t : Topology} (overlong : ¬ t.IsWritable) :
      HalfDone e (.replace t) { e with topology := some t, inspected := none }
  | delete {t : Topology} {d : Device} {id : Int} {confirm : Option (Device → Bool)}
      (shown : e.topology = some t) (found : t.device? id = some d)
      (given : ∀ ask ∈ confirm, ask d = true) (overlong : ¬ Number.IsWritable id) :
      HalfDone e (.delete id confirm) { e with topology := some (t.cascadeDelete id) }
  | move {t : Topology} {d : Device} {id : Int} {x y : Json} {p : Position}
      (shown : e.topology = some t) (found : t.device? id = some d)
      (placed : Validation.position .held (.object [("x", x), ("y", y)]) = .ok p)
      (drawn : e.IsDrawn t id) (overlong : ¬ Number.IsWritable id) :
      HalfDone e (.move id x y) { e with topology := some (relocate t id p) }

theorem HalfDone.projection_eq {e e' : Editor} {edit : Edit} (h : e.HalfDone edit e') :
    e'.projection = e.projection := by
  cases h <;> rfl

variable {e : Editor}

theorem undone_delete {id : Int} {confirm : Option (Device → Bool)}
    (undone : e.report (.delete id confirm) ≠ .ok true) :
    e.after (.delete id confirm) = e ∨ (e.report (.delete id confirm) = .error .unwritable ∧
      e.HalfDone (.delete id confirm) (e.after (.delete id confirm))) := by
  obtain ⟨t, d, shown, found, deleted⟩ | declined | absent := delete_cases e id confirm
  · by_cases given : ∀ ask ∈ confirm, ask d = true
    · by_cases writable : Number.IsWritable id
      · rw [report, deleted, remove_of_isWritable e t writable] at undone
        exact absurd rfl undone
      · rw [report, after, deleted, remove_of_overlong e t writable]
        exact .inr ⟨rfl, .delete shown found given writable⟩
    · push Not at given
      obtain ⟨ask, rfl, declines⟩ := given
      rw [after, delete_of_declined shown found (Bool.eq_false_iff.mpr declines)]
      exact .inl rfl
  · rw [after, declined]
    exact .inl rfl
  · rw [after, absent]
    exact .inl rfl

/-- The move of a device that is not drawn is done, whether its identifier has a text or not. -/
theorem report_move_of_not_isDrawn {t : Topology} {d : Device} {id : Int} {x y : Json}
    {p : Position} (shown : e.topology = some t) (found : t.device? id = some d)
    (valid : Validation.position .held (.object [("x", x), ("y", y)]) = .ok p)
    (undrawn : ¬ e.IsDrawn t id) : e.report (.move id x y) = .ok true ∧
      e.after (.move id x y) = { e with topology := some (relocate t id p) } := by
  rw [report, after, move_eq_place shown found valid, place_of_not_isDrawn found undrawn]
  exact ⟨rfl, rfl⟩

theorem undone_move {id : Int} {x y : Json} (undone : e.report (.move id x y) ≠ .ok true) :
    e.after (.move id x y) = e ∨ (e.report (.move id x y) = .error .unwritable ∧
      e.HalfDone (.move id x y) (e.after (.move id x y))) := by
  obtain ⟨t, d, p, shown, found, placed, moved⟩ | ⟨f, failed⟩ := move_places e id x y
  · by_cases drawn : e.IsDrawn t id
    · by_cases writable : Number.IsWritable id
      · rw [report, moved, place_done e t writable] at undone
        exact absurd rfl undone
      · rw [place_of_overlong writable drawn p] at moved
        rw [report, after, moved]
        exact .inr ⟨rfl, .move shown found placed drawn writable⟩
    · exact absurd (report_move_of_not_isDrawn shown found placed drawn).1 undone
  · rw [after, failed]
    exact .inl rfl

/-- Just these edits are half done. -/
theorem HalfDone.after_eq {edit : Edit} {e' : Editor} (h : e.HalfDone edit e') :
    e.report edit = .error .unwritable ∧ e.after edit = e' := by
  cases h with
  | replace overlong =>
    rw [report, after, replace_of_overlong e (Topology.project?_eq_none overlong)]
    exact ⟨rfl, rfl⟩
  | delete shown found given overlong =>
    rw [report, after, delete_eq_remove shown found given, remove_of_overlong e _ overlong]
    exact ⟨rfl, rfl⟩
  | move shown found valid drawn overlong =>
    rw [report, after, move_eq_place shown found valid, place_of_overlong overlong drawn]
    exact ⟨rfl, rfl⟩

/-- An edit that fails or is declined leaves every part of the editor as it was, unless it misses
the text of an identifier and fails half done. The edits that do are the installation of a
topology with such an identifier, the deletion of a device that has it, and the move of one that
has it and is drawn. -/
theorem unchanged_or_half_done (e : Editor) (edit : Edit) :
    (e.report edit ≠ .ok true → e.after edit = e ∨
      (e.report edit = .error .unwritable ∧ e.HalfDone edit (e.after edit))) ∧
    ∀ e', e.HalfDone edit e' → e.report edit = .error .unwritable ∧ e.after edit = e' := by
  refine ⟨fun undone => ?_, fun e' half => half.after_eq⟩
  cases edit with
  | replace t =>
    by_cases writable : t.IsWritable
    · have installed := replace_eq_showing e writable
      rw [report, installed] at undone
      exact absurd rfl undone
    · have replaced := replace_of_overlong e (Topology.project?_eq_none writable)
      rw [report, after, replaced]
      exact .inr ⟨rfl, .replace writable⟩
  | clear => exact absurd rfl undone
  | select id =>
    obtain ⟨d, -, selected⟩ | ⟨-, failed⟩ := select_cases e id
    · rw [report, selected] at undone
      exact absurd rfl undone
    · rw [after, failed]
      exact .inl rfl
  | dismiss => exact absurd rfl undone
  | delete id confirm => exact undone_delete undone
  | move id x y => exact undone_move undone

/-- An editor that inspects the first of two devices of one identifier. -/
def inspectingTwins : Editor := ((showing twins).select 1).1

/-- Two devices, the second of them with an identifier past the digit limit. -/
def overlong : Topology where
  devices := [{ id := 1, coordinatesLabel := "a" },
    { id := Nat.pow 10 Number.digitLimit, coordinatesLabel := "b" }]

/-- A deletion that is declined changes nothing, and a topology without a drawing is installed
beside the drawing of another one. A move of its overlong device then fails half done where the
device stands beside a node, and is done in an editor that draws nothing. -/
theorem unchanged_or_half_done_overlong :
    inspectingTwins.report (.delete 1 (some fun _ => false)) ≠ .ok true ∧
    inspectingTwins.after (.delete 1 (some fun _ => false)) = inspectingTwins ∧
    inspectingTwins.report (.replace overlong) = .error .unwritable ∧
    (inspectingTwins.after (.replace overlong)).topology = some overlong ∧
    (inspectingTwins.after (.replace overlong)).projection = twins.drawing ∧
    (inspectingTwins.after (.replace overlong)).report
      (.move (Nat.pow 10 Number.digitLimit) (.int 1) (.int 2)) = .error .unwritable ∧
    (clear.after (.replace overlong)).report
      (.move (Nat.pow 10 Number.digitLimit) (.int 1) (.int 2)) = .ok true := by
  have declined : inspectingTwins.report (.delete 1 (some fun _ => false)) = .ok false := by
    decide +kernel
  have undone : inspectingTwins.report (.delete 1 (some fun _ => false)) ≠ .ok true := by
    simp [declined]
  have kept : inspectingTwins.after (.delete 1 (some fun _ => false)) = inspectingTwins := by
    rcases (unchanged_or_half_done _ _).1 undone with kept | ⟨unwritable, -⟩
    · exact kept
    · rw [declined] at unwritable
      cases unwritable
  have half : inspectingTwins.HalfDone (.replace overlong) _ :=
    .replace (by decide +kernel)
  obtain ⟨failed, installed⟩ := (unchanged_or_half_done _ _).2 _ half
  refine ⟨undone, kept, failed, ?_, ?_, by decide +kernel, by decide +kernel⟩
  · rw [installed]
  · rw [installed]
    exact half.projection_eq

end Topograph.Editor
