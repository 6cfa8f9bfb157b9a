import Topograph.Proofs.Canvas.Atomicity
import Topograph.Proofs.Session.LiveGraph

/-!
# The inspected device

The details that are open are those of a device as it was when it was selected. The device is still
in the live topology, as the first one of its identifier, perhaps at another place: no edit takes it
out and leaves its details open. The exception is a deletion that fails half done because the
identifier has no text. It takes the device out, and the details stay.
-/
namespace Topograph

theorem Device.IsMoved.trans {a b c : Device} (h : a.IsMoved b) (h' : b.IsMoved c) :
    a.IsMoved c := by
  rw [IsMoved, h, h']

namespace Topology

theorem device?_cascadeDelete (t : Topology) {n id : Int} (h : n ≠ id) :
    (t.cascadeDelete id).device? n = t.device? n := by
  rw [device?, cascadeDelete, List.find?_filter]
  congr 1
  funext d
  by_cases same : d.id = n
  · simp [same, h]
  · simp [same]

theorem device?_relocate (t : Topology) (id : Int) (p : Position) (n : Int) :
    (Editor.relocate t id p).device? n = (t.device? n).map (Editor.movedTo id p) := by
  rw [device?, Editor.relocate, List.find?_map]
  congr 2
  funext d
  simp

end Topology

namespace Editor

variable {e : Editor} {edit : Edit} {d live : Device}

theorem inspected_replace (e : Editor) (t : Topology) : (e.replace t).1.inspected = none := by
  unfold replace
  split <;> rfl

/-! ## One edit -/

/-- The details that are open were open before, or the edit has opened them. -/
theorem inspected_after (h : (e.after edit).inspected = some d) :
    e.inspected = some d ∨ (edit = .select d.id ∧ e.device? d.id = some d) := by
  cases edit with
  | replace t =>
    rw [after, inspected_replace] at h
    cases h
  | clear => cases h
  | select id =>
    obtain ⟨d', found, selected⟩ | ⟨-, failed⟩ := select_cases e id
    · rw [after, selected] at h
      obtain rfl : d' = d := Option.some.inj h
      obtain ⟨t, -, first⟩ := exists_of_device? found
      obtain rfl := Topology.id_of_device? first
      exact .inr ⟨rfl, found⟩
    · rw [after, failed] at h
      exact .inl h
  | dismiss => cases h
  | delete id confirm =>
    obtain ⟨t, d', -, -, deleted⟩ | kept | kept := delete_cases e id confirm
    · rw [after, deleted] at h
      by_cases writable : Number.IsWritable id
      · rw [remove_of_isWritable e t writable] at h
        exact .inl (Option.filter_eq_some_iff.mp h).1
      · rw [remove_of_overlong e t writable] at h
        exact .inl h
    · rw [after, kept] at h
      exact .inl h
    · rw [after, kept] at h
      exact .inl h
  | move id x y =>
    obtain ⟨t, p, nodes, -, moved⟩ | kept := move_fst e id x y
    · rw [after, moved] at h
      exact .inl h
    · rw [after, kept] at h
      exact .inl h

/-- While details stay open, an edit keeps the topology, takes another device out, or moves
devices. It takes out the inspected device itself only if the identifier has no text. -/
theorem topology_after (h : (e.after edit).inspected = some d) :
    (e.after edit).topology = e.topology ∨ ∃ t, e.topology = some t ∧
      ((∃ id confirm, edit = .delete id confirm ∧ (Number.IsWritable id → d.id ≠ id) ∧
          (e.after edit).topology = some (t.cascadeDelete id)) ∨
        ∃ id x y p, edit = .move id x y ∧
          (e.after edit).topology = some (relocate t id p)) := by
  cases edit with
  | replace t =>
    rw [after, inspected_replace] at h
    cases h
  | clear => cases h
  | select id =>
    obtain ⟨d', -, selected⟩ | ⟨-, failed⟩ := select_cases e id
    · rw [after, selected]
      exact .inl rfl
    · rw [after, failed]
      exact .inl rfl
  | dismiss => cases h
  | delete id confirm =>
    obtain ⟨t, d', shown, -, deleted⟩ | kept | kept := delete_cases e id confirm
    · refine .inr ⟨t, shown, .inl ⟨id, confirm, rfl, ?_⟩⟩
      rw [after, deleted] at h ⊢
      by_cases writable : Number.IsWritable id
      · rw [remove_of_isWritable e t writable] at h ⊢
        have other := (Option.filter_eq_some_iff.mp h).2
        exact ⟨fun _ => bne_iff_ne.mp other, rfl⟩
      · rw [remove_of_overlong e t writable]
        exact ⟨fun writable' => absurd writable' writable, rfl⟩
    · rw [after, kept]
      exact .inl rfl
    · rw [after, kept]
      exact .inl rfl
  | move id x y =>
    obtain ⟨t, p, nodes, shown, moved⟩ | kept := move_fst e id x y
    · refine .inr ⟨t, shown, .inr ⟨id, x, y, p, rfl, ?_⟩⟩
      rw [after, moved]
    · rw [after, kept]
      exact .inl rfl

/-- A deletion of the device, if the edit is one, has the text that it needs. -/
def Edit.IsSafeFor (d : Device) (edit : Edit) : Prop :=
  Number.IsWritable d.id ∨ ∀ confirm, edit ≠ .delete d.id confirm

/-- The inspected device stays the first one of its identifier, and only a move of that identifier
puts it anywhere else. -/
theorem device?_after (inspected : (e.after edit).inspected = some d) (safe : edit.IsSafeFor d)
    (found : e.device? d.id = some live) : ∃ live', (e.after edit).device? d.id = some live' ∧
      live'.IsMoved live ∧ ((∀ x y, edit ≠ .move d.id x y) → live' = live) := by
  obtain kept | ⟨t, shown, ⟨id, confirm, rfl, other, cut⟩ | ⟨id, x, y, p, rfl, moved⟩⟩ :=
    topology_after inspected
  · rw [device?, kept]
    exact ⟨live, found, live.isMoved_refl, fun _ => rfl⟩
  · rw [device?, shown] at found
    have others : d.id ≠ id := by
      rintro rfl
      rcases safe with writable | other'
      · exact other writable rfl
      · exact other' confirm rfl
    rw [device?, cut]
    exact ⟨live, (t.device?_cascadeDelete others).trans found, live.isMoved_refl, fun _ => rfl⟩
  · rw [device?, shown] at found
    have first : t.device? d.id = some live := found
    refine ⟨movedTo id p live, ?_, live.isMoved_refl.movedTo id p, fun still => ?_⟩
    · rw [device?, moved]
      exact (t.device?_relocate id p d.id).trans (congrArg (Option.map (movedTo id p)) first)
    · apply movedTo_of_ne
      rw [Topology.id_of_device? first]
      rintro rfl
      exact still x y rfl

/-! ## Runs -/

theorem topology_run_of_inspected (edits : List Edit) (inspected : (run edits).inspected = some d) :
    ∃ t, (run edits).topology = some t := by
  induction edits using List.reverseRecOn generalizing d with
  | nil => cases inspected
  | append_singleton edits edit ih =>
    rw [run_append] at inspected ⊢
    have before : ∃ t, (run edits).topology = some t := by
      obtain kept | ⟨-, found⟩ := inspected_after inspected
      · exact ih kept
      · obtain ⟨t, shown, -⟩ := exists_of_device? found
        exact ⟨t, shown⟩
    obtain kept | ⟨t, -, ⟨id, confirm, -, -, cut⟩ | ⟨id, x, y, p, -, moved⟩⟩ :=
      topology_after inspected
    · rwa [kept]
    · exact ⟨_, cut⟩
    · exact ⟨_, moved⟩

/-- The inspected device was selected, and it was then as its details say. -/
theorem exists_selection (edits : List Edit) (inspected : (run edits).inspected = some d) :
    ∃ before later, edits = before ++ .select d.id :: later ∧
      (run before).device? d.id = some d := by
  induction edits using List.reverseRecOn with
  | nil => cases inspected
  | append_singleton edits edit ih =>
    rw [run_append] at inspected
    obtain kept | ⟨rfl, found⟩ := inspected_after inspected
    · obtain ⟨before, later, rfl, found⟩ := ih kept
      exact ⟨before, later ++ [edit], by simp, found⟩
    · exact ⟨edits, [], rfl, found⟩

/-- While its identifier can be written, the inspected device is live. -/
theorem isLive_run (edits : List Edit) (safe : ∀ edit ∈ edits, edit.IsSafeFor d)
    (inspected : (run edits).inspected = some d) :
    ∃ live, (run edits).device? d.id = some live ∧ live.IsMoved d := by
  induction edits using List.reverseRecOn with
  | nil => cases inspected
  | append_singleton edits edit ih =>
    have safe' := safe edit (by simp)
    rw [run_append] at inspected ⊢
    obtain kept | ⟨-, found⟩ := inspected_after inspected
    · obtain ⟨live, found, moved⟩ := ih (fun edit h => safe edit (by simp [h])) kept
      obtain ⟨live', found', moved', -⟩ := device?_after inspected safe' found
      exact ⟨live', found', moved'.trans moved⟩
    · obtain ⟨live', found', moved', -⟩ := device?_after inspected safe' found
      exact ⟨live', found', moved'⟩

/-- After a selection and no move of the identifier, the live device is as its details say. The
induction is on the edits since; a selection that fails has closed no details, so that there were
none of this device. -/
theorem device?_since_selection (before later : List Edit)
    (safe : ∀ edit ∈ before ++ .select d.id :: later, edit.IsSafeFor d)
    (still : ∀ x y, .move d.id x y ∉ later)
    (inspected : (run (before ++ .select d.id :: later)).inspected = some d) :
    (run (before ++ .select d.id :: later)).device? d.id = some d := by
  induction later using List.reverseRecOn with
  | nil =>
    rw [run_append] at inspected ⊢
    obtain ⟨d', found, selected⟩ | ⟨none, failed⟩ := select_cases (run before) d.id
    · rw [after, selected] at inspected ⊢
      rwa [← Option.some.inj inspected] at found ⊢
    · rw [after, failed] at inspected
      obtain ⟨live, found, -⟩ := isLive_run before (fun edit h => safe edit (by simp [h])) inspected
      rw [none] at found
      cases found
  | append_singleton later edit ih =>
    have split : before ++ .select d.id :: (later ++ [edit]) =
        before ++ .select d.id :: later ++ [edit] := by simp
    have safe' := safe edit (by simp)
    have still' : ∀ x y, edit ≠ .move d.id x y := by
      rintro x y rfl
      exact still x y (by simp)
    rw [split, run_append] at inspected ⊢
    have found : (run (before ++ .select d.id :: later)).device? d.id = some d := by
      obtain kept | ⟨-, found⟩ := inspected_after inspected
      · refine ih (fun edit h => ?_) (fun x y h => ?_) kept
        · exact safe edit (by rw [split]; exact List.mem_append_left _ h)
        · exact still x y (List.mem_append_left _ h)
      · exact found
    obtain ⟨live, found', -, same⟩ := device?_after inspected safe' found
    rw [found', same still']

/-- After any run, the inspected device was selected as its details say, and there is a topology.
If its identifier has a text, or none of its deletions was tried, it is still the first device of
its identifier, with everything but its place as it was, and its place too if no move of the
identifier came after the selection. -/
theorem inspected_device_run (edits : List Edit) (inspected : (run edits).inspected = some d) :
    (∃ t, (run edits).topology = some t) ∧
    (∃ before later, edits = before ++ .select d.id :: later ∧
      (run before).device? d.id = some d) ∧
    ((Number.IsWritable d.id ∨ ∀ confirm, .delete d.id confirm ∉ edits) →
      ∃ live, (run edits).device? d.id = some live ∧ live.IsMoved d ∧
        ∀ before later, edits = before ++ .select d.id :: later →
          (∀ x y, .move d.id x y ∉ later) → live = d) := by
  refine ⟨topology_run_of_inspected edits inspected, exists_selection edits inspected, ?_⟩
  intro texts
  have safe : ∀ edit ∈ edits, edit.IsSafeFor d := by
    rintro edit mem
    refine texts.imp_right fun none confirm => ?_
    rintro rfl
    exact none confirm mem
  obtain ⟨live, found, moved⟩ := isLive_run edits safe inspected
  refine ⟨live, found, moved, ?_⟩
  rintro before later rfl still
  have unmoved := device?_since_selection before later safe still inspected
  exact Option.some.inj (found.symm.trans unmoved)

/-- A run that opens the details of the first twin, and then deletes another device and moves the
twins. -/
def detailEdits : List Edit :=
  [.replace twins, .select 1, .delete 2 none, .move 1 (.int 3) (.int 4)]

/-- A run that deletes an inspected device whose identifier is past the digit limit. -/
def staleEdits : List Edit :=
  [.replace overlong, .select (Nat.pow 10 Number.digitLimit),
    .delete (Nat.pow 10 Number.digitLimit) none]

/-- The inspected twin is live, at another place, and the details of a device whose deletion failed
half done are those of no device. -/
theorem inspected_device_run_twins :
    (∃ d, (run detailEdits).inspected = some d ∧ ∃ live,
      (run detailEdits).device? d.id = some live ∧ live.IsMoved d ∧ live ≠ d) ∧
    ∃ d, (run staleEdits).inspected = some d ∧ (run staleEdits).device? d.id = none := by
  constructor
  · have inspected : (run detailEdits).inspected = some { id := 1, coordinatesLabel := "a" } := by
      decide +kernel
    obtain ⟨-, -, live⟩ := inspected_device_run detailEdits inspected
    obtain ⟨live, found, moved, -⟩ := live (.inl (by decide +kernel))
    refine ⟨_, inspected, live, found, moved, ?_⟩
    rintro rfl
    exact absurd found (by decide +kernel)
  · refine ⟨{ id := Nat.pow 10 Number.digitLimit, coordinatesLabel := "b" }, ?_, ?_⟩
    · decide +kernel
    · decide +kernel

end Editor
end Topograph
