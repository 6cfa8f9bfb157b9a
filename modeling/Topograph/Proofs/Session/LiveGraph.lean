import Mathlib.Data.List.Forall2
import Topograph.Proofs.Session.Gestures

/-!
# The live graph and the compiled one

The live topology starts as the compiled one. Deletions take devices and links out of it and moves
give devices another place; nothing else about it ever changes. The compiled topology stays as it
is.
-/
namespace Topograph

/-- The device has another place, perhaps, and is otherwise the original. -/
def Device.IsMoved (d original : Device) : Prop := d = { original with position := d.position }

theorem Device.isMoved_refl (d : Device) : d.IsMoved d := rfl

theorem Device.IsMoved.id_eq {d original : Device} (h : d.IsMoved original) :
    d.id = original.id := by
  rw [h]

theorem Device.IsMoved.movedTo {d original : Device} (h : d.IsMoved original) (id : Int)
    (p : Position) : (Editor.movedTo id p d).IsMoved original := by
  unfold Editor.movedTo
  split
  · rw [IsMoved, h]
  · exact h

namespace Topology

/-- The live topology is the compiled one without the deleted devices and the links that touch one
of them, in the same order, and with devices perhaps at another place. -/
structure Follows (deleted : List Int) (compiled live : Topology) : Prop where
  links : live.links = compiled.links.filter fun l => !deleted.any l.touches
  devices : List.Forall₂ Device.IsMoved live.devices
    (compiled.devices.filter fun d => !deleted.contains d.id)

theorem follows_refl (t : Topology) : Follows [] t t where
  links := by simp
  devices := by simpa using List.forall₂_same.mpr fun d _ => d.isMoved_refl

theorem Follows.cascadeDelete {deleted : List Int} {compiled live : Topology}
    (h : Follows deleted compiled live) (id : Int) :
    Follows (id :: deleted) compiled (live.cascadeDelete id) where
  links := by
    rw [Topology.cascadeDelete, h.links, List.filter_filter]
    simp only [List.any_cons, Bool.not_or]
  devices := by
    have kept := List.rel_filter (p := fun d : Device => d.id != id)
      (q := fun d : Device => d.id != id)
      (fun d c (moved : Device.IsMoved d c) => by simp only [moved.id_eq]) h.devices
    rw [List.filter_filter] at kept
    simpa only [Topology.cascadeDelete, List.contains_cons, Bool.not_or, bne] using kept

theorem Follows.relocate {deleted : List Int} {compiled live : Topology}
    (h : Follows deleted compiled live) (id : Int) (p : Position) :
    Follows deleted compiled (Editor.relocate live id p) where
  links := h.links
  devices := by
    rw [Editor.relocate, List.forall₂_map_left_iff]
    exact h.devices.imp fun d c moved => moved.movedTo id p

end Topology

/-! ## Edits of the graph -/

/-- The editor shows what became of the compiled topology after these deletions, or nothing if
there is none. -/
def Editor.Tracks (deleted : List Int) (compiled : Option Topology) (e : Editor) : Prop :=
  match compiled with
  | none => e = .clear
  | some c => e.Faithful ∧ ∃ live, e.topology = some live ∧ Topology.Follows deleted c live

namespace Session

/-- The identifier that an action deletes from the graph, if it does. -/
def deletedBy (s : Session) : Gesture → List Int
  | .deleteDevice id confirm => match (s.deleteDevice id confirm).2 with
    | .ok true => [id]
    | _ => []
  | _ => []

end Session

namespace Editor

theorem tracks_showing {t : Topology} (h : t.IsWritable) : Tracks [] (some t) (showing t) :=
  ⟨faithful_showing h, t, rfl, t.follows_refl⟩

theorem Tracks.congr {deleted : List Int} {compiled : Topology} {e e' : Editor}
    (h : Tracks deleted (some compiled) e) (topology : e'.topology = e.topology)
    (projection : e'.projection = e.projection) : Tracks deleted (some compiled) e' := by
  obtain ⟨faithful, live, shown, follows⟩ := h
  exact ⟨faithful.congr topology projection, live, topology.trans shown, follows⟩

theorem Tracks.select {deleted : List Int} {compiled : Topology} {e : Editor}
    (h : Tracks deleted (some compiled) e) (id : Int) :
    Tracks deleted (some compiled) (e.select id).1 := by
  unfold Editor.select
  split
  · exact h.congr rfl rfl
  · exact h

theorem Tracks.delete {deleted : List Int} {compiled : Topology} {e : Editor}
    (h : Tracks deleted (some compiled) e) (id : Int) (confirm : Option (Device → Bool)) :
    Tracks ((match (e.delete id confirm).2 with | .ok true => [id] | _ => []) ++ deleted)
      (some compiled) (e.delete id confirm).1 := by
  obtain ⟨faithful, live, shown, follows⟩ := h
  have after := faithful_delete faithful id confirm
  obtain ⟨t, d, ht, found, hdelete⟩ | hdelete | hdelete := delete_cases e id confirm
  · obtain rfl : t = live := Option.some.inj (ht.symm.trans shown)
    have hid := (faithful.of_some ht).1.of_device? found
    rw [hdelete, remove_of_isWritable e t hid] at after ⊢
    exact ⟨after, _, rfl, follows.cascadeDelete id⟩
  · simp only [hdelete]
    exact ⟨faithful, live, shown, follows⟩
  · simp only [hdelete]
    exact ⟨faithful, live, shown, follows⟩

theorem Tracks.move {deleted : List Int} {compiled : Topology} {e : Editor}
    (h : Tracks deleted (some compiled) e) (id : Int) (x y : Json) :
    Tracks deleted (some compiled) (e.move id x y).1 := by
  obtain ⟨faithful, live, shown, follows⟩ := h
  have after := faithful_move faithful id x y
  obtain ⟨t, d, p, ht, -, -, hmove⟩ | ⟨f, hmove⟩ := move_cases faithful id x y
  · obtain rfl : t = live := Option.some.inj (ht.symm.trans shown)
    rw [hmove] at after ⊢
    exact ⟨after, _, rfl, follows.relocate id p⟩
  · simp only [hmove]
    exact ⟨faithful, live, shown, follows⟩

end Editor

namespace Session

/-- An action keeps the live graph on the track of the compiled one. -/
theorem tracks_gesture {s : Session} {deleted : List Int}
    (h : s.editor.Tracks deleted s.compiled) (g : Gesture) :
    (s.gesture g).editor.Tracks (s.deletedBy g ++ deleted) (s.gesture g).compiled := by
  rw [compiled_gesture]
  cases compiled : s.compiled with
  | none =>
    rw [compiled] at h
    exact editor_gesture_of_clear h g
  | some c =>
    rw [compiled] at h
    cases g with
    | chooseFile file =>
      simp only [gesture, chooseFile]
      split <;> exact h
    | selectDevice id => exact h.select id
    | dismissDevice => exact h.congr rfl rfl
    | deleteDevice id confirm => exact h.delete id confirm
    | moveDevice id x y => exact h.move id x y
    | _ => exact h

end Session
end Topograph
