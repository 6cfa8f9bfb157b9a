import Mathlib.Tactic.Push
import Topograph.Network.Topology
import Topograph.Proofs.Number.IntegerText

/-!
# Writable topologies

A topology is writable if each of its identifiers has a text, that is, at most as many digits as
the limit admits. Deleting a device keeps a topology writable, and so does any change of the
devices that keeps their identifiers.
-/
namespace Topograph
open Number

/-- Both endpoints have a text. -/
def Link.IsWritable (l : Link) : Prop := Number.IsWritable l.source ∧ Number.IsWritable l.target

instance (l : Link) : Decidable l.IsWritable := inferInstanceAs (Decidable (_ ∧ _))

theorem Link.integerText?_eq_none {l : Link} (h : ¬ l.IsWritable) :
    integerText? l.source = none ∨ integerText? l.target = none :=
  (not_and_or.mp h).imp integerText?_of_overlong integerText?_of_overlong

/-- A step that succeeds on every element succeeds on the whole list. -/
theorem mapM_eq_some_map {α β : Type} {f : α → Option β} {g : α → β} {xs : List α}
    (h : ∀ x ∈ xs, f x = some (g x)) : xs.mapM f = some (xs.map g) := by
  induction xs with
  | nil => rfl
  | cons x rest ih =>
    have others := ih fun y hy => h y (List.mem_cons_of_mem x hy)
    rw [List.mapM_cons, h x List.mem_cons_self, others]
    rfl

/-- A step that fails on one element fails on the whole list. -/
theorem mapM_eq_none {α β : Type} {f : α → Option β} {xs : List α} {x : α} (mem : x ∈ xs)
    (h : f x = none) : xs.mapM f = none := by
  induction xs with
  | nil => cases mem
  | cons y rest ih =>
    rw [List.mapM_cons]
    rcases List.mem_cons.mp mem with rfl | mem
    · rw [h]
      rfl
    · rw [ih mem]
      cases f y <;> rfl

namespace Topology

/-- Every identifier of a device or an endpoint has a text. -/
def IsWritable (t : Topology) : Prop :=
  (∀ d ∈ t.devices, Number.IsWritable d.id) ∧ ∀ l ∈ t.links, l.IsWritable

instance (t : Topology) : Decidable t.IsWritable := inferInstanceAs (Decidable (_ ∧ _))

theorem not_isWritable_iff (t : Topology) : ¬ t.IsWritable ↔
    (∃ d ∈ t.devices, ¬ Number.IsWritable d.id) ∨ ∃ l ∈ t.links, ¬ l.IsWritable := by
  rw [IsWritable, not_and_or]
  push Not
  rfl

theorem IsWritable.cascadeDelete {t : Topology} (h : t.IsWritable) (id : Int) :
    (t.cascadeDelete id).IsWritable :=
  ⟨fun d hd => h.1 d (List.mem_filter.mp hd).1, fun l hl => h.2 l (List.mem_filter.mp hl).1⟩

theorem IsWritable.mapDevices {t : Topology} (h : t.IsWritable) (f : Device → Device)
    (hf : ∀ d, (f d).id = d.id) :
    ({ t with devices := t.devices.map f } : Topology).IsWritable := by
  refine ⟨?_, h.2⟩
  intro d hd
  obtain ⟨d', hd', rfl⟩ := List.mem_map.mp hd
  rw [hf]
  exact h.1 d' hd'

/-- A device that is found has the identifier that was looked for. -/
theorem id_of_device? {t : Topology} {id : Int} {d : Device} (h : t.device? id = some d) :
    d.id = id := by
  have found := List.find?_some h
  exact eq_of_beq found

theorem mem_of_device? {t : Topology} {id : Int} {d : Device} (h : t.device? id = some d) :
    d ∈ t.devices := List.mem_of_find?_eq_some h

theorem IsWritable.of_device? {t : Topology} (h : t.IsWritable) {id : Int} {d : Device}
    (found : t.device? id = some d) : Number.IsWritable id := by
  rw [← id_of_device? found]
  exact h.1 d (mem_of_device? found)

end Topology
end Topograph
