import Mathlib.Data.List.Nodup
import Topograph.Proofs.Network.Consistency

/-!
# Deleting one device after another

Deleting the devices of a list keeps exactly the devices that are not listed and the links that
touch none of them, in their order; how the list is ordered and what it repeats does not matter. A
link that stays has lost neither of its endpoints, so it dangles afterwards exactly if it did
before.
-/
namespace Topograph

/-- Neither endpoint of the link is listed. -/
def Link.avoids (l : Link) (ids : List Int) : Bool :=
  !ids.contains l.source && !ids.contains l.target

theorem Link.avoids_cons (l : Link) (id : Int) (ids : List Int) :
    l.avoids (id :: ids) = (l.avoids ids && !l.touches id) := by
  simp only [avoids, touches, List.contains_cons, Bool.not_or]
  grind

namespace Topology

/-- The topology after the deletion of each listed device in turn. -/
def cascadeDeleteAll (t : Topology) (ids : List Int) : Topology := ids.foldl cascadeDelete t

theorem cascadeDeleteAll_cons (t : Topology) (id : Int) (ids : List Int) :
    t.cascadeDeleteAll (id :: ids) = (t.cascadeDelete id).cascadeDeleteAll ids := rfl

theorem devices_cascadeDeleteAll (t : Topology) (ids : List Int) :
    (t.cascadeDeleteAll ids).devices = t.devices.filter fun d => !ids.contains d.id := by
  induction ids generalizing t with
  | nil => simp [cascadeDeleteAll]
  | cons id ids ih =>
    rw [cascadeDeleteAll_cons, ih, cascadeDelete, List.filter_filter]
    apply List.filter_congr
    intro d _
    rw [List.contains_cons, Bool.not_or, Bool.and_comm]
    rfl

theorem links_cascadeDeleteAll (t : Topology) (ids : List Int) :
    (t.cascadeDeleteAll ids).links = t.links.filter fun l => l.avoids ids := by
  induction ids generalizing t with
  | nil => simp [cascadeDeleteAll, Link.avoids]
  | cons id ids ih =>
    rw [cascadeDeleteAll_cons, ih, cascadeDelete, List.filter_filter]
    simp only [Link.avoids_cons]

/-- Two lists of the same identifiers delete the same. -/
theorem cascadeDeleteAll_congr (t : Topology) {ids others : List Int}
    (same : ∀ n, n ∈ ids ↔ n ∈ others) : t.cascadeDeleteAll ids = t.cascadeDeleteAll others := by
  have listed : ∀ n, ids.contains n = others.contains n := fun n => by
    rw [Bool.eq_iff_iff, List.contains_iff_mem, List.contains_iff_mem, same]
  rw [Topology.mk.injEq, devices_cascadeDeleteAll, devices_cascadeDeleteAll,
    links_cascadeDeleteAll, links_cascadeDeleteAll]
  simp only [Link.avoids, listed, and_self]

theorem cascadeDelete_comm (t : Topology) (a b : Int) :
    (t.cascadeDelete a).cascadeDelete b = (t.cascadeDelete b).cascadeDelete a := by
  have same : ∀ n, n ∈ [a, b] ↔ n ∈ [b, a] := fun n => by simp [or_comm]
  exact t.cascadeDeleteAll_congr same

/-! ## Dangling links -/

/-- A link that does not touch the deleted device has the endpoints that it had before. -/
theorem resolves_cascadeDelete (t : Topology) {l : Link} {id : Int} (h : l.touches id = false) :
    (t.cascadeDelete id).resolves l = t.resolves l := by
  have ends : l.source ≠ id ∧ l.target ≠ id := by simpa [Link.touches] using h
  rw [Bool.eq_iff_iff, resolves_iff, resolves_iff, deviceIds_cascadeDelete]
  simp [ends]

theorem danglingLinks_cascadeDelete (t : Topology) (id : Int) :
    (t.cascadeDelete id).danglingLinks = t.danglingLinks.filter fun l => !l.touches id := by
  rw [danglingLinks, danglingLinks, cascadeDelete, List.filter_filter, List.filter_filter]
  apply List.filter_congr
  intro l _
  cases touched : l.touches id with
  | true => simp
  | false =>
    have kept := t.resolves_cascadeDelete touched
    rw [cascadeDelete] at kept
    rw [kept, Bool.and_comm]

theorem danglingLinks_cascadeDeleteAll (t : Topology) (ids : List Int) :
    (t.cascadeDeleteAll ids).danglingLinks = t.danglingLinks.filter fun l => l.avoids ids := by
  induction ids generalizing t with
  | nil => simp [cascadeDeleteAll, Link.avoids]
  | cons id ids ih =>
    rw [cascadeDeleteAll_cons, ih, danglingLinks_cascadeDelete, List.filter_filter]
    simp only [Link.avoids_cons]

theorem isConsistent_cascadeDeleteAll {t : Topology} (h : t.isConsistent = true)
    (ids : List Int) : (t.cascadeDeleteAll ids).isConsistent = true := by
  induction ids generalizing t with
  | nil => exact h
  | cons id ids ih => exact ih (isConsistent_cascadeDelete h id)

/-! ## Counting -/

theorem length_devices_cascadeDelete {t : Topology} {id : Int} (unique : t.deviceIds.Nodup)
    (present : id ∈ t.deviceIds) :
    (t.cascadeDelete id).devices.length + 1 = t.devices.length := by
  have positive : 0 < t.deviceIds.length := List.length_pos_of_mem present
  have ids : (t.cascadeDelete id).deviceIds.length = t.deviceIds.length - 1 := by
    rw [deviceIds_cascadeDelete, ← unique.erase_eq_filter, List.length_erase_of_mem present]
  rw [deviceIds, deviceIds, List.length_map, List.length_map] at ids
  rw [deviceIds, List.length_map] at positive
  omega

theorem length_links_cascadeDelete (t : Topology) (id : Int) :
    (t.cascadeDelete id).links.length + (t.linksTouching id).length = t.links.length := by
  rw [cascadeDelete, linksTouching, Nat.add_comm]
  exact (List.length_eq_length_filter_add (Link.touches · id)).symm

/-- Deleting each listed device in turn keeps exactly what is not listed and touches nothing that
is, whatever the order and the repetitions of the list. It leaves exactly the dangling links that
there were, less those that touch a listed device, and keeps a consistent topology consistent. If
identifiers are unique, the deletion of one that is there takes out one device and the links that
touch it. -/
theorem keeps_what_is_not_listed (t : Topology) (ids : List Int) :
    (t.cascadeDeleteAll ids).devices = t.devices.filter (fun d => !ids.contains d.id) ∧
    (t.cascadeDeleteAll ids).links = t.links.filter (fun l => l.avoids ids) ∧
    (∀ others : List Int, (∀ n, n ∈ others ↔ n ∈ ids) →
      t.cascadeDeleteAll others = t.cascadeDeleteAll ids) ∧
    (t.cascadeDeleteAll ids).danglingLinks = t.danglingLinks.filter (fun l => l.avoids ids) ∧
    (t.isConsistent = true → (t.cascadeDeleteAll ids).isConsistent = true) ∧
    ∀ id ∈ t.deviceIds, t.deviceIds.Nodup →
      (t.cascadeDelete id).devices.length + 1 = t.devices.length ∧
      (t.cascadeDelete id).links.length + (t.linksTouching id).length = t.links.length := by
  refine ⟨t.devices_cascadeDeleteAll ids, t.links_cascadeDeleteAll ids,
    fun others same => t.cascadeDeleteAll_congr same, t.danglingLinks_cascadeDeleteAll ids,
    fun consistent => isConsistent_cascadeDeleteAll consistent ids, ?_⟩
  intro id present unique
  exact ⟨length_devices_cascadeDelete unique present, t.length_links_cascadeDelete id⟩

/-- A square with a link drawn twice, a link from a device to itself, and a link to no device. -/
def square : Topology where
  devices := [{ id := 1, coordinatesLabel := "a" }, { id := 2, coordinatesLabel := "b" },
    { id := -3, coordinatesLabel := "c" }, { id := 4, coordinatesLabel := "d" }]
  links := [⟨1, 2⟩, ⟨2, -3⟩, ⟨2, -3⟩, ⟨-3, 4⟩, ⟨4, 4⟩, ⟨4, 9⟩, ⟨1, 9⟩]

/-- Of the square, the list `2, 7, 2` leaves three devices; the links to no device still dangle. -/
theorem keeps_what_is_not_listed_square :
    (∀ n : Int, n ∈ [7, 2] ↔ n ∈ [2, 7, 2]) ∧
    square.cascadeDeleteAll [7, 2] = square.cascadeDeleteAll [2, 7, 2] ∧
    (square.cascadeDeleteAll [2, 7, 2]).deviceIds = [1, -3, 4] ∧
    (square.cascadeDeleteAll [2, 7, 2]).danglingLinks = [⟨4, 9⟩, ⟨1, 9⟩] ∧
    2 ∈ square.deviceIds ∧ square.deviceIds.Nodup ∧
    (square.cascadeDelete 2).links.length + 3 = square.links.length := by
  have same : ∀ n : Int, n ∈ [7, 2] ↔ n ∈ [2, 7, 2] := by simp [or_comm]
  have present : 2 ∈ square.deviceIds := by decide
  have unique : square.deviceIds.Nodup := by decide
  obtain ⟨-, -, congr, dangling, -, count⟩ := keeps_what_is_not_listed square [2, 7, 2]
  refine ⟨same, congr [7, 2] same, by decide, ?_, present, unique, (count 2 present unique).2⟩
  rw [dangling]
  decide

end Topology
end Topograph
