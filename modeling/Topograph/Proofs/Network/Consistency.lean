import Mathlib.Data.List.Nodup
import Topograph.Network.Topology

/-!
# Consistent topologies

A topology is consistent if no two devices share an identifier and both endpoints of every link are
devices. Deleting a device takes along the links that would dangle without it, so it keeps a
topology consistent, and so does any change of the devices that keeps their identifiers.
-/
namespace Topograph.Topology

theorem resolves_iff (t : Topology) (l : Link) :
    t.resolves l = true ↔ l.source ∈ t.deviceIds ∧ l.target ∈ t.deviceIds := by
  simp [resolves]

theorem isConsistent_iff (t : Topology) : t.isConsistent = true ↔
    t.deviceIds.Nodup ∧ ∀ l ∈ t.links, l.source ∈ t.deviceIds ∧ l.target ∈ t.deviceIds := by
  simp [isConsistent, danglingLinks, resolves_iff]

theorem deviceIds_cascadeDelete (t : Topology) (id : Int) :
    (t.cascadeDelete id).deviceIds = t.deviceIds.filter fun n => n != id :=
  (List.filter_map (p := fun n : Int => n != id)).symm

/-- A link that does not touch the deleted device still has both of its endpoints. -/
theorem isConsistent_cascadeDelete {t : Topology} (h : t.isConsistent = true) (id : Int) :
    (t.cascadeDelete id).isConsistent = true := by
  rw [isConsistent_iff] at h ⊢
  obtain ⟨nodup, resolved⟩ := h
  rw [deviceIds_cascadeDelete]
  refine ⟨nodup.filter _, ?_⟩
  intro l hl
  obtain ⟨kept, untouched⟩ := List.mem_filter.mp hl
  have ends : l.source ≠ id ∧ l.target ≠ id := by simpa [Link.touches] using untouched
  obtain ⟨source, target⟩ := resolved l kept
  rw [List.mem_filter, List.mem_filter, bne_iff_ne, bne_iff_ne]
  exact ⟨⟨source, ends.1⟩, target, ends.2⟩

theorem isConsistent_mapDevices {t : Topology} (h : t.isConsistent = true) (f : Device → Device)
    (hf : ∀ d, (f d).id = d.id) :
    ({ t with devices := t.devices.map f } : Topology).isConsistent = true := by
  have ids : ({ t with devices := t.devices.map f } : Topology).deviceIds = t.deviceIds := by
    rw [deviceIds, deviceIds, List.map_map]
    exact List.map_congr_left fun d _ => hf d
  rw [isConsistent_iff] at h ⊢
  rw [ids]
  exact h

end Topograph.Topology
