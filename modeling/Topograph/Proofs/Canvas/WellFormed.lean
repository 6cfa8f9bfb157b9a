import Topograph.Proofs.Canvas.Edits
import Topograph.Proofs.Network.Consistency

/-!
# Well-formed drawings

A drawing is well formed if no two nodes have the same name, no two edges have the same name, and
every edge joins two nodes that are drawn. What the editor draws is well formed after any run that
installs consistent topologies only: no deletion, move, or edit that fails leaves an edge behind
that leads nowhere.
-/
namespace Topograph

theorem RenderEdge.name_injective : Function.Injective RenderEdge.name := by
  intro i j h
  have texts : Number.integerText i = Number.integerText j := (String.append_right_inj "e").mp h
  exact Int.ofNat_inj.mp (Number.integerText_injective texts)

namespace Projection

def nodeIds (p : Projection) : List String := p.nodes.map (·.id)

def edgeIds (p : Projection) : List String := p.edges.map (·.id)

structure IsWellFormed (p : Projection) : Prop where
  nodes : p.nodeIds.Nodup
  edges : p.edgeIds.Nodup
  joined : ∀ e ∈ p.edges, e.source ∈ p.nodeIds ∧ e.target ∈ p.nodeIds

end Projection

namespace Topology

theorem nodeIds_drawing (t : Topology) :
    t.drawing.nodeIds = t.deviceIds.map Number.integerText := by
  rw [Projection.nodeIds, drawing, deviceIds, List.map_map, List.map_map]
  rfl

theorem nodup_edgeIds_drawing (t : Topology) : t.drawing.edgeIds.Nodup := by
  rw [Projection.edgeIds, map_id_edges_drawing]
  exact List.nodup_range.map RenderEdge.name_injective

/-- An edge is drawn for a link, under the texts of its endpoints. -/
theorem exists_link_of_mem_ofLinks {links : List Link} {index : Nat} {e : RenderEdge}
    (h : e ∈ RenderEdge.ofLinks index links) : ∃ l ∈ links,
      e.source = Number.integerText l.source ∧ e.target = Number.integerText l.target := by
  induction links generalizing index with
  | nil => cases h
  | cons l rest ih =>
    rcases List.mem_cons.mp h with rfl | h
    · exact ⟨l, by simp, rfl, rfl⟩
    · obtain ⟨l', hl', ends⟩ := ih h
      exact ⟨l', by simp [hl'], ends⟩

theorem isWellFormed_drawing {t : Topology} (h : t.isConsistent = true) :
    t.drawing.IsWellFormed := by
  obtain ⟨nodup, resolved⟩ := (isConsistent_iff t).mp h
  constructor
  · rw [nodeIds_drawing]
    exact nodup.map fun _ _ => Number.integerText_injective
  · exact nodup_edgeIds_drawing t
  · intro e he
    obtain ⟨l, hl, source, target⟩ := exists_link_of_mem_ofLinks he
    rw [nodeIds_drawing, source, target]
    exact ⟨List.mem_map_of_mem (resolved l hl).1, List.mem_map_of_mem (resolved l hl).2⟩

end Topology

namespace Editor

/-- The live topology, if there is one, is consistent. -/
def IsConsistent (e : Editor) : Prop := ∀ t, e.topology = some t → t.isConsistent = true

theorem IsConsistent.congr {e e' : Editor} (h : e.IsConsistent)
    (same : e'.topology = e.topology) : e'.IsConsistent :=
  fun t ht => h t (same.symm.trans ht)

theorem isConsistent_of_some {e : Editor} {t : Topology} (shown : e.topology = some t)
    (h : t.isConsistent = true) : e.IsConsistent := by
  intro u hu
  obtain rfl := Option.some.inj (shown.symm.trans hu)
  exact h

theorem topology_replace (e : Editor) (t : Topology) : (e.replace t).1.topology = some t := by
  unfold replace
  split <;> rfl

theorem topology_select (e : Editor) (id : Int) : (e.select id).1.topology = e.topology := by
  unfold select
  split <;> rfl

theorem isConsistent_delete {e : Editor} (faithful : e.Faithful) (h : e.IsConsistent) (id : Int)
    (confirm : Option (Device → Bool)) : (e.delete id confirm).1.IsConsistent := by
  obtain ⟨t, d, ht, found, deleted⟩ | declined | absent := delete_cases e id confirm
  · have hid := (faithful.of_some ht).1.of_device? found
    rw [deleted, remove_of_isWritable e t hid]
    exact isConsistent_of_some rfl (Topology.isConsistent_cascadeDelete (h t ht) id)
  · rw [declined]
    exact h
  · rw [absent]
    exact h

theorem isConsistent_move {e : Editor} (faithful : e.Faithful) (h : e.IsConsistent) (id : Int)
    (x y : Json) : (e.move id x y).1.IsConsistent := by
  obtain ⟨t, d, p, ht, -, -, moved⟩ | ⟨f, failed⟩ := move_cases faithful id x y
  · rw [moved]
    exact isConsistent_of_some rfl
      (Topology.isConsistent_mapDevices (h t ht) (movedTo id p) (id_movedTo id p))
  · rw [failed]
    exact h

/-- Every edit keeps the live topology consistent; one that installs a topology needs it to be. -/
theorem isConsistent_after {e : Editor} (faithful : e.Faithful) (h : e.IsConsistent) (edit : Edit)
    (replaced : ∀ t, edit = .replace t → t.isConsistent = true) : (e.after edit).IsConsistent := by
  cases edit with
  | replace t => exact isConsistent_of_some (topology_replace e t) (replaced t rfl)
  | clear => exact fun t none => by cases none
  | select id => exact h.congr (topology_select e id)
  | dismiss => exact h
  | delete id confirm => exact isConsistent_delete faithful h id confirm
  | move id x y => exact isConsistent_move faithful h id x y

theorem isConsistent_run (edits : List Edit) (writable : ∀ t, .replace t ∈ edits → t.IsWritable)
    (consistent : ∀ t, .replace t ∈ edits → t.isConsistent = true) :
    (run edits).IsConsistent := by
  induction edits using List.reverseRecOn with
  | nil => exact fun t none => by cases none
  | append_singleton edits edit ih =>
    have before : ∀ t, .replace t ∈ edits → t.IsWritable :=
      fun t ht => writable t (List.mem_append_left _ ht)
    rw [run_append]
    apply isConsistent_after (faithful_run edits before)
    · exact ih before fun t ht => consistent t (List.mem_append_left _ ht)
    · rintro t rfl
      exact consistent t (by simp)

/-- After any run that installs consistent topologies only, the live topology is consistent, and
what is drawn is well formed. -/
theorem well_formed_run (edits : List Edit) (writable : ∀ t, .replace t ∈ edits → t.IsWritable)
    (consistent : ∀ t, .replace t ∈ edits → t.isConsistent = true) :
    ∀ t, (run edits).topology = some t →
      t.isConsistent = true ∧ (run edits).projection.IsWellFormed := by
  intro t ht
  have live := isConsistent_run edits writable consistent t ht
  have drawn := ((faithful_run edits writable).of_some ht).2
  rw [drawn]
  exact ⟨live, Topology.isWellFormed_drawing live⟩

/-- A ring of three devices with one more link from a device to itself. -/
def ring : Topology where
  devices := [{ id := 3, coordinatesLabel := "a" }, { id := -1, coordinatesLabel := "b" },
    { id := 5, coordinatesLabel := "c" }]
  links := [⟨3, -1⟩, ⟨-1, 5⟩, ⟨5, 3⟩, ⟨5, 5⟩]

/-- A run that breaks the ring after a move, a declined deletion and a deletion that fails. -/
def ringEdits : List Edit :=
  [.replace ring, .move 5 (.int 2) (.int 0), .select 3, .delete 3 (some fun _ => false),
    .delete 4 none, .delete 3 none]

theorem well_formed_run_ringEdits :
    (∀ t, Edit.replace t ∈ ringEdits → t.IsWritable) ∧
    (∀ t, Edit.replace t ∈ ringEdits → t.isConsistent = true) ∧
    ∃ t, (run ringEdits).topology = some t ∧ t.links = [⟨-1, 5⟩, ⟨5, 5⟩] ∧
      t.isConsistent = true ∧ (run ringEdits).projection.IsWellFormed := by
  have writable : ∀ t, Edit.replace t ∈ ringEdits → t.IsWritable := by
    intro t ht
    obtain rfl : t = ring := by simpa [ringEdits] using ht
    decide +kernel
  have consistent : ∀ t, Edit.replace t ∈ ringEdits → t.isConsistent = true := by
    intro t ht
    obtain rfl : t = ring := by simpa [ringEdits] using ht
    decide
  have left : ((run ringEdits).topology.map (·.links)) = some [⟨-1, 5⟩, ⟨5, 5⟩] := by
    decide +kernel
  obtain ⟨t, ht, links⟩ := Option.map_eq_some_iff.mp left
  exact ⟨writable, consistent, t, ht, links, well_formed_run ringEdits writable consistent t ht⟩

end Editor
end Topograph
