import Topograph.Canvas.Projection
import Topograph.Proofs.Network.Writable
import Topograph.Proofs.Number.IntegerText

/-!
# The drawing of a writable topology

A writable topology always has a projection. It is written out here without the possibility of
failure: one node for each device, and one edge for each link, named by its place. The two patches
of the editor, dropping a device by the text of its identifier and drawing moved devices again,
give the drawing of the changed topology.
-/
namespace Topograph

def Device.node (d : Device) : RenderNode := RenderNode.ofDevice (Number.integerText d.id) d

namespace RenderEdge

def ofLink (index : Nat) (l : Link) : RenderEdge where
  id := name index
  source := Number.integerText l.source
  target := Number.integerText l.target

def ofLinks (index : Nat) : List Link → List RenderEdge
  | [] => []
  | l :: rest => ofLink index l :: ofLinks (index + 1) rest

theorem ofLinks?_eq (links : List Link) (h : ∀ l ∈ links, l.IsWritable) (index : Nat) :
    ofLinks? index links = some (ofLinks index links) := by
  induction links generalizing index with
  | nil => rfl
  | cons l rest ih =>
    have first := h l (by simp)
    have others := ih (fun l hl => h l (by simp [hl])) (index + 1)
    simp only [ofLinks?, ofLink?, Number.integerText?_of_isWritable first.1,
      Number.integerText?_of_isWritable first.2, others]
    rfl

theorem ofLink?_eq_none {l : Link} (h : ¬ l.IsWritable) (index : Nat) :
    ofLink? index l = none := by
  rcases Link.integerText?_eq_none h with source | target
  · rw [ofLink?, source]
    rfl
  · rw [ofLink?, target]
    cases Number.integerText? l.source <;> rfl

theorem ofLinks?_eq_none {links : List Link} {l : Link} (mem : l ∈ links) (h : ¬ l.IsWritable)
    (index : Nat) : ofLinks? index links = none := by
  induction links generalizing index with
  | nil => cases mem
  | cons first rest ih =>
    rw [ofLinks?]
    rcases List.mem_cons.mp mem with rfl | mem
    · rw [ofLink?_eq_none h]
      rfl
    · rw [ih mem]
      cases ofLink? index first <;> rfl

theorem map_id_ofLinks (links : List Link) (index : Nat) :
    (ofLinks index links).map (·.id) = (List.range' index links.length).map name := by
  induction links generalizing index with
  | nil => rfl
  | cons l rest ih => simp [ofLinks, ofLink, ih, List.range'_succ]

/-- The texts of the endpoints tell whether the link touches a device. -/
theorem bne_ofLink (index : Nat) (l : Link) (id : Int) :
    ((ofLink index l).source != Number.integerText id &&
      (ofLink index l).target != Number.integerText id) = !l.touches id := by
  simp only [ofLink, Number.bne_integerText, Link.touches, Bool.not_or]
  rfl

/-- Dropping edges by the texts of their endpoints and naming the others anew draws the links
that are left, wherever the names began. -/
theorem renumber_filter_ofLinks (id : Int) (links : List Link) (i j : Nat) :
    renumber i ((ofLinks j links).filter fun e =>
        e.source != Number.integerText id && e.target != Number.integerText id) =
      ofLinks i (links.filter fun l => !l.touches id) := by
  induction links generalizing i j with
  | nil => rfl
  | cons l rest ih =>
    rw [ofLinks, List.filter_cons, List.filter_cons, bne_ofLink]
    split
    · rw [renumber, ih]
      rfl
    · exact ih i (j + 1)

end RenderEdge

namespace Topology

/-- What the canvas draws for a writable topology. -/
def drawing (t : Topology) : Projection where
  nodes := t.devices.map Device.node
  edges := RenderEdge.ofLinks 0 t.links

theorem ofDevice?_of_isWritable {d : Device} (h : Number.IsWritable d.id) :
    RenderNode.ofDevice? d = some d.node := by
  rw [RenderNode.ofDevice?, Number.integerText?_of_isWritable h]
  rfl

theorem project?_eq_drawing {t : Topology} (h : t.IsWritable) : t.project? = some t.drawing := by
  have nodes : t.devices.mapM RenderNode.ofDevice? = some (t.devices.map Device.node) :=
    mapM_eq_some_map fun d hd => ofDevice?_of_isWritable (h.1 d hd)
  rw [project?, nodes, RenderEdge.ofLinks?_eq t.links h.2]
  rfl

theorem project?_eq_none {t : Topology} (h : ¬ t.IsWritable) : t.project? = none := by
  rcases (not_isWritable_iff t).mp h with ⟨d, hd, overlong⟩ | ⟨l, hl, overlong⟩
  · have none : RenderNode.ofDevice? d = none := by
      rw [RenderNode.ofDevice?, Number.integerText?_of_overlong overlong]
      rfl
    rw [project?, mapM_eq_none hd none]
    rfl
  · rw [project?, RenderEdge.ofLinks?_eq_none hl overlong 0]
    cases t.devices.mapM RenderNode.ofDevice? <;> rfl

/-- The edges are named by their places, whatever the links are. -/
theorem map_id_edges_drawing (t : Topology) :
    t.drawing.edges.map (·.id) = (List.range t.links.length).map RenderEdge.name := by
  rw [drawing, RenderEdge.map_id_ofLinks, List.range_eq_range']

/-- Two devices have nodes of one name only if their identifiers are equal. -/
theorem filter_map_node (devices : List Device) (id : Int) :
    (devices.map Device.node).filter (fun n => n.id != Number.integerText id) =
      (devices.filter fun d => d.id != id).map Device.node := by
  rw [List.filter_map]
  congr 1
  apply List.filter_congr
  intro d _
  exact Number.bne_integerText d.id id

/-- Drawing the chosen devices again, each on its own node, draws all of them. -/
theorem zipWith_map_node (f : Device → Device) (id : Int) (hf : ∀ d, (f d).id = d.id)
    (others : ∀ d, d.id ≠ id → f d = d) (devices : List Device) :
    List.zipWith
        (fun d n => if d.id = id then RenderNode.ofDevice (Number.integerText id) d else n)
        (devices.map f) (devices.map Device.node) =
      (devices.map f).map Device.node := by
  induction devices with
  | nil => rfl
  | cons d rest ih =>
    by_cases h : d.id = id
    · have drawn : RenderNode.ofDevice (Number.integerText id) (f d) = (f d).node := by
        rw [Device.node, hf, h]
      simp [ih, hf, h, drawn]
    · simp [ih, h, others d h]

end Topology
end Topograph
