import Mathlib.Data.List.Induction
import Topograph.Canvas.Editor
import Topograph.Proofs.Canvas.Drawing

/-!
# Runs of the editor

A run is any list of edits on a new editor. An edit may fail or be declined, and the run goes on
with the editor that it leaves behind. As long as every topology that is installed is writable,
what is drawn is always the projection of the live topology, although after a deletion or a move
nothing is projected again.
-/
namespace Topograph.Editor

attribute [local irreducible] Number.integerText?

/-- Everything that can be done to an editor. -/
inductive Edit where
  | replace (t : Topology)
  | clear
  | select (id : Int)
  | dismiss
  | delete (id : Int) (confirm : Option (Device → Bool))
  | move (id : Int) (x y : Json)

/-- The editor that an edit leaves behind, whether it succeeds or not. -/
def after (e : Editor) : Edit → Editor
  | .replace t => (e.replace t).1
  | .clear => clear
  | .select id => (e.select id).1
  | .dismiss => e.dismiss
  | .delete id confirm => (e.delete id confirm).1
  | .move id x y => (e.move id x y).1

def run (edits : List Edit) : Editor := edits.foldl after clear

theorem run_append (edits : List Edit) (edit : Edit) :
    run (edits ++ [edit]) = (run edits).after edit := by
  rw [run, List.foldl_append]
  rfl

/-- The live topology is writable, and what is drawn is its drawing. Without a topology nothing is
drawn. -/
def Faithful (e : Editor) : Prop :=
  match e.topology with
  | none => e.projection = {}
  | some t => t.IsWritable ∧ e.projection = t.drawing

theorem Faithful.of_some {e : Editor} (h : e.Faithful) {t : Topology} (ht : e.topology = some t) :
    t.IsWritable ∧ e.projection = t.drawing := by
  rwa [Faithful, ht] at h

theorem faithful_clear : clear.Faithful := rfl

theorem Faithful.congr {e e' : Editor} (h : e.Faithful) (ht : e'.topology = e.topology)
    (hp : e'.projection = e.projection) : e'.Faithful := by
  rw [Faithful, ht, hp]
  exact h

/-! ## Installing -/

/-- The editor that shows a topology and inspects none of its devices. -/
def showing (t : Topology) : Editor where
  topology := some t
  nodes := t.drawing.nodes
  edges := t.drawing.edges

theorem faithful_showing {t : Topology} (h : t.IsWritable) : (showing t).Faithful := ⟨h, rfl⟩

/-- A writable topology takes the place of everything that was there before. -/
theorem replace_eq_showing (e : Editor) {t : Topology} (h : t.IsWritable) :
    e.replace t = (showing t, .ok ()) := by
  rw [replace, Topology.project?_eq_drawing h]
  rfl

/-- A topology without a drawing is installed all the same, beside the drawing of before. -/
theorem replace_of_overlong (e : Editor) {t : Topology} (h : t.project? = none) :
    e.replace t = ({ e with topology := some t, inspected := none }, .error .unwritable) := by
  rw [replace, h]

/-! ## Looking up -/

theorem exists_of_device? {e : Editor} {id : Int} {d : Device} (h : e.device? id = some d) :
    ∃ t, e.topology = some t ∧ t.device? id = some d := Option.bind_eq_some_iff.mp h

theorem device?_eq {e : Editor} {t : Topology} (shown : e.topology = some t) (id : Int) :
    e.device? id = t.device? id := by
  rw [device?, shown, Option.bind_some]

theorem select_cases (e : Editor) (id : Int) :
    (∃ d, e.device? id = some d ∧ e.select id = ({ e with inspected := some d }, .ok d)) ∨
      (e.device? id = none ∧ e.select id = (e, .error (absent id))) := by
  cases found : e.device? id with
  | some d => exact .inl ⟨d, rfl, by rw [select, found]⟩
  | none => exact .inr ⟨rfl, by rw [select, found]⟩

theorem faithful_select {e : Editor} (h : e.Faithful) (id : Int) : (e.select id).1.Faithful := by
  obtain ⟨d, -, selected⟩ | ⟨-, failed⟩ := select_cases e id
  · rw [selected]
    exact h.congr rfl rfl
  · rwa [failed]

theorem faithful_dismiss {e : Editor} (h : e.Faithful) : e.dismiss.Faithful := h.congr rfl rfl

/-! ## Deleting -/

/-- Dropping a device from the drawing by the text of its identifier draws the topology without
it. -/
theorem erase_drawing (t : Topology) (id : Int) :
    erase t.drawing (Number.integerText id) = (t.cascadeDelete id).drawing := by
  rw [erase, Topology.drawing, Topology.filter_map_node, RenderEdge.renumber_filter_ofLinks]
  rfl

theorem remove_of_isWritable (e : Editor) (t : Topology) {id : Int} (h : Number.IsWritable id) :
    e.remove t id =
      ({ topology := some (t.cascadeDelete id)
         inspected := e.inspected.filter fun d => d.id != id
         nodes := (erase e.projection (Number.integerText id)).nodes
         edges := (erase e.projection (Number.integerText id)).edges }, .ok true) := by
  unfold remove
  simp only [Number.integerText?_of_isWritable h]

/-- Without a text for the identifier a removal fails, but the topology has lost the device. -/
theorem remove_of_overlong (e : Editor) (t : Topology) {id : Int} (h : ¬ Number.IsWritable id) :
    e.remove t id = ({ e with topology := some (t.cascadeDelete id) }, .error .unwritable) := by
  unfold remove
  simp only [Number.integerText?_of_overlong h]

theorem faithful_remove {e : Editor} {t : Topology} (ht : t.IsWritable)
    (hp : e.projection = t.drawing) {id : Int} (hid : Number.IsWritable id) :
    (e.remove t id).1.Faithful := by
  rw [remove_of_isWritable e t hid, hp, erase_drawing]
  exact ⟨ht.cascadeDelete id, rfl⟩

/-- A deletion removes the device, or it changes nothing: the device is not there, or the
confirmation was not given. -/
theorem delete_cases (e : Editor) (id : Int) (confirm : Option (Device → Bool)) :
    (∃ t d, e.topology = some t ∧ t.device? id = some d ∧ e.delete id confirm = e.remove t id) ∨
      e.delete id confirm = (e, .ok false) ∨
      e.delete id confirm = (e, .error (absent id)) := by
  unfold delete
  split
  · rename_i t d ht hd
    obtain ⟨u, hu, found⟩ := exists_of_device? hd
    obtain rfl : t = u := Option.some.inj (ht.symm.trans hu)
    split
    · split
      · exact .inl ⟨t, d, ht, found, rfl⟩
      · exact .inr (.inl rfl)
    · exact .inl ⟨t, d, ht, found, rfl⟩
  · exact .inr (.inr rfl)

/-- A deletion that nobody declines removes the device. -/
theorem delete_eq_remove {e : Editor} {t : Topology} {id : Int} {d : Device}
    (shown : e.topology = some t) (found : t.device? id = some d) {confirm : Option (Device → Bool)}
    (given : ∀ ask ∈ confirm, ask d = true) : e.delete id confirm = e.remove t id := by
  unfold delete
  rw [device?_eq shown, shown, found]
  cases confirm with
  | none => rfl
  | some ask => exact if_pos (given ask rfl)

theorem delete_of_declined {e : Editor} {t : Topology} {id : Int} {d : Device}
    (shown : e.topology = some t) (found : t.device? id = some d) {ask : Device → Bool}
    (declined : ask d = false) : e.delete id (some ask) = (e, .ok false) := by
  unfold delete
  rw [device?_eq shown, shown, found]
  exact if_neg (by simp [declined])

theorem faithful_delete {e : Editor} (h : e.Faithful) (id : Int)
    (confirm : Option (Device → Bool)) : (e.delete id confirm).1.Faithful := by
  obtain ⟨t, d, ht, found, hdelete⟩ | hdelete | hdelete := delete_cases e id confirm
  · obtain ⟨writable, drawn⟩ := h.of_some ht
    rw [hdelete]
    exact faithful_remove writable drawn (writable.of_device? found)
  · simpa only [hdelete] using h
  · simpa only [hdelete] using h

/-! ## Moving -/

/-- The device at a new place, if it has this identifier. -/
def movedTo (id : Int) (p : Position) (d : Device) : Device :=
  if d.id = id then { d with position := p } else d

@[simp] theorem id_movedTo (id : Int) (p : Position) (d : Device) : (movedTo id p d).id = d.id := by
  unfold movedTo
  split <;> rfl

theorem movedTo_of_ne {id : Int} (p : Position) {d : Device} (h : d.id ≠ id) :
    movedTo id p d = d := if_neg h

/-- Put the devices with this identifier at a new place. -/
def relocate (t : Topology) (id : Int) (p : Position) : Topology :=
  { t with devices := t.devices.map (movedTo id p) }

theorem relocate_isWritable {t : Topology} (h : t.IsWritable) (id : Int) (p : Position) :
    (relocate t id p).IsWritable := h.mapDevices _ (id_movedTo id p)

theorem place_eq (e : Editor) (t : Topology) (id : Int) (p : Position) :
    e.place t id p =
      match ((relocate t id p).devices.zip e.nodes).mapM (redrawn? id) with
      | none => ({ e with topology := some (relocate t id p) }, .error .unwritable)
      | some nodes => ({ e with topology := some (relocate t id p), nodes }, .ok ()) := rfl

/-- With a text for the identifier, every node is drawn again whose device has it. -/
theorem mapM_redrawn?_of_isWritable {id : Int} (h : Number.IsWritable id) (devices : List Device)
    (nodes : List RenderNode) :
    (devices.zip nodes).mapM (redrawn? id) = some (List.zipWith
      (fun d n => if d.id = id then RenderNode.ofDevice (Number.integerText id) d else n)
      devices nodes) := by
  have drawn : ∀ pair ∈ devices.zip nodes, redrawn? id pair = some
      (if pair.1.id = id then RenderNode.ofDevice (Number.integerText id) pair.1 else pair.2) := by
    rintro ⟨d, n⟩ -
    by_cases same : d.id = id
    · simp only [redrawn?, same, if_true, RenderNode.ofDevice?, Number.integerText?_of_isWritable h,
        Option.map_some]
    · simp only [redrawn?, same, if_false]
  rw [mapM_eq_some_map drawn, List.zip, List.map_zipWith]

/-- Whatever is drawn, placing a device succeeds if its identifier has a text. -/
theorem place_done (e : Editor) (t : Topology) {id : Int} (h : Number.IsWritable id)
    (p : Position) :
    e.place t id p =
      ({ e with
         topology := some (relocate t id p)
         nodes := List.zipWith
           (fun d n => if d.id = id then RenderNode.ofDevice (Number.integerText id) d else n)
           (relocate t id p).devices e.nodes }, .ok ()) := by
  rw [place_eq, mapM_redrawn?_of_isWritable h]

theorem place_of_isWritable {e : Editor} {t : Topology} (hp : e.projection = t.drawing) {id : Int}
    (hid : Number.IsWritable id) (p : Position) :
    e.place t id p =
      ({ topology := some (relocate t id p)
         inspected := e.inspected
         nodes := (relocate t id p).drawing.nodes
         edges := (relocate t id p).drawing.edges }, .ok ()) := by
  have nodes : e.nodes = t.devices.map Device.node := congrArg Projection.nodes hp
  have edges : e.edges = RenderEdge.ofLinks 0 t.links := congrArg Projection.edges hp
  have moved := Topology.zipWith_map_node (movedTo id p) id (id_movedTo id p)
    (fun _ => movedTo_of_ne p) t.devices
  rw [place_done e t hid, nodes, edges, relocate, moved]
  rfl

/-! Where the identifier has no text, it counts whether a device that has it is drawn. -/

/-- A device with this identifier has a node at its own place of the list. -/
def IsDrawn (e : Editor) (t : Topology) (id : Int) : Prop :=
  ∃ pair ∈ t.devices.zip e.nodes, pair.1.id = id

/-- A device that is not drawn stands after all the nodes. -/
theorem length_nodes_le_of_not_isDrawn {e : Editor} {t : Topology} {id : Int} {d : Device}
    (found : t.device? id = some d) (undrawn : ¬ e.IsDrawn t id) :
    e.nodes.length ≤ t.devices.length := by
  obtain ⟨i, within, same⟩ := List.getElem_of_mem (Topology.mem_of_device? found)
  by_contra more
  have paired : i < (t.devices.zip e.nodes).length := by
    rw [List.length_zip]
    omega
  refine undrawn ⟨_, List.getElem_mem paired, ?_⟩
  rw [List.getElem_zip, same]
  exact Topology.id_of_device? found

/-- The devices after a move, each with the node at its place. -/
theorem zip_relocate (e : Editor) (t : Topology) (id : Int) (p : Position) :
    (relocate t id p).devices.zip e.nodes =
      (t.devices.zip e.nodes).map fun pair => (movedTo id p pair.1, pair.2) := by
  rw [relocate, List.zip_map_left]
  rfl

/-- Placing a device that is drawn fails without a text for its identifier, but the topology has it
there. -/
theorem place_of_overlong {e : Editor} {t : Topology} {id : Int} (h : ¬ Number.IsWritable id)
    (drawn : e.IsDrawn t id) (p : Position) :
    e.place t id p = ({ e with topology := some (relocate t id p) }, .error .unwritable) := by
  obtain ⟨pair, mem, same⟩ := drawn
  have textless : redrawn? id (movedTo id p pair.1, pair.2) = none := by
    simp only [redrawn?, RenderNode.ofDevice?, id_movedTo, same, if_true,
      Number.integerText?_of_overlong h, Option.map_none]
  rw [place_eq, zip_relocate, mapM_eq_none (List.mem_map_of_mem mem) textless]

/-- Placing a device that is not drawn succeeds, and what is drawn stays. -/
theorem place_of_not_isDrawn {e : Editor} {t : Topology} {id : Int} {d : Device}
    (found : t.device? id = some d) (undrawn : ¬ e.IsDrawn t id) (p : Position) :
    e.place t id p = ({ e with topology := some (relocate t id p) }, .ok ()) := by
  have kept : ∀ pair ∈ t.devices.zip e.nodes,
      (redrawn? id ∘ fun pair => (movedTo id p pair.1, pair.2)) pair = some pair.2 := by
    intro pair mem
    have other : pair.1.id ≠ id := fun same => undrawn ⟨pair, mem, same⟩
    simp only [Function.comp_apply, redrawn?, id_movedTo, other, if_false]
  rw [place_eq, zip_relocate, List.mapM_map, mapM_eq_some_map kept,
    List.map_snd_zip (length_nodes_le_of_not_isDrawn found undrawn)]

/-- A move places the device where the coordinates say. -/
theorem move_eq_place {e : Editor} {t : Topology} {id : Int} {d : Device} {x y : Json}
    {p : Position} (shown : e.topology = some t) (found : t.device? id = some d)
    (valid : Validation.position .held (.object [("x", x), ("y", y)]) = .ok p) :
    e.move id x y =
      ((e.place t id p).1, (e.place t id p).2.map fun _ => { d with position := p }) := by
  unfold move
  rw [device?_eq shown, shown, found]
  simp only [valid]
  cases placed : e.place t id p with
  | mk e' r => cases r <;> rfl

/-- A move places the device where the coordinates say, or it changes nothing. -/
theorem move_places (e : Editor) (id : Int) (x y : Json) :
    (∃ t d p, e.topology = some t ∧ t.device? id = some d ∧
      Validation.position .held (.object [("x", x), ("y", y)]) = .ok p ∧
      e.move id x y =
        ((e.place t id p).1, (e.place t id p).2.map fun _ => { d with position := p })) ∨
      ∃ f, e.move id x y = (e, .error f) := by
  cases looked : e.device? id with
  | none =>
    unfold move
    rw [looked]
    cases e.topology <;> exact .inr ⟨_, rfl⟩
  | some d =>
    obtain ⟨t, shown, found⟩ := exists_of_device? looked
    cases valid : Validation.position .held (.object [("x", x), ("y", y)]) with
    | error issues =>
      unfold move
      rw [looked, shown, valid]
      exact .inr ⟨_, rfl⟩
    | ok p => exact .inl ⟨t, d, p, shown, found, rfl, move_eq_place shown found valid⟩

/-- A move that changes anything changes the topology and the nodes alone, even if it fails. -/
theorem move_fst (e : Editor) (id : Int) (x y : Json) :
    (∃ t p nodes, e.topology = some t ∧
      (e.move id x y).1 = { e with topology := some (relocate t id p), nodes }) ∨
      (e.move id x y).1 = e := by
  obtain ⟨t, d, p, ht, -, -, moved⟩ | ⟨f, failed⟩ := move_places e id x y
  · have left : (e.move id x y).1 = (e.place t id p).1 := congrArg Prod.fst moved
    rw [left, place_eq]
    refine .inl ⟨t, p, ?_⟩
    cases ((relocate t id p).devices.zip e.nodes).mapM (redrawn? id) with
    | none => exact ⟨e.nodes, ht, rfl⟩
    | some nodes => exact ⟨nodes, ht, rfl⟩
  · exact .inr (congrArg Prod.fst failed)

/-- A move puts the device at the place that the coordinates name, or it changes nothing. -/
theorem move_cases {e : Editor} (h : e.Faithful) (id : Int) (x y : Json) :
    (∃ t d p, e.topology = some t ∧ t.device? id = some d ∧
      Validation.position .held (.object [("x", x), ("y", y)]) = .ok p ∧
      e.move id x y =
        ({ topology := some (relocate t id p)
           inspected := e.inspected
           nodes := (relocate t id p).drawing.nodes
           edges := (relocate t id p).drawing.edges }, .ok { d with position := p })) ∨
      ∃ f, e.move id x y = (e, .error f) := by
  obtain ⟨t, d, p, ht, found, hp, moved⟩ | failed := move_places e id x y
  · obtain ⟨writable, drawn⟩ := h.of_some ht
    rw [place_of_isWritable drawn (writable.of_device? found) p] at moved
    exact .inl ⟨t, d, p, ht, found, hp, moved⟩
  · exact .inr failed

theorem faithful_move {e : Editor} (h : e.Faithful) (id : Int) (x y : Json) :
    (e.move id x y).1.Faithful := by
  obtain ⟨t, d, p, ht, -, -, hmove⟩ | ⟨f, hmove⟩ := move_cases h id x y
  · rw [hmove]
    exact ⟨relocate_isWritable (h.of_some ht).1 id p, rfl⟩
  · simpa only [hmove] using h

/-! ## Runs -/

/-- Every edit keeps an editor faithful; one that installs a topology needs it to be writable. -/
theorem faithful_after {e : Editor} (h : e.Faithful) (edit : Edit)
    (hreplace : ∀ t, edit = .replace t → t.IsWritable) : (e.after edit).Faithful := by
  cases edit with
  | replace t =>
    have installed := replace_eq_showing e (hreplace t rfl)
    rw [after, installed]
    exact faithful_showing (hreplace t rfl)
  | clear => exact faithful_clear
  | select id => exact faithful_select h id
  | dismiss => exact faithful_dismiss h
  | delete id confirm => exact faithful_delete h id confirm
  | move id x y => exact faithful_move h id x y

theorem faithful_run (edits : List Edit) (h : ∀ t, .replace t ∈ edits → t.IsWritable) :
    (run edits).Faithful := by
  induction edits using List.reverseRecOn with
  | nil => exact faithful_clear
  | append_singleton edits edit ih =>
    have before := ih fun t ht => h t (List.mem_append_left _ ht)
    rw [run_append]
    apply faithful_after before
    rintro t rfl
    exact h t (by simp)

/-- Two devices of one identifier, a link from one device to itself, a link drawn twice, and a link
to no device. -/
def twins : Topology where
  devices := [{ id := 1, coordinatesLabel := "a" }, { id := 1, coordinatesLabel := "b" },
    { id := 2, coordinatesLabel := "c" }]
  links := [⟨1, 1⟩, ⟨1, 2⟩, ⟨2, 7⟩, ⟨2, 7⟩]

end Topograph.Editor
