import Topograph.Proofs.Canvas.Inspection
import Topograph.Proofs.Network.Cascade

/-!
# Edits of different devices

Deletions and moves of two different devices can be exchanged, the last one of two moves of a
device counts, and a deletion takes everything along that a move has done. Two deletions or two
moves leave the same editor behind in every state. A move before a deletion does so while what is
drawn is the projection of the topology; in the state that a half-done installation leaves behind,
the nodes do not stand where their devices do, and the nodes may come out differently.
-/
namespace Topograph

/-! ## Topologies -/

namespace Editor

variable {a b id : Int}

theorem movedTo_comm (distinct : a ≠ b) (p q : Position) (d : Device) :
    movedTo b q (movedTo a p d) = movedTo a p (movedTo b q d) := by
  by_cases first : d.id = a
  · have other : d.id ≠ b := fun second => distinct (first.symm.trans second)
    rw [movedTo_of_ne q other, movedTo_of_ne q (by rwa [id_movedTo])]
  · rw [movedTo_of_ne p first, movedTo_of_ne p (by rwa [id_movedTo])]

theorem movedTo_movedTo (id : Int) (p q : Position) (d : Device) :
    movedTo id q (movedTo id p d) = movedTo id q d := by
  by_cases same : d.id = id
  · simp [movedTo, same]
  · rw [movedTo_of_ne p same]

theorem relocate_comm (t : Topology) (distinct : a ≠ b) (p q : Position) :
    relocate (relocate t a p) b q = relocate (relocate t b q) a p := by
  simp only [relocate, List.map_map, Function.comp_def, movedTo_comm distinct]

theorem relocate_relocate (t : Topology) (id : Int) (p q : Position) :
    relocate (relocate t id p) id q = relocate t id q := by
  simp only [relocate, List.map_map, Function.comp_def, movedTo_movedTo]

theorem cascadeDelete_relocate (t : Topology) (a b : Int) (p : Position) :
    (relocate t a p).cascadeDelete b = relocate (t.cascadeDelete b) a p := by
  simp only [relocate, Topology.cascadeDelete, List.filter_map, Function.comp_def, id_movedTo]

/-- A device that is not there has no other place. -/
theorem relocate_cascadeDelete (t : Topology) (id : Int) (p : Position) :
    relocate (t.cascadeDelete id) id p = t.cascadeDelete id := by
  have others : ∀ d ∈ (t.cascadeDelete id).devices, movedTo id p d = d := fun d mem =>
    movedTo_of_ne p (bne_iff_ne.mp (List.mem_filter.mp mem).2)
  rw [relocate, List.map_congr_left others, List.map_id']

/-! ## What an edit leaves of the nodes and edges -/

/-- The nodes after the devices of an identifier have been drawn again; without a text for it none
is. -/
def redraw (id : Int) (devices : List Device) (nodes : List RenderNode) : List RenderNode :=
  if Number.IsWritable id then
    List.zipWith (fun d n => if d.id = id then RenderNode.ofDevice (Number.integerText id) d else n)
      devices nodes
  else nodes

/-- The editor without the nodes, the edges and the details of a device; without a text for its
identifier all of them stay. -/
def strike (e : Editor) (id : Int) : Editor :=
  if Number.IsWritable id then
    { e with
      inspected := e.inspected.filter fun d => d.id != id
      nodes := (erase e.projection (Number.integerText id)).nodes
      edges := (erase e.projection (Number.integerText id)).edges }
  else e

/-- What a move leaves behind, whether it is done or half done. -/
def moved (e : Editor) (t : Topology) (id : Int) (p : Position) : Editor :=
  { e with
    topology := some (relocate t id p)
    nodes := redraw id (relocate t id p).devices e.nodes }

/-- What a deletion leaves behind, whether it is done or half done. -/
def deleted (e : Editor) (t : Topology) (id : Int) : Editor :=
  { e.strike id with topology := some (t.cascadeDelete id) }

/-- Nobody who is asked declines. -/
def Consents (confirm : Option (Device → Bool)) : Prop := ∀ ask ∈ confirm, ∀ d, ask d = true

variable {e e' : Editor} {t : Topology}

theorem after_move {p : Position} {x y : Json} (shown : e.topology = some t)
    (present : (t.device? id).isSome)
    (valid : Validation.position .held (.object [("x", x), ("y", y)]) = .ok p) :
    e.after (.move id x y) = e.moved t id p := by
  obtain ⟨d, found⟩ := Option.isSome_iff_exists.mp present
  rw [after, move_eq_place shown found valid, moved, redraw]
  by_cases writable : Number.IsWritable id
  · rw [place_done e t writable, if_pos writable]
  · rw [if_neg writable]
    by_cases drawn : e.IsDrawn t id
    · rw [place_of_overlong writable drawn]
    · rw [place_of_not_isDrawn found drawn]

theorem after_delete {confirm : Option (Device → Bool)} (shown : e.topology = some t)
    (present : (t.device? id).isSome) (consents : Consents confirm) :
    e.after (.delete id confirm) = e.deleted t id := by
  obtain ⟨d, found⟩ := Option.isSome_iff_exists.mp present
  rw [after, delete_eq_remove shown found fun ask given => consents ask given d]
  by_cases writable : Number.IsWritable id
  · rw [remove_of_isWritable e t writable, deleted, strike, if_pos writable]
  · rw [remove_of_overlong e t writable, deleted, strike, if_neg writable]

/-! ## Two deletions -/

/-- The names that edges had before they are named anew do not matter. -/
theorem renumber_filter_renumber (text : String) (edges : List RenderEdge) (i j : Nat) :
    RenderEdge.renumber j ((RenderEdge.renumber i edges).filter fun e =>
        e.source != text && e.target != text) =
      RenderEdge.renumber j (edges.filter fun e => e.source != text && e.target != text) := by
  induction edges generalizing i j with
  | nil => rfl
  | cons e edges ih =>
    rw [RenderEdge.renumber, List.filter_cons, List.filter_cons]
    split
    · rw [RenderEdge.renumber, RenderEdge.renumber, ih]
    · exact ih (i + 1) j

theorem erase_comm (p : Projection) (text text' : String) :
    erase (erase p text) text' = erase (erase p text') text := by
  simp only [erase, renumber_filter_renumber, List.filter_filter, Bool.and_comm]

theorem strike_with_topology (e : Editor) (t : Option Topology) (id : Int) :
    ({ e with topology := t } : Editor).strike id = { e.strike id with topology := t } := by
  unfold strike
  split <;> rfl

theorem strike_comm (e : Editor) (a b : Int) : (e.strike a).strike b = (e.strike b).strike a := by
  by_cases first : Number.IsWritable a
  · by_cases second : Number.IsWritable b
    · have drawn := erase_comm e.projection (Number.integerText a) (Number.integerText b)
      simp only [strike, if_pos first, if_pos second, Option.filter_filter, Bool.and_comm]
      exact congrArg (fun p : Projection => Editor.mk e.topology _ p.nodes p.edges) drawn
    · simp only [strike, if_neg second]
  · simp only [strike, if_neg first]

theorem deleted_comm (e : Editor) (t : Topology) (a b : Int) :
    (e.deleted t a).deleted (t.cascadeDelete a) b =
      (e.deleted t b).deleted (t.cascadeDelete b) a := by
  simp only [deleted, strike_with_topology, strike_comm e a b, t.cascadeDelete_comm a b]

/-! ## Two moves -/

/-- Nodes that are drawn again one after another are drawn again in one go. -/
theorem zipWith_zipWith_same {α β : Type} (f g : α → β → β) (xs : List α) (ys : List β) :
    List.zipWith f xs (List.zipWith g xs ys) = List.zipWith (fun x y => f x (g x y)) xs ys := by
  induction xs generalizing ys with
  | nil => rfl
  | cons x xs ih =>
    cases ys with
    | nil => rfl
    | cons y ys => simp [ih]

/-- Where another device stands does not matter when a device is drawn again. -/
theorem redraw_movedTo (distinct : a ≠ b) (q : Position) (devices : List Device)
    (nodes : List RenderNode) :
    redraw a (devices.map (movedTo b q)) nodes = redraw a devices nodes := by
  unfold redraw
  rw [List.zipWith_map_left]
  congr
  funext d n
  by_cases same : d.id = a
  · rw [movedTo_of_ne q fun other => distinct (same.symm.trans other)]
  · simp [same]

theorem redraw_comm (distinct : a ≠ b) (p q : Position) (devices : List Device)
    (nodes : List RenderNode) :
    redraw b (devices.map (movedTo b q)) (redraw a (devices.map (movedTo a p)) nodes) =
      redraw a (devices.map (movedTo a p)) (redraw b (devices.map (movedTo b q)) nodes) := by
  unfold redraw
  by_cases first : Number.IsWritable a
  · by_cases second : Number.IsWritable b
    · simp only [if_pos first, if_pos second, List.zipWith_map_left, zipWith_zipWith_same,
        id_movedTo]
      congr 1
      funext d n
      by_cases same : d.id = a
      · have other : d.id ≠ b := fun other => distinct (same.symm.trans other)
        rw [if_neg other, if_pos same, if_pos same]
      · rw [if_neg same, if_neg same]
    · simp only [if_neg second]
  · simp only [if_neg first]

theorem redraw_redraw (id : Int) (p q : Position) (devices : List Device)
    (nodes : List RenderNode) :
    redraw id (devices.map (movedTo id q)) (redraw id (devices.map (movedTo id p)) nodes) =
      redraw id (devices.map (movedTo id q)) nodes := by
  unfold redraw
  split
  · simp only [List.zipWith_map_left, zipWith_zipWith_same, id_movedTo]
    congr 1
    funext d n
    by_cases same : d.id = id
    · rw [if_pos same, if_pos same]
    · rw [if_neg same, if_neg same, if_neg same]
  · rfl

theorem moved_comm (e : Editor) (t : Topology) (distinct : a ≠ b) (p q : Position) :
    (e.moved t a p).moved (relocate t a p) b q = (e.moved t b q).moved (relocate t b q) a p := by
  have topology := relocate_comm t distinct p q
  have nodes : redraw b (relocate (relocate t b q) a p).devices
        (redraw a (relocate t a p).devices e.nodes) =
      redraw a (relocate (relocate t b q) a p).devices
        (redraw b (relocate t b q).devices e.nodes) := by
    calc
      _ = redraw b (relocate t b q).devices (redraw a (relocate t a p).devices e.nodes) :=
        redraw_movedTo distinct.symm p (relocate t b q).devices _
      _ = redraw a (relocate t a p).devices (redraw b (relocate t b q).devices e.nodes) :=
        redraw_comm distinct p q t.devices e.nodes
      _ = redraw a (relocate (relocate t a p) b q).devices
            (redraw b (relocate t b q).devices e.nodes) :=
        (redraw_movedTo distinct q (relocate t a p).devices _).symm
      _ = _ := by rw [topology]
  simp only [moved, topology, nodes]

theorem moved_moved (e : Editor) (t : Topology) (id : Int) (p q : Position) :
    (e.moved t id p).moved (relocate t id p) id q = e.moved t id q := by
  have nodes : redraw id (relocate t id q).devices (redraw id (relocate t id p).devices e.nodes) =
      redraw id (relocate t id q).devices e.nodes := redraw_redraw id p q t.devices e.nodes
  simp only [moved, relocate_relocate, nodes]

/-! ## A move and a deletion -/

/-- The two editors differ in nothing but the nodes that are drawn. -/
def SameButNodes (e e' : Editor) : Prop := e' = { e with nodes := e'.nodes }

theorem inspected_strike_moved (e : Editor) (t : Topology) (a b : Int) (p : Position) :
    ((e.moved t a p).strike b).inspected = (e.strike b).inspected := by
  by_cases writable : Number.IsWritable b
  · simp only [strike, if_pos writable, moved]
  · simp only [strike, if_neg writable, moved]

theorem edges_strike_moved (e : Editor) (t : Topology) (a b : Int) (p : Position) :
    ((e.moved t a p).strike b).edges = (e.strike b).edges := by
  by_cases writable : Number.IsWritable b
  · simp only [strike, if_pos writable, moved, erase, projection]
  · simp only [strike, if_neg writable, moved]

theorem sameButNodes_moved_deleted (e : Editor) (t : Topology) (a b : Int) (p : Position) :
    ((e.moved t a p).deleted (relocate t a p) b).SameButNodes
      ((e.deleted t b).moved (t.cascadeDelete b) a p) := by
  simp only [SameButNodes, deleted, inspected_strike_moved, edges_strike_moved,
    cascadeDelete_relocate]
  simp only [moved]

theorem sameButNodes_moved_deleted_self (e : Editor) (t : Topology) (id : Int) (p : Position) :
    ((e.moved t id p).deleted (relocate t id p) id).SameButNodes (e.deleted t id) := by
  simp only [SameButNodes, deleted, inspected_strike_moved, edges_strike_moved,
    cascadeDelete_relocate, relocate_cascadeDelete]

/-- What a faithful editor shows and which details are open is all that there is to it. -/
theorem Faithful.ext (h : e.Faithful) (h' : e'.Faithful) (topology : e.topology = e'.topology)
    (inspected : e.inspected = e'.inspected) : e = e' := by
  have projection : e.projection = e'.projection := by
    cases shown : e.topology with
    | none =>
      have shown' := topology.symm.trans shown
      rw [Faithful, shown] at h
      rw [Faithful, shown'] at h'
      exact h.trans h'.symm
    | some t =>
      have drawn := (h.of_some shown).2
      exact drawn.trans (h'.of_some (topology.symm.trans shown)).2.symm
  rw [Editor.mk.injEq]
  exact ⟨topology, inspected, congrArg Projection.nodes projection,
    congrArg Projection.edges projection⟩

theorem SameButNodes.eq (h : e.SameButNodes e') (faithful : e.Faithful) (faithful' : e'.Faithful) :
    e = e' := by
  apply faithful.ext faithful'
  · rw [h]
  · rw [h]

/-- If what is drawn is the projection of the topology, the editor is faithful. -/
theorem Faithful.of_isCurrent (shown : e.topology = some t) (current : e.isCurrent = .ok true) :
    e.Faithful := by
  rw [isCurrent, shown, Option.map_some] at current
  by_cases writable : t.IsWritable
  · rw [Topology.project?_eq_drawing writable] at current
    have drawn : decide (t.drawing = e.projection) = true := Except.ok.inj current
    rw [Faithful, shown]
    exact ⟨writable, (of_decide_eq_true drawn).symm⟩
  · rw [Topology.project?_eq_none writable] at current
    cases current

/-! ## Exchanging edits -/

section
variable {x y u v : Json} {p q : Position} {confirm confirm' : Option (Device → Bool)}
  (shown : e.topology = some t) (distinct : a ≠ b)
  (first : (t.device? a).isSome) (second : (t.device? b).isSome)
  (placed : Validation.position .held (.object [("x", x), ("y", y)]) = .ok p)
  (placed' : Validation.position .held (.object [("x", u), ("y", v)]) = .ok q)
  (consents : Consents confirm) (consents' : Consents confirm')

theorem isSome_device?_cascadeDelete (distinct : a ≠ b) (second : (t.device? b).isSome) :
    ((t.cascadeDelete a).device? b).isSome := by
  rwa [t.device?_cascadeDelete distinct.symm]

theorem isSome_device?_relocate (n : Int) (p : Position) (first : (t.device? a).isSome) :
    ((relocate t n p).device? a).isSome := by
  rwa [t.device?_relocate, Option.isSome_map]

include shown

include distinct first second consents consents' in
theorem delete_delete : (e.after (.delete a confirm)).after (.delete b confirm') =
    (e.after (.delete b confirm')).after (.delete a confirm) := by
  rw [after_delete shown first consents, after_delete shown second consents',
    after_delete rfl (isSome_device?_cascadeDelete distinct second) consents',
    after_delete rfl (isSome_device?_cascadeDelete distinct.symm first) consents,
    e.deleted_comm t a b]

include distinct first second placed placed' in
theorem move_move : (e.after (.move a x y)).after (.move b u v) =
    (e.after (.move b u v)).after (.move a x y) := by
  rw [after_move shown first placed, after_move shown second placed',
    after_move rfl (isSome_device?_relocate a p second) placed',
    after_move rfl (isSome_device?_relocate b q first) placed, e.moved_comm t distinct p q]

include first placed placed' in
theorem move_again : (e.after (.move a x y)).after (.move a u v) = e.after (.move a u v) := by
  rw [after_move shown first placed, after_move shown first placed',
    after_move rfl (isSome_device?_relocate a p first) placed', e.moved_moved t a p q]

include distinct first second placed consents' in
theorem sameButNodes_move_delete : ((e.after (.move a x y)).after (.delete b confirm')).SameButNodes
    ((e.after (.delete b confirm')).after (.move a x y)) := by
  rw [after_move shown first placed, after_delete shown second consents',
    after_delete rfl (isSome_device?_relocate a p second) consents',
    after_move rfl (isSome_device?_cascadeDelete distinct.symm first) placed]
  exact e.sameButNodes_moved_deleted t a b p

include first placed consents in
theorem sameButNodes_move_delete_self :
    ((e.after (.move a x y)).after (.delete a confirm)).SameButNodes
      (e.after (.delete a confirm)) := by
  rw [after_move shown first placed, after_delete shown first consents,
    after_delete rfl (isSome_device?_relocate a p first) consents]
  exact e.sameButNodes_moved_deleted_self t a p

end

theorem run_append_two (edits : List Edit) (edit next : Edit) :
    run (edits ++ [edit, next]) = ((run edits).after edit).after next := by
  rw [run, List.foldl_append]
  rfl

/-- Edits of two devices that are both there can be exchanged: two deletions, two moves, and a move
and a deletion; of two moves of one device the last one counts, and after its deletion no move of
it does. Where a move comes before a deletion, this holds of the nodes while what is drawn is the
projection of the topology, as it always is if only writable topologies are installed. -/
theorem independent_edits_commute (edits : List Edit) {a b : Int} {x y u v : Json}
    {p q : Position} {confirm confirm' : Option (Device → Bool)} (distinct : a ≠ b)
    (present : ((run edits).device? a).isSome) (present' : ((run edits).device? b).isSome)
    (placed : Validation.position .held (.object [("x", x), ("y", y)]) = .ok p)
    (placed' : Validation.position .held (.object [("x", u), ("y", v)]) = .ok q)
    (consents : Consents confirm) (consents' : Consents confirm') :
    run (edits ++ [Edit.delete a confirm, .delete b confirm']) =
      run (edits ++ [Edit.delete b confirm', .delete a confirm]) ∧
    run (edits ++ [Edit.move a x y, .move b u v]) =
      run (edits ++ [Edit.move b u v, .move a x y]) ∧
    run (edits ++ [Edit.move a x y, .move a u v]) = run (edits ++ [Edit.move a u v]) ∧
    (run (edits ++ [Edit.move a x y, .delete b confirm'])).SameButNodes
      (run (edits ++ [Edit.delete b confirm', .move a x y])) ∧
    (run (edits ++ [Edit.move a x y, .delete a confirm])).SameButNodes
      (run (edits ++ [Edit.delete a confirm])) ∧
    ((∀ t, .replace t ∈ edits → t.IsWritable) ∨ (run edits).isCurrent = .ok true →
      run (edits ++ [Edit.move a x y, .delete b confirm']) =
        run (edits ++ [Edit.delete b confirm', .move a x y]) ∧
      run (edits ++ [Edit.move a x y, .delete a confirm]) =
        run (edits ++ [Edit.delete a confirm])) := by
  obtain ⟨d, found⟩ := Option.isSome_iff_exists.mp present
  obtain ⟨t, shown, found⟩ := exists_of_device? found
  have first : (t.device? a).isSome := Option.isSome_iff_exists.mpr ⟨d, found⟩
  have second : (t.device? b).isSome := by rwa [device?, shown] at present'
  have mixed := sameButNodes_move_delete shown distinct first second placed consents'
  have own := sameButNodes_move_delete_self shown first placed consents
  simp only [run_append_two, run_append]
  refine ⟨delete_delete shown distinct first second consents consents',
    move_move shown distinct first second placed placed', move_again shown first placed placed',
    mixed, own, fun current => ?_⟩
  have faithful : (run edits).Faithful := by
    rcases current with writable | current
    · exact faithful_run edits writable
    · exact Faithful.of_isCurrent shown current
  have kept : ∀ {e : Editor} {id : Int} {confirm : Option (Device → Bool)}, e.Faithful →
      (e.after (.delete id confirm)).Faithful := fun h => faithful_delete h _ _
  have kept' : ∀ {e : Editor} {id : Int} {x y : Json}, e.Faithful →
      (e.after (.move id x y)).Faithful := fun h => faithful_move h _ _ _
  exact ⟨mixed.eq (kept (kept' faithful)) (kept' (kept faithful)),
    own.eq (kept (kept' faithful)) (kept faithful)⟩

/-- Both twins and the third device are there, and the details of the latter are open. -/
def openedEdits : List Edit := [.replace twins, .select 2]

/-- Two devices, and after them the same ones in the other order with one whose identifier is past
the digit limit. -/
def crossedEdits : List Edit :=
  let first : Device := { id := 1, coordinatesLabel := "a" }
  let second : Device := { id := 2, coordinatesLabel := "b" }
  let third : Device := { id := Nat.pow 10 Number.digitLimit, coordinatesLabel := "c" }
  [.replace { devices := [first, second] }, .replace { devices := [second, first, third] }]

/-- Moving the twins can be exchanged with deleting the third device. After the half-done
installation, where the nodes are those of other devices, it cannot, and neither does a deletion
take along what a move has drawn. -/
theorem independent_edits_commute_twins :
    (1 : Int) ≠ 2 ∧
    ((run openedEdits).device? 1).isSome ∧ ((run openedEdits).device? 2).isSome ∧
    (∃ p, Validation.position .held (.object [("x", .int 3), ("y", .int 4)]) = .ok p) ∧
    Consents none ∧
    run (openedEdits ++ [Edit.move 1 (.int 3) (.int 4), .delete 2 none]) =
      run (openedEdits ++ [Edit.delete 2 none, .move 1 (.int 3) (.int 4)]) ∧
    ((run crossedEdits).device? 1).isSome ∧ ((run crossedEdits).device? 2).isSome ∧
    run (crossedEdits ++ [Edit.move 1 (.int 3) (.int 4), .delete 2 none]) ≠
      run (crossedEdits ++ [Edit.delete 2 none, .move 1 (.int 3) (.int 4)]) ∧
    run (crossedEdits ++ [Edit.move 1 (.int 3) (.int 4), .delete 1 none]) ≠
      run (crossedEdits ++ [Edit.delete 1 none]) := by
  have distinct : (1 : Int) ≠ 2 := by decide
  have first : ((run openedEdits).device? 1).isSome := by decide +kernel
  have second : ((run openedEdits).device? 2).isSome := by decide +kernel
  have valid : (Validation.position .held
      (.object [("x", .int 3), ("y", .int 4)])).toOption.isSome := by decide +kernel
  obtain ⟨p, placed⟩ : ∃ p,
      Validation.position .held (.object [("x", .int 3), ("y", .int 4)]) = .ok p := by
    cases checked : Validation.position .held (.object [("x", .int 3), ("y", .int 4)]) with
    | ok p => exact ⟨p, rfl⟩
    | error issues => simp [checked, Except.toOption] at valid
  have consents : Consents none := by simp [Consents]
  have writable : ∀ t, Edit.replace t ∈ openedEdits → t.IsWritable := by
    intro t ht
    obtain rfl : t = twins := by simpa [openedEdits] using ht
    decide +kernel
  obtain ⟨-, -, -, -, -, exchanged⟩ :=
    independent_edits_commute openedEdits distinct first second placed placed consents consents
  exact ⟨distinct, first, second, ⟨p, placed⟩, consents, (exchanged (.inl writable)).1,
    by decide +kernel, by decide +kernel, by decide +kernel, by decide +kernel⟩

end Editor
end Topograph
