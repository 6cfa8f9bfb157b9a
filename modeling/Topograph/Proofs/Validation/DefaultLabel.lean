import Mathlib.Data.List.Basic
import Topograph.Proofs.Json.Fields
import Topograph.Proofs.Json.Paths
import Topograph.Proofs.Network.PositionLabel
import Topograph.Proofs.Validation.Checked
import Topograph.Validation.Network

/-!
# The label that a device is given

A device without a coordinates label is given one before its position is checked, so the raw
coordinates are read twice: for the label, where only a number counts, and for the position, where a
text or a truth value counts as well. The label is that of the device's own position unless a
coordinate other than zero was written as something else than a number.
-/
namespace Topograph
open Number

namespace Validation

/-! ## Devices that are accepted -/

/-- The document that a text holds. -/
def document? (s : RawText) : Option Json := s.toString?.bind Json.readStrict?

/-- What is made of a text is what the rule makes of its document. -/
theorem rule_of_ofText {α : Type} {rule : Json → Checked α} {s : RawText} {v : Json} {a : α}
    (h : ofText rule s = .ok a) (read : document? s = some v) : rule v = .ok a := by
  obtain ⟨t, ordinary, read⟩ := Option.bind_eq_some_iff.mp read
  simpa only [ofText, ordinary, read] using h

/-- The value is accepted as this device, while some parts of it are held: on its own, as the text
of a document, or as one of the devices of a topology. -/
inductive Admits : Held → Json → Device → Prop
  | alone {held : Held} {v : Json} {d : Device} : deviceHolding held v = .ok d → Admits held v d
  | written {s : RawText} {v : Json} {d : Device} :
      ofText device s = .ok d → document? s = some v → Admits {} v d
  | nested {held : Nat → Held} {w v : Json} {t : Topology} {items : List Json} {i : Nat}
      {d : Device} : topologyHolding held w = .ok t → w.get? "devices" = some (.array items) →
      items[i]? = some v → t.devices[i]? = some d → Admits (held i) v d
  | nestedWritten {s : RawText} {w v : Json} {t : Topology} {items : List Json} {i : Nat}
      {d : Device} : ofText topology s = .ok t → document? s = some w →
      w.get? "devices" = some (.array items) → items[i]? = some v → t.devices[i]? = some d →
      Admits {} v d

theorem deviceHolding_of_nested {held : Nat → Held} {w v : Json} {t : Topology}
    {items : List Json} {i : Nat} {d : Device} (checked : topologyHolding held w = .ok t)
    (there : w.get? "devices" = some (.array items)) (given : items[i]? = some v)
    (taken : t.devices[i]? = some d) : deviceHolding (held i) v = .ok d := by
  obtain ⟨fields, rfl, joined⟩ := Checked.record_eq_ok.mp checked
  obtain ⟨_, links, upToDevices, -, rfl⟩ := Checked.join_eq_ok.mp joined
  obtain ⟨_, devices, made, listed, rfl⟩ := Checked.join_eq_ok.mp upToDevices
  obtain rfl := Except.ok.inj made
  rw [Checked.optional, there, Checked.below_eq_ok] at listed
  have element := Checked.elements_eq_ok listed given taken
  rwa [Nat.zero_add] at element

/-- However a device is accepted, it is by the rule for one device. -/
theorem Admits.checked {held : Held} {v : Json} {d : Device} (h : Admits held v d) :
    deviceHolding held v = .ok d := by
  cases h with
  | alone checked => exact checked
  | written checked read => exact rule_of_ofText checked read
  | nested checked there given taken => exact deviceHolding_of_nested checked there given taken
  | nestedWritten checked read there given taken =>
    exact deviceHolding_of_nested (rule_of_ofText checked read) there given taken

/-! ## The raw position and the one that is read -/

/-- A raw coordinate shows as the one that is read of it: it is a number, or zero is read. -/
def ShowsAsRead (raw : Option Json) (q : Quantity) : Prop :=
  ∀ v, raw = some v → (∃ n, v = .number n) ∨ q.reduce = .unset

theorem number_held_number (n : Number) :
    number .held (.number n) = numberOfReal .held false n.toBinary64? := by
  cases n with
  | int n =>
    rw [number, numberOfInt, Number.toBinary64?]
    cases Binary64.ofInt? n <;> rfl
  | float x => rfl

/-- A number is read the same both times. -/
theorem ofJson_of_number {n : Number} {q : Quantity} (h : number .held (.number n) = .ok q) :
    Quantity.ofJson (some (.number n)) = q := by
  rw [number_held_number] at h
  rw [Quantity.ofJson, Option.bind_some, Json.real?]
  cases real : n.toBinary64? with
  | none => simp [real, numberOfReal, Checked.fail] at h
  | some x => simpa [real, numberOfReal] using h

theorem label_ofJson_iff {v : Json} {key : String} {q : Quantity}
    (h : Checked.optional v key (number .held) .unset = .ok q) :
    (Quantity.ofJson (v.get? key)).label = q.label ↔ ShowsAsRead (v.get? key) q := by
  have zero : (Quantity.given .zero).label = "0" := (Quantity.label_eq_zero_iff _).mpr rfl
  rcases Checked.optional_eq_ok.mp h with ⟨raw, there, checked⟩ | ⟨absent, rfl⟩
  · rw [there]
    cases raw with
    | number n =>
      rw [ofJson_of_number checked]
      exact iff_of_true rfl fun v hv => .inl ⟨n, (Option.some.inj hv).symm⟩
    | _ =>
      -- Whatever is read of it, on the label it counts as zero.
      change (Quantity.given .zero).label = q.label ↔ _
      simp [ShowsAsRead, zero, ← q.label_eq_zero_iff, eq_comm]
  · rw [absent]
    exact iff_of_true zero (by simp [ShowsAsRead])

/-- What a device that is accepted has as its position and its label. -/
theorem deviceHolding_parts {held : Held} {v : Json} {d : Device}
    (h : deviceHolding held v = .ok d) :
    heldOr held.position (Checked.optional v "position" (position .held) {}) = .ok d.position ∧
      coordinatesLabel held.position v = .ok d.coordinatesLabel := by
  obtain ⟨fields, rfl, all⟩ := Checked.record_eq_ok.mp h
  obtain ⟨_, interface, upToPower, -, rfl⟩ := Checked.join_eq_ok.mp all
  obtain ⟨_, power, upToLabel, -, rfl⟩ := Checked.join_eq_ok.mp upToPower
  obtain ⟨_, label, upToType, labelled, rfl⟩ := Checked.join_eq_ok.mp upToLabel
  obtain ⟨_, deviceType, upToPosition, -, rfl⟩ := Checked.join_eq_ok.mp upToType
  obtain ⟨_, place, upToImage, placed, rfl⟩ := Checked.join_eq_ok.mp upToPosition
  obtain ⟨_, imageRef, upToName, -, rfl⟩ := Checked.join_eq_ok.mp upToImage
  obtain ⟨_, name, upToId, -, rfl⟩ := Checked.join_eq_ok.mp upToName
  obtain ⟨_, id, made, -, rfl⟩ := Checked.join_eq_ok.mp upToId
  obtain rfl := Except.ok.inj made
  exact ⟨placed, labelled⟩

/-- The label of a position that is read from a document, next to that of its raw coordinates. -/
theorem label_ofRecord_iff {v : Json} {p : Position} (h : position .held v = .ok p) :
    (Position.ofRecord (some v)).label = p.label ↔
      ShowsAsRead (v.get? "x") p.x ∧ ShowsAsRead (v.get? "y") p.y := by
  obtain ⟨fields, rfl, joined⟩ := Checked.record_eq_ok.mp h
  obtain ⟨_, y, upToX, readY, rfl⟩ := Checked.join_eq_ok.mp joined
  obtain ⟨_, x, made, readX, rfl⟩ := Checked.join_eq_ok.mp upToX
  obtain rfl := Except.ok.inj made
  rw [Position.label_inj]
  exact and_congr (label_ofJson_iff readX) (label_ofJson_iff readY)

theorem coordinatesLabel_of_unlabelled (held : Option Position) {v : Json}
    (h : v.get? "coordinates_label" = none ∨ v.get? "coordinates_label" = some .null) :
    coordinatesLabel held v = .ok (.ofString (defaultLabel held v)) := by
  rw [coordinatesLabel]
  rcases h with absent | null
  · rw [absent]
  · rw [null]

theorem defaultLabel_iff {v : Json} {p : Position}
    (h : Checked.optional v "position" (position .held) {} = .ok p) :
    defaultLabel none v = p.label ↔
      ShowsAsRead (v.at? ["position", "x"]) p.x ∧ ShowsAsRead (v.at? ["position", "y"]) p.y := by
  rcases Checked.optional_eq_ok.mp h with ⟨w, there, checked⟩ | ⟨absent, rfl⟩
  · obtain ⟨fields, rfl, -⟩ := Checked.record_eq_ok.mp checked
    simp only [defaultLabel, there, Json.at?_pair, Option.bind_some, label_ofRecord_iff checked]
  · simp [defaultLabel, absent, Json.at?_pair, ShowsAsRead]

/-- A device without a label of its own is labelled with the position that it has exactly if the
position was held, or no coordinate other than zero was written as anything but a number. -/
theorem default_label_iff {held : Held} {v : Json} {d : Device} (admitted : Admits held v d)
    (unlabelled : v.get? "coordinates_label" = none ∨ v.get? "coordinates_label" = some .null) :
    d.coordinatesLabel = .ofString d.position.label ↔
      (held.position = none → ShowsAsRead (v.at? ["position", "x"]) d.position.x ∧
        ShowsAsRead (v.at? ["position", "y"]) d.position.y) := by
  obtain ⟨placed, labelled⟩ := deviceHolding_parts admitted.checked
  rw [coordinatesLabel_of_unlabelled _ unlabelled] at labelled
  rw [← Except.ok.inj labelled, RawText.ofString_inj]
  cases own : held.position with
  | some p =>
    rw [own] at placed
    obtain rfl := Except.ok.inj placed
    exact iff_of_true rfl (by simp)
  | none =>
    rw [own] at placed
    rw [defaultLabel_iff placed]
    simp

/-- The record of a device with some value for its first coordinate. -/
def sketch (x : Json) : Json :=
  .object [("id", .int 1), ("position", .object [("x", x), ("y", .number (.float .zero))])]

/-- The device five to the right, with a label. -/
def sketched (label : String) : Device where
  id := 1
  position := ⟨.given ((Binary64.ofInt? 5).getD .zero), .given .zero⟩
  coordinatesLabel := label

/-- A coordinate that is a number shows on the label. Written as a text, the same one is read into
the same position, and zero shows. -/
theorem default_label_iff_sketch :
    Admits {} (sketch (.int 5)) (sketched "5 0") ∧
      (sketch (.int 5)).get? "coordinates_label" = none ∧
      (sketched "5 0").coordinatesLabel = .ofString (sketched "5 0").position.label ∧
      Admits {} (sketch (.string "5")) (sketched "0 0") ∧
      (sketch (.string "5")).get? "coordinates_label" = none ∧
      (sketched "0 0").coordinatesLabel ≠ .ofString (sketched "0 0").position.label := by
  have placed : Admits {} (sketch (.int 5)) (sketched "5 0") := .alone (by decide +kernel)
  have misplaced : Admits {} (sketch (.string "5")) (sketched "0 0") := .alone (by decide +kernel)
  have unlabelled (x : Json) : (sketch x).get? "coordinates_label" = none := by
    simp [sketch, Json.get?, List.lookup_cons]
  have first (x : Json) : (sketch x).at? ["position", "x"] = some x := by
    simp [sketch, Json.at?_pair, Json.get?, List.lookup_cons]
  have second (x : Json) : (sketch x).at? ["position", "y"] = some (.number (.float .zero)) := by
    simp [sketch, Json.at?_pair, Json.get?, List.lookup_cons]
  have shown : ShowsAsRead (some (.int 5)) (sketched "5 0").position.x ∧
      ShowsAsRead (some (.number (.float .zero))) (sketched "5 0").position.y :=
    ⟨fun _ same => .inl ⟨_, (Option.some.inj same).symm⟩,
      fun _ same => .inl ⟨_, (Option.some.inj same).symm⟩⟩
  have hidden : ¬ ShowsAsRead (some (.string "5")) (sketched "0 0").position.x := by
    intro shows
    rcases shows _ rfl with ⟨n, number⟩ | zero
    · cases number
    · revert zero
      decide +kernel
  refine ⟨placed, unlabelled _, ?_, misplaced, unlabelled _, ?_⟩
  · exact (default_label_iff placed (.inl (unlabelled _))).mpr fun _ => by
      rwa [first, second]
  · exact mt (default_label_iff misplaced (.inl (unlabelled _))).mp fun shows =>
      hidden (first (.string "5") ▸ (shows rfl).1)

end Validation
end Topograph
