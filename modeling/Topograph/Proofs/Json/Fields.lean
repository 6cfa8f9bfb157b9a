import Topograph.Proofs.Json.RoundTrip

/-!
# Fields of settled documents

The keys that the program writes are ordinary and distinct, so that its documents settle field by
field.
-/
namespace Topograph

namespace RawText

@[simp] theorem ofString_inj {s t : String} : ofString s = ofString t ↔ s = t :=
  ⟨ofString_injective, congrArg _⟩

@[simp] theorem beq_ofString (s t : String) : (ofString s == ofString t) = (s == t) := by
  by_cases h : s = t
  · simp [h]
  · have texts : ofString s ≠ ofString t := fun same => h (ofString_injective same)
    rw [beq_eq_false_iff_ne.mpr texts, beq_eq_false_iff_ne.mpr h]

@[simp] theorem isOrdinary_ofString (s : String) : (ofString s).isOrdinary = true := by
  simp [isOrdinary, ofString, ofChars, Letter.char?]

theorem isOrdinary_ofChars (cs : List Char) : (ofChars cs).isOrdinary = true := by
  simp [isOrdinary, ofChars, Letter.char?]

theorem exists_ofString {s : RawText} (h : s.isOrdinary = true) : ∃ t, s = ofString t := by
  refine ⟨s.shown, ?_⟩
  rw [ofString, shown, String.toList_ofList]
  exact (Json.shownText_of_isOrdinary h).symm

@[simp] theorem shownChars_ofString (s : String) : (ofString s).shownChars = s.toList := by
  have shown : Letter.shown ∘ Letter.char = id := rfl
  rw [shownChars, ofString, ofChars, List.map_map, shown, List.map_id]

end RawText

namespace Json

theorem foldl_setField {fields done : List (RawText × Json)}
    (h : (done ++ fields).map Prod.fst |>.Nodup) :
    fields.foldl (fun fields f => setField f.1 f.2 fields) done = done ++ fields := by
  induction fields generalizing done with
  | nil => simp
  | cons f rest ih =>
    have fresh : f.1 ∉ done.map Prod.fst := by
      rw [List.map_append, List.map_cons, List.nodup_append] at h
      exact fun mem => h.2.2 _ mem _ List.mem_cons_self rfl
    have moved : done ++ f :: rest = done ++ [(f.1, f.2)] ++ rest := by simp
    rw [moved] at h ⊢
    rw [List.foldl_cons, setField_of_not_mem fresh, ih h]

/-- Fields of distinct keys arrive as they are. -/
theorem ofArrivals_of_nodup {fields : List (RawText × Json)} (h : (fields.map Prod.fst).Nodup) :
    ofArrivals fields = .object fields := by
  rw [ofArrivals, foldl_setField (by simpa using h), List.nil_append]

theorem settledFields_eq_map {fields : List (RawText × Json)}
    (h : ∀ f ∈ fields, f.1.isOrdinary = true) :
    settledFields fields = fields.map fun f => (f.1, f.2.settled) := by
  induction fields with
  | nil => rfl
  | cons f rest ih =>
    rw [settledFields, shownText_of_isOrdinary (h f List.mem_cons_self),
      ih fun g hg => h g (List.mem_cons_of_mem _ hg), List.map_cons]

theorem settledItems_eq_map (items : List Json) : settledItems items = items.map settled := by
  induction items with
  | nil => rfl
  | cons v rest ih => rw [settledItems, ih, List.map_cons]

theorem areOrdinary_eq_all (items : List Json) : areOrdinary items = items.all isOrdinary := by
  induction items with
  | nil => rfl
  | cons v rest ih => rw [areOrdinary, ih, List.all_cons]

theorem areWritable_iff (items : List Json) : AreWritable items ↔ ∀ v ∈ items, v.IsWritable := by
  induction items with
  | nil => simp [AreWritable]
  | cons v rest ih => rw [AreWritable, ih, List.forall_mem_cons]

/-- An object with ordinary distinct keys settles field by field. -/
theorem settled_object {fields : List (RawText × Json)}
    (ordinary : ∀ f ∈ fields, f.1.isOrdinary = true) (nodup : (fields.map Prod.fst).Nodup) :
    settled (.object fields) = .object (fields.map fun f => (f.1, f.2.settled)) := by
  rw [settled, settledFields_eq_map ordinary, ofArrivals_of_nodup]
  simpa [List.map_map, Function.comp_def] using nodup

end Json
end Topograph
