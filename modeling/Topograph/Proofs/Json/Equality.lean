import Topograph.Json.Basic
import Topograph.Proofs.Number.ExactValue

/-!
# Equal documents

Two documents are equal if they have one shape and equal leaves. Neither the order in which an
object holds its keys makes a difference nor the kind of a number, and a truth value counts as zero
or one.
-/
namespace Topograph.Json

/-- The number that a value is, or that a truth value counts as. -/
def number? : Json → Option Number
  | .number n => some n
  | .bool b => some (.int (if b then 1 else 0))
  | _ => none

inductive Equals : Json → Json → Prop where
  | null : Equals .null .null
  | number {v w : Json} {a b : Number} : v.number? = some a → w.number? = some b → a.Equals b →
    Equals v w
  | string (s : RawText) : Equals (.string s) (.string s)
  | array {vs ws : List Json} : vs.length = ws.length →
    (∀ (i : Nat) v w, vs[i]? = some v → ws[i]? = some w → Equals v w) →
    Equals (.array vs) (.array ws)
  | object {fs gs : List (RawText × Json)} :
    (∀ key, (fs.lookup key).isSome = (gs.lookup key).isSome) →
    (∀ key v w, fs.lookup key = some v → gs.lookup key = some w → Equals v w) →
    Equals (.object fs) (.object gs)

theorem equals_number_iff {a b : Number} : Equals (.number a) (.number b) ↔ a.Equals b := by
  constructor
  · intro h
    cases h with
    | number ha hb same =>
      obtain rfl := Option.some.inj ha
      obtain rfl := Option.some.inj hb
      exact same
  · exact .number rfl rfl

theorem equals_bool_iff {a b : Bool} : Equals (.bool a) (.bool b) ↔ a = b := by
  constructor
  · intro h
    cases h with
    | number ha hb same =>
      obtain rfl := Option.some.inj ha
      obtain rfl := Option.some.inj hb
      rw [Number.equals_int_iff] at same
      cases a <;> cases b <;> simp_all
  · rintro rfl
    exact .number rfl rfl (Number.equals_int_iff.mpr rfl)

theorem equals_string_iff {s t : RawText} : Equals (.string s) (.string t) ↔ s = t := by
  constructor
  · intro h
    cases h with
    | number hs => cases hs
    | string => rfl
  · rintro rfl
    exact .string s

theorem equals_empty : Equals (.object []) (.object []) := .object (fun _ => rfl) nofun

theorem lookup_eq_none_of_not_mem {key : RawText} {fs : List (RawText × Json)}
    (h : key ∉ fs.map Prod.fst) : fs.lookup key = none := by
  rw [List.lookup_eq_none_iff]
  intro f hf
  rw [bne_iff_ne]
  exact fun same => h (same ▸ List.mem_map_of_mem hf)

/-- Objects with one first key are equal exactly if the values under it are, and the rest. -/
theorem equals_object_cons {key : RawText} {v w : Json} {fs gs : List (RawText × Json)}
    (hf : key ∉ fs.map Prod.fst) (hg : key ∉ gs.map Prod.fst) :
    Equals (.object ((key, v) :: fs)) (.object ((key, w) :: gs)) ↔
      v.Equals w ∧ Equals (.object fs) (.object gs) := by
  have other {k : RawText} (ne : k ≠ key) (u : Json) (hs : List (RawText × Json)) :
      ((key, u) :: hs).lookup k = hs.lookup k := by
    rw [List.lookup_cons, beq_eq_false_iff_ne.mpr ne]
  constructor
  · intro h
    cases h with
    | number none => cases none
    | object present values =>
      refine ⟨values key v w (by simp) (by simp), .object (fun k => ?_) fun k v' w' hv hw => ?_⟩
      · by_cases same : k = key
        · rw [same, lookup_eq_none_of_not_mem hf, lookup_eq_none_of_not_mem hg]
        · rw [← other same v fs, ← other same w gs, present]
      · have ne : k ≠ key := by
          rintro rfl
          rw [lookup_eq_none_of_not_mem hf] at hv
          cases hv
        exact values k v' w' ((other ne v fs).trans hv) ((other ne w gs).trans hw)
  · rintro ⟨first, rest⟩
    cases rest with
    | number none => cases none
    | object present values =>
      refine .object (fun k => ?_) fun k v' w' hv hw => ?_
      · by_cases same : k = key
        · simp [same]
        · rw [other same, other same, present]
      · by_cases same : k = key
        · subst same
          rw [List.lookup_cons_self] at hv hw
          obtain rfl := Option.some.inj hv
          obtain rfl := Option.some.inj hw
          exact first
        · rw [other same] at hv hw
          exact values k v' w' hv hw

end Topograph.Json
