import Topograph.Json.Basic

/-!
# Paths in documents

A path is a list of keys, each to be found in the object that the keys before it lead to. Documents
that agree off a path have the same value at any other one, unless one of the two paths continues
the other.
-/
namespace Topograph.Json

/-- The value at a path of keys. -/
def at? : List RawText → Json → Option Json
  | [], v => some v
  | key :: path, v => (v.get? key).bind (at? path)

theorem at?_singleton (key : RawText) (v : Json) : v.at? [key] = v.get? key := by
  rw [at?]
  cases v.get? key <;> rfl

theorem at?_append (p q : List RawText) (v : Json) : v.at? (p ++ q) = (v.at? p).bind (at? q) := by
  induction p generalizing v with
  | nil => rfl
  | cons key p ih =>
    rw [List.cons_append, at?, at?, Option.bind_assoc]
    exact Option.bind_congr fun w _ => ih w

theorem at?_concat (p : List RawText) (key : RawText) (v : Json) :
    v.at? (p ++ [key]) = (v.at? p).bind (·.get? key) := by
  rw [at?_append]
  exact Option.bind_congr fun w _ => at?_singleton key w

theorem at?_pair (key key' : RawText) (v : Json) :
    v.at? [key, key'] = (v.get? key).bind (·.get? key') := by
  rw [← at?_singleton, ← at?_concat, List.singleton_append]

/-- Where there is no document, there are no values, as in null. -/
theorem get?_getD_null (key : RawText) (o : Option Json) :
    (o.getD .null).get? key = o.bind (get? key) := by cases o <;> rfl

theorem at?_getD_null {path : List RawText} (h : path ≠ []) (o : Option Json) :
    (o.getD .null).at? path = o.bind (at? path) := by
  cases o with
  | some v => rfl
  | none => cases path with
    | nil => exact absurd rfl h
    | cons key path => rfl

/-- The documents agree except, perhaps, at the path: in whether a value is there, and in which. -/
def AgreesOff : List RawText → Json → Json → Prop
  | [], _, _ => True
  | key :: path, v, w => (∀ other, other ≠ key → v.get? other = w.get? other) ∧
      AgreesOff path ((v.get? key).getD .null) ((w.get? key).getD .null)

theorem AgreesOff.at?_eq {p q : List RawText} {v w : Json} (h : AgreesOff p v w)
    (apart : ¬ p <+: q) (apart' : ¬ q <+: p) : v.at? q = w.at? q := by
  induction p generalizing q v w with
  | nil => exact absurd List.nil_prefix apart
  | cons key p ih =>
    obtain ⟨others, inside⟩ := h
    cases q with
    | nil => exact absurd List.nil_prefix apart'
    | cons other q =>
      -- Both paths go on inside until they part, and there the values agree.
      by_cases same : other = key
      · subst same
        rw [List.cons_prefix_cons] at apart apart'
        have apart : ¬ p <+: q := fun le => apart ⟨rfl, le⟩
        have apart' : ¬ q <+: p := fun le => apart' ⟨rfl, le⟩
        have nonempty : q ≠ [] := fun nil => apart' (nil ▸ List.nil_prefix)
        rw [at?, at?, ← at?_getD_null nonempty, ← at?_getD_null nonempty, ih inside apart apart']
      · rw [at?, at?, others other same]

end Topograph.Json
