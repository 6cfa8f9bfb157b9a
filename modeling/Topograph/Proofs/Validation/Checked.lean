import Topograph.Validation.Issue

/-!
# Values without issues

Parts join to a value exactly if none of them has an issue, and the value is then made of those of
the parts.
-/
namespace Topograph.Validation.Checked
variable {α β : Type}

@[simp] theorem join_ok (f : α → β) (a : α) : join (.ok f) (.ok a) = .ok (f a) := rfl

@[simp] theorem below_ok (step : Step) (a : α) : below step (.ok a) = .ok a := rfl

@[simp] theorem join_eq_ok {f : Checked (α → β)} {a : Checked α} {b : β} :
    join f a = .ok b ↔ ∃ g x, f = .ok g ∧ a = .ok x ∧ g x = b := by
  cases f <;> cases a <;> simp [join]

@[simp] theorem below_eq_ok {step : Step} {checked : Checked α} {a : α} :
    below step checked = .ok a ↔ checked = .ok a := by
  cases checked <;> simp [below]

theorem optional_eq_ok {record : Json} {name : String} {rule : Json → Checked α} {default a : α} :
    optional record name rule default = .ok a ↔
      (∃ v, record.get? name = some v ∧ rule v = .ok a) ∨
        (record.get? name = none ∧ default = a) := by
  rw [optional]
  cases record.get? name <;> simp

theorem record_eq_ok {fault : Fault} {rule : Json → Checked α} {v : Json} {a : α} :
    record fault rule v = .ok a ↔ ∃ fields, v = .object fields ∧ rule v = .ok a := by
  cases v <;> simp [record, fail]

/-- The elements of a list without issues have none themselves. -/
theorem elements_eq_ok {rule : Nat → Json → Checked α} {i : Nat} {vs : List Json} {as : List α}
    (h : elements rule i vs = .ok as) {k : Nat} {v : Json} {a : α} (given : vs[k]? = some v)
    (taken : as[k]? = some a) : rule (i + k) v = .ok a := by
  induction vs generalizing i k as with
  | nil => simp at given
  | cons w vs ih =>
    obtain ⟨g, rest, first, others, rfl⟩ := join_eq_ok.mp h
    cases checked : rule i w with
    | error issues => simp [checked, below] at first
    | ok b =>
      obtain rfl : (b :: ·) = g := by simpa [checked] using first
      cases k with
      | zero =>
        obtain rfl : w = v := by simpa using given
        obtain rfl : b = a := by simpa using taken
        exact checked
      | succ k =>
        have next := ih others (by simpa using given) (by simpa using taken)
        rwa [Nat.add_assoc, Nat.add_comm 1] at next

end Topograph.Validation.Checked
