import Mathlib.Data.Rat.Floor
import Topograph.Number.Basic
import Topograph.Proofs.Number.LabelText

/-!
# Exact values

A finite number has an exact value, which tells it apart from every other number of its kind but for
the two zeros. A binary value has no fraction exactly if its exact value is an integer, and dropping
the fraction rounds the exact value toward zero. Numbers of either kind are equal if their exact
values are.
-/
namespace Topograph

namespace Number

namespace Magnitude

theorem one_pos : (0 : ℚ) < (one : ℕ) := by
  have positive : 0 < one := by decide +kernel
  exact Nat.cast_pos.mpr positive

/-- The size of the units tells the shift, and so the significand. -/
theorem units_injective {m n : Magnitude} (h : m.units = n.units) : m = n := by
  have shift : m.shift = n.shift := by rw [← m.log2_units, ← n.log2_units, h]
  have significand : m.significand = n.significand := by
    rw [units, units, shift] at h
    exact Nat.eq_of_mul_eq_mul_right (natPow_pos 2 n.shift (by decide)) h
  obtain ⟨_, _, _⟩ := m
  obtain ⟨_, _, _⟩ := n
  subst shift significand
  rfl

def value (m : Magnitude) : ℚ := m.units / (one : ℕ)

theorem value_nonneg (m : Magnitude) : 0 ≤ m.value :=
  div_nonneg (Nat.cast_nonneg _) one_pos.le

theorem value_injective {m n : Magnitude} (h : m.value = n.value) : m = n := by
  apply units_injective
  rw [value, value, div_left_inj' one_pos.ne'] at h
  exact Nat.cast_injective h

theorem value_eq_zero_iff (m : Magnitude) : m.value = 0 ↔ m.units = 0 := by
  rw [value, div_eq_zero_iff, or_iff_left one_pos.ne', Nat.cast_eq_zero]

theorem floor_value (m : Magnitude) : ⌊m.value⌋ = m.floor := by
  have quotient := Rat.floor_intCast_div_natCast (m.units : ℤ) one
  rw [Int.cast_natCast] at quotient
  rw [value, quotient, floor, Int.natCast_ediv]

/-- The value is an integer exactly if no fraction is left after its whole part. -/
theorem value_eq_intCast_iff (m : Magnitude) (n : ℤ) :
    m.value = n ↔ m.isWhole = true ∧ (m.floor : ℤ) = n := by
  have whole : m.isWhole = true ↔ m.value = (m.floor : ℤ) := by
    have parts := Nat.div_add_mod' m.units one
    rw [isWhole, beq_iff_eq, value, div_eq_iff one_pos.ne', Int.cast_natCast, ← Nat.cast_mul,
      Nat.cast_inj, floor]
    omega
  rw [whole]
  constructor
  · intro same
    have floor : (m.floor : ℤ) = n := by rw [← floor_value, same, Int.floor_intCast]
    exact ⟨floor ▸ same, floor⟩
  · rintro ⟨same, rfl⟩
    exact same

end Magnitude

namespace Binary64

/-- The exact value of a finite number. -/
def value? : Binary64 → Option ℚ
  | .finite negative m => some (if negative then -m.value else m.value)
  | _ => none

theorem value?_eq_none_iff (x : Binary64) : x.value? = none ↔ x.isFinite = false := by
  cases x <;> simp [value?, isFinite]

theorem isFinite_of_isZero {x : Binary64} (h : x.isZero = true) : x.isFinite = true := by
  cases x with
  | finite negative m => rfl
  | _ => cases h

/-- Only the two zeros share a value. -/
theorem value?_eq_iff {x y : Binary64} (h : x.isFinite = true) :
    x.value? = y.value? ↔ x = y ∨ x.isZero = true ∧ y.isZero = true := by
  cases x with
  | nan => cases h
  | infinite _ => cases h
  | finite negative m =>
    cases y with
    | nan => simp [value?, isZero]
    | infinite _ => simp [value?, isZero]
    | finite negative' n =>
      rw [isZero_iff_units, isZero_iff_units, ← m.value_eq_zero_iff, ← n.value_eq_zero_iff, value?,
        value?, Option.some_inj, finite.injEq]
      constructor
      · intro same
        by_cases signs : negative = negative'
        · subst signs
          refine .inl ⟨rfl, Magnitude.value_injective ?_⟩
          cases negative
          · exact same
          · exact neg_injective same
        · -- Of two opposite signs, one value is not positive and the other one not negative.
          have hm := m.value_nonneg
          have hn := n.value_nonneg
          right
          cases negative <;> cases negative' <;> simp at signs same <;> constructor <;> linarith
      · rintro (⟨rfl, rfl⟩ | ⟨zero, zero'⟩)
        · rfl
        · simp [zero, zero']

/-- A number without a fraction is the integer that it is worth. -/
theorem whole?_eq_some_iff {x : Binary64} {n : ℤ} :
    x.whole? = some n ↔ x.value? = some (n : ℚ) := by
  cases x with
  | nan => simp [whole?, value?]
  | infinite _ => simp [whole?, value?]
  | finite negative m =>
    have whole := m.value_eq_intCast_iff
    rw [whole?, value?, Option.some_inj]
    cases negative with
    | false => simp [whole]
    | true =>
      have opposite : -m.value = n ↔ m.value = (-n : ℤ) := by rw [Int.cast_neg, neg_eq_iff_eq_neg]
      simp only [if_true]
      rw [opposite, whole]
      split <;> simp [*, neg_eq_iff_eq_neg]

/-- Dropping the fraction rounds toward zero. -/
theorem truncate?_of_value? {x : Binary64} {v : ℚ} (h : x.value? = some v) :
    x.truncate? = some (if v < 0 then ⌈v⌉ else ⌊v⌋) := by
  cases x with
  | nan => cases h
  | infinite _ => cases h
  | finite negative m =>
    obtain rfl := Option.some.inj h
    have nonneg := m.value_nonneg
    have floor := m.floor_value
    rw [truncate?, Option.some_inj]
    cases negative with
    | false => simp [floor, not_lt.mpr nonneg]
    | true =>
      simp only [if_true, Left.neg_neg_iff, Int.ceil_neg, floor]
      split
      · rfl
      next zero =>
        have zero : m.value = 0 := le_antisymm (not_lt.mp zero) nonneg
        rw [zero, Int.floor_zero] at floor
        rw [zero, ← floor, neg_zero, neg_zero, Int.floor_zero]

end Binary64
end Number

namespace Number

/-- The exact value of a finite number. -/
def value? : Number → Option ℚ
  | .int n => some n
  | .float x => x.value?

/-- The integer that a number is, if it has no fraction. -/
def whole? : Number → Option Int
  | .int n => some n
  | .float x => x.whole?

theorem whole?_eq_some_iff {a : Number} {n : ℤ} : a.whole? = some n ↔ a.value? = some (n : ℚ) := by
  cases a with
  | int k => simp [whole?, value?]
  | float x => exact Binary64.whole?_eq_some_iff

/-- The numbers are equal: they have one exact value, or they are the same and have none. -/
def Equals (a b : Number) : Prop := a.value? = b.value? ∧ (a.value? = none → a = b)

theorem Equals.symm {a b : Number} (h : a.Equals b) : b.Equals a :=
  ⟨h.1.symm, fun none => (h.2 (h.1.trans none)).symm⟩

theorem equals_comm {a b : Number} : a.Equals b ↔ b.Equals a := ⟨Equals.symm, Equals.symm⟩

theorem equals_int_iff {m n : Int} : (Number.int m).Equals (.int n) ↔ m = n := by
  simp [Equals, value?]

theorem equals_int_float_iff {n : Int} {x : Binary64} :
    (Number.int n).Equals (.float x) ↔ x.whole? = some n := by
  rw [Binary64.whole?_eq_some_iff]
  simp [Equals, value?, eq_comm]

/-- Of binary values only the two zeros are equal and not the same; a NaN equals itself. -/
theorem equals_float_iff {x y : Binary64} :
    (Number.float x).Equals (.float y) ↔ x = y ∨ x.isZero = true ∧ y.isZero = true := by
  rw [Equals, value?, value?, Number.float.injEq]
  cases finite : x.isFinite with
  | true =>
    have value : x.value? ≠ none := by simp [Binary64.value?_eq_none_iff, finite]
    rw [Binary64.value?_eq_iff finite, and_iff_left fun none => absurd none value]
  | false =>
    have none := x.value?_eq_none_iff.mpr finite
    constructor
    · exact fun same => .inl (same.2 none)
    · rintro (rfl | ⟨zero, -⟩)
      · exact ⟨rfl, fun _ => rfl⟩
      · rw [Binary64.isFinite_of_isZero zero] at finite
        cases finite

end Number
end Topograph
