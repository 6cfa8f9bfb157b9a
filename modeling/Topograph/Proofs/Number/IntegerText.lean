import Mathlib.Data.List.Induction
import Topograph.Number.Basic

/-!
# The text of an integer

Within the digit limit every integer has a text, and two integers with one text are equal: a sign
is no digit, and the digits of a natural number give it back.
-/
namespace Topograph.Number

theorem toList_integerText (n : Int) :
    (integerText n).toList = (if n < 0 then ['-'] else []) ++ Numeral.digits n.natAbs := by
  rw [integerText, String.toList_ofList]

theorem sign_or_digit {n : Int} {c : Char} (h : c ∈ (integerText n).toList) :
    c = '-' ∨ Numeral.isDigit c = true := by
  rw [toList_integerText, List.mem_append] at h
  rcases h with sign | digit
  · split at sign
    · exact .inl (List.mem_singleton.mp sign)
    · cases sign
  · exact .inr (Numeral.isDigit_of_mem_digits digit)

theorem integerText?_of_isWritable {n : Int} (h : IsWritable n) :
    integerText? n = some (integerText n) := if_pos h

theorem integerText?_of_overlong {n : Int} (h : ¬ IsWritable n) : integerText? n = none := if_neg h

theorem IsWritable.of_le {m n : Int} (h : IsWritable n) (le : m.natAbs ≤ n.natAbs) :
    IsWritable m := Nat.lt_of_le_of_lt le h

theorem isWritable_iff (n : Int) :
    IsWritable n ↔ (Numeral.digits n.natAbs).length ≤ digitLimit := by
  have limit : digitLimit = 4299 + 1 := rfl
  rw [IsWritable, limit, Numeral.length_digits_le_iff]

theorem length_digits_of_isWritable {n : Int} (h : IsWritable n) :
    (Numeral.digits n.natAbs).length ≤ digitLimit := (isWritable_iff n).mp h

theorem isWritable_of_isWord {n : Int} (h : IsWord n) : IsWritable n := by
  rw [isWritable_iff]
  have short : (Numeral.digits n.natAbs).length ≤ 18 + 1 := by
    rw [Numeral.length_digits_le_iff]
    have bound : Nat.pow 10 (18 + 1) = 10000000000000000000 := rfl
    unfold IsWord at h
    omega
  exact Nat.le_trans short (by decide)

/-- The digits of an integer and its sign give it back. -/
theorem integerOfDigits?_digits {n : Int} (h : IsWritable n) :
    integerOfDigits? (decide (n < 0)) (Numeral.digits n.natAbs) = some n := by
  rw [integerOfDigits?, if_pos (length_digits_of_isWritable h), Numeral.value_digits]
  congr 1
  by_cases negative : n < 0
  · simp only [negative, decide_true, if_true]
    omega
  · simp only [negative, decide_false, Bool.false_eq_true, if_false]
    omega

namespace Numeral

/-- A run of digits does not begin with a sign. -/
theorem head_digits_ne_sign (n : Nat) (tail : List Char) : digits n ≠ '-' :: tail := by
  intro h
  have digit : isDigit '-' = true := isDigit_of_mem_digits (n := n) (by rw [h]; simp)
  exact absurd digit (by decide)

/-- A run of digits stays below the power of ten of its length. -/
theorem value_lt {ds : List Char} (h : ∀ c ∈ ds, isDigit c = true) :
    value ds < Nat.pow 10 ds.length := by
  induction ds using List.reverseRecOn with
  | nil => exact Nat.one_pos
  | append_singleton ds c ih =>
    have before := ih fun d hd => h d (List.mem_append_left _ hd)
    have last : digitValue c < 10 := by
      have digit := h c (by simp)
      simp only [isDigit, Bool.and_eq_true, decide_eq_true_eq] at digit
      rw [digitValue]
      omega
    have power : Nat.pow 10 (ds ++ [c]).length = Nat.pow 10 ds.length * 10 := by
      rw [List.length_append]
      rfl
    rw [value_append, power]
    omega

end Numeral

/-- An integer that is read from a run of digits has a text. -/
theorem isWritable_of_integerOfDigits? {negative : Bool} {ds : List Char} {n : Int}
    (digits : ∀ c ∈ ds, Numeral.isDigit c = true)
    (h : integerOfDigits? negative ds = some n) : IsWritable n := by
  unfold integerOfDigits? at h
  split at h
  · rename_i short
    have below : ∀ k, ds.length ≤ k → Numeral.value ds < Nat.pow 10 k := fun k hk =>
      Nat.lt_of_lt_of_le (Numeral.value_lt digits) (Nat.pow_le_pow_right (by decide) hk)
    have size : n.natAbs = Numeral.value ds := by
      obtain rfl := Option.some.inj h
      cases negative <;> simp
    rw [IsWritable, size]
    exact below _ short
  · exact absurd h (by simp)

theorem integerText_injective {m n : Int} (h : integerText m = integerText n) : m = n := by
  have chars : (integerText m).toList = (integerText n).toList := by rw [h]
  rw [toList_integerText, toList_integerText] at chars
  by_cases hm : m < 0
  · by_cases hn : n < 0
    · rw [if_pos hm, if_pos hn, List.singleton_append, List.singleton_append] at chars
      have := Numeral.digits_injective (List.cons.inj chars).2
      omega
    · rw [if_pos hm, if_neg hn] at chars
      exact absurd chars.symm (Numeral.head_digits_ne_sign _ _)
  · by_cases hn : n < 0
    · rw [if_neg hm, if_pos hn] at chars
      exact absurd chars (Numeral.head_digits_ne_sign _ _)
    · rw [if_neg hm, if_neg hn, List.nil_append, List.nil_append] at chars
      have := Numeral.digits_injective chars
      omega

@[simp] theorem integerText_inj {m n : Int} : integerText m = integerText n ↔ m = n :=
  ⟨integerText_injective, congrArg _⟩

@[simp] theorem bne_integerText (m n : Int) :
    (integerText m != integerText n) = (m != n) := by
  by_cases h : m = n
  · simp [h]
  · have texts : integerText m ≠ integerText n := fun same => h (integerText_injective same)
    rw [bne_iff_ne.mpr texts, bne_iff_ne.mpr h]

end Topograph.Number
