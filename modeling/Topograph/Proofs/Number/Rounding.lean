import Mathlib.Tactic.Ring
import Topograph.Number.Shortest

/-!
# Rounding and the shortest decimal

A ratio that is a magnitude exactly is rounded to that magnitude, and rounding depends on the
ratio alone. So a decimal keeps its magnitude when trailing zeros move between its digits and its
exponent, and the shortest decimal of a magnitude always reads back as that magnitude, also where
the search fails and all decimals are written.
-/
namespace Topograph.Number

/-- Stated of `Nat.pow`, so that a use on literals has no power to evaluate. -/
theorem natPow_pos (b k : Nat) (hb : 0 < b) : 0 < Nat.pow b k := Nat.pow_pos hb

/-! ## Quotients -/

theorem roundQuotient_mul_self (n : Nat) {den : Nat} (h : 0 < den) :
    roundQuotient (n * den) den = n := by
  unfold roundQuotient
  rw [Nat.mul_div_cancel n h, Nat.mul_mod_left]
  exact if_pos h

theorem roundQuotient_mul_left {k : Nat} (hk : 0 < k) (num den : Nat) :
    roundQuotient (k * num) (k * den) = roundQuotient num den := by
  have below : 2 * (k * (num % den)) < k * den ↔ 2 * (num % den) < den := by
    rw [← Nat.mul_assoc, Nat.mul_comm 2 k, Nat.mul_assoc]
    exact Nat.mul_lt_mul_left hk
  have above : k * den < 2 * (k * (num % den)) ↔ den < 2 * (num % den) := by
    rw [← Nat.mul_assoc, Nat.mul_comm 2 k, Nat.mul_assoc]
    exact Nat.mul_lt_mul_left hk
  unfold roundQuotient
  simp only [Nat.mul_div_mul_left _ _ hk, Nat.mul_mod_mul_left, below, above]

namespace Magnitude

theorem units_eq (m : Magnitude) : m.units = m.significand * 2 ^ m.shift := rfl

theorem units_pos {m : Magnitude} (h : m.significand ≠ 0) : 0 < m.units :=
  Nat.mul_pos (Nat.pos_of_ne_zero h) (natPow_pos 2 _ (by decide))

theorem units_lt (m : Magnitude) (k : Nat) (h : m.shift ≤ k) :
    m.units < Nat.pow 2 53 * Nat.pow 2 k := by
  calc m.units ≤ m.significand * Nat.pow 2 k :=
        Nat.mul_le_mul_left _ (Nat.pow_le_pow_right (by decide) h)
    _ < Nat.pow 2 53 * Nat.pow 2 k :=
        Nat.mul_lt_mul_of_pos_right m.canonical.1 (natPow_pos 2 k (by decide))

/-- The unit of the canonical form is told by the size of the value. -/
theorem log2_units (m : Magnitude) : m.units.log2 - 52 = m.shift := by
  obtain ⟨below, full, -⟩ := m.canonical
  have below : m.significand < 2 ^ 53 := below
  rcases full with least | full
  · have small : m.units.log2 < 53 := by
      by_cases zero : m.units = 0
      · rw [zero]
        decide
      · rw [Nat.log2_lt zero, units_eq, least, Nat.pow_zero, Nat.mul_one]
        exact below
    omega
  · have full : 2 ^ 52 ≤ m.significand := full
    have positive : 0 < m.units := units_pos (by omega)
    have least : 52 + m.shift ≤ m.units.log2 := by
      rw [Nat.le_log2 positive.ne', units_eq, Nat.pow_add]
      exact Nat.mul_le_mul_right _ full
    have most : m.units.log2 < 53 + m.shift := by
      rw [Nat.log2_lt positive.ne', units_eq, Nat.pow_add]
      exact Nat.mul_lt_mul_of_pos_right below (Nat.pow_pos (by decide))
    omega

/-- A ratio that is a magnitude exactly is rounded to it. -/
theorem ofRatio?_of_eq (m : Magnitude) {num den : Nat} (hden : 0 < den)
    (h : num * one = m.units * den) : ofRatio? num den = some m := by
  have shift : (num * one / den).log2 - 52 = m.shift := by
    rw [h, Nat.mul_div_cancel _ hden, log2_units]
  have significand : roundQuotient (num * one) (den * Nat.pow 2 m.shift) = m.significand := by
    rw [h, units, Nat.mul_assoc, Nat.mul_comm (Nat.pow 2 m.shift)]
    exact roundQuotient_mul_self _ (Nat.mul_pos hden (natPow_pos 2 _ (by decide)))
  unfold ofRatio?
  simp only [shift, significand, if_pos m.canonical.1, ofParts?, dif_pos m.canonical]

theorem ofRatio?_mul_left {k : Nat} (hk : 0 < k) (num den : Nat) :
    ofRatio? (k * num) (k * den) = ofRatio? num den := by
  unfold ofRatio?
  simp only [Nat.mul_assoc, Nat.mul_div_mul_left _ _ hk, roundQuotient_mul_left hk]

end Magnitude

/-! ## Decimals -/

namespace Numeral

theorem length_digits_mul_ten {n : Nat} (h : n ≠ 0) :
    (digits (10 * n)).length = (digits n).length + 1 := by
  rw [digits_of_le (by omega), List.length_append, List.length_singleton,
    Nat.mul_div_cancel_left n (by decide)]

end Numeral

namespace Magnitude

/-- Trailing zeros may stand among the digits or in the exponent. -/
theorem ofDecimal?_mul_ten (n : Nat) (e : Int) :
    ofDecimal? ⟨10 * n, e⟩ = ofDecimal? ⟨n, e + 1⟩ := by
  by_cases zero : n = 0
  · simp [ofDecimal?, zero]
  · have place : e + ((Numeral.digits (10 * n)).length : Nat) =
        e + 1 + ((Numeral.digits n).length : Nat) := by
      rw [Numeral.length_digits_mul_ten zero]
      omega
    have ratio : ofRatio? (10 * n * Nat.pow 10 e.toNat) (Nat.pow 10 (-e).toNat) =
        ofRatio? (n * Nat.pow 10 (e + 1).toNat) (Nat.pow 10 (-(e + 1)).toNat) := by
      by_cases negative : e < 0
      · obtain ⟨k, rfl⟩ : ∃ k : Nat, e = -(k : Int) - 1 := ⟨(-e - 1).toNat, by omega⟩
        have h₁ : (-(k : Int) - 1).toNat = 0 := by omega
        have h₂ : (-(-(k : Int) - 1)).toNat = k + 1 := by omega
        have h₃ : (-(k : Int) - 1 + 1).toNat = 0 := by omega
        have h₄ : (-(-(k : Int) - 1 + 1)).toNat = k := by omega
        have power : Nat.pow 10 (k + 1) = 10 * Nat.pow 10 k := Nat.pow_succ'
        rw [h₁, h₂, h₃, h₄, Nat.mul_assoc, power, ofRatio?_mul_left (by decide)]
      · obtain ⟨k, rfl⟩ : ∃ k : Nat, e = (k : Int) := ⟨e.toNat, by omega⟩
        have h₁ : ((k : Int) + 1).toNat = k + 1 := by omega
        have h₂ : (-((k : Int) + 1)).toNat = (-(k : Int)).toNat := by omega
        have power : Nat.pow 10 (k + 1) = 10 * Nat.pow 10 k := Nat.pow_succ'
        rw [h₁, h₂, Int.toNat_natCast, power, Nat.mul_comm 10 n, Nat.mul_assoc]
    unfold ofDecimal?
    simp only [place, ratio, zero, Nat.mul_eq_zero, or_false, OfNat.ofNat_ne_zero]

theorem ofDecimal?_mul_pow (n k : Nat) (e : Int) :
    ofDecimal? ⟨n * 10 ^ k, e⟩ = ofDecimal? ⟨n, e + k⟩ := by
  induction k generalizing e with
  | zero => simp
  | succ k ih =>
    have first : n * 10 ^ (k + 1) = 10 * (n * 10 ^ k) := by ring
    rw [first, ofDecimal?_mul_ten, ih]
    congr 2
    omega

end Magnitude

/-- Moving trailing zeros into the exponent changes no magnitude. -/
theorem Decimal.ofDecimal?_strip (d : Decimal) :
    Magnitude.ofDecimal? d.strip = Magnitude.ofDecimal? d := by
  fun_induction Decimal.strip d with
  | case1 d h ih =>
    rw [ih, ← Magnitude.ofDecimal?_mul_ten, Nat.mul_div_cancel' (Nat.dvd_of_mod_eq_zero h.2)]
  | case2 d h => rfl

namespace Magnitude

/-! ## The shortest decimal -/

theorem digits_exact (m : Magnitude) : m.exact.digits = m.units * Nat.pow 5 1074 := rfl

/-- All decimals of a positive magnitude have a leading digit at a place where the rounding looks
at the ratio. -/
theorem place_exact {m : Magnitude} (h : m.significand ≠ 0) :
    751 ≤ (Numeral.digits m.exact.digits).length ∧
      (Numeral.digits m.exact.digits).length ≤ 1383 := by
  have positive : 1 ≤ m.units := units_pos h
  have bound := m.units_lt 2045 m.canonical.2.2
  have low : Nat.pow 10 (749 + 1) ≤ Nat.pow 5 1074 := by decide +kernel
  have high : Nat.pow 2 53 * Nat.pow 2 2045 * Nat.pow 5 1074 < Nat.pow 10 (1382 + 1) := by
    decide +kernel
  have least := Numeral.length_digits_le_iff m.exact.digits 749
  have most := Numeral.length_digits_le_iff m.exact.digits 1382
  rw [digits_exact] at least most ⊢
  -- The powers are too large to be evaluated, so they get names.
  generalize Nat.pow 2 53 * Nat.pow 2 2045 = a at *
  generalize Nat.pow 5 1074 = b at *
  generalize Nat.pow 10 (749 + 1) = c at *
  generalize Nat.pow 10 (1382 + 1) = d at *
  have above : b ≤ m.units * b := Nat.le_mul_of_pos_left b positive
  have below : m.units * b ≤ a * b := Nat.mul_le_mul_right b bound.le
  omega

theorem ofRatio?_exact (m : Magnitude) :
    ofRatio? (m.units * Nat.pow 5 1074 * Nat.pow 10 0) (Nat.pow 10 1074) = some m := by
  have power : Nat.pow 5 1074 * one = Nat.pow 10 1074 := by decide +kernel
  have positive : 0 < Nat.pow 10 1074 := by decide +kernel
  generalize Nat.pow 10 1074 = a at *
  generalize Nat.pow 5 1074 = b at *
  apply ofRatio?_of_eq m positive
  rw [← power, Nat.mul_assoc m.units, Nat.mul_assoc m.units]
  exact congrArg (fun x => m.units * (x * one)) (Nat.mul_one b)

theorem ofDecimal?_exact {m : Magnitude} (h : m.significand ≠ 0) :
    ofDecimal? m.exact = some m := by
  obtain ⟨least, most⟩ := place_exact h
  have nonzero : m.exact.digits ≠ 0 := by
    intro zero
    rw [zero, Numeral.digits_of_lt (by decide)] at least
    exact absurd least (by simp)
  have exponent : m.exact.exponent = -1074 := rfl
  unfold ofDecimal?
  rw [if_neg nonzero, exponent, if_neg (by omega), if_neg (by omega)]
  exact ofRatio?_exact m

theorem eq_zero_of_significand {m : Magnitude} (h : m.significand = 0) : m = zero := by
  obtain ⟨significand, shift, canonical⟩ := m
  obtain rfl : significand = 0 := h
  have : shift = 0 := by
    rcases canonical.2.1 with least | full
    · exact least
    · exact absurd full (by decide)
  subst this
  rfl

/-- What the search on a grid finds reads back, because it was read before it was taken. -/
theorem ofDecimal?_of_onGrid? {m : Magnitude} {e : Int} {d : Decimal} (h : m.onGrid? e = some d) :
    ofDecimal? d = some m := by
  unfold onGrid? at h
  obtain ⟨n, -, hn⟩ := List.exists_of_findSome?_eq_some h
  split at hn
  · rename_i reads
    obtain rfl := Option.some.inj hn
    exact reads
  · cases hn

/-- The shortest decimal of a magnitude reads back as that magnitude. -/
theorem ofDecimal?_shortest (m : Magnitude) : ofDecimal? m.shortest = some m := by
  unfold shortest
  split
  · rename_i h
    rw [eq_zero_of_significand h]
    rfl
  · rename_i h
    rw [Decimal.ofDecimal?_strip]
    cases found : (List.range 17).findSome? fun n => m.onGrid? (m.place - (n + 1 : Nat)) with
    | none => exact ofDecimal?_exact h
    | some d =>
      obtain ⟨n, -, hn⟩ := List.exists_of_findSome?_eq_some found
      exact ofDecimal?_of_onGrid? hn

/-- Only zero has the digit zero, and it has no exponent. -/
theorem exponent_shortest {m : Magnitude} (h : m.shortest.digits = 0) :
    m.shortest.exponent = 0 := by
  have reads : ofDecimal? m.shortest = some zero := by
    unfold ofDecimal?
    exact if_pos h
  obtain rfl : zero = m := Option.some.inj (reads.symm.trans (ofDecimal?_shortest m))
  rfl

end Magnitude
end Topograph.Number
