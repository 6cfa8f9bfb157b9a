import Topograph.Proofs.Number.DecimalText
import Topograph.Proofs.Number.IntegerText

/-!
# The text of a label

No space stands in the text of a binary value on a label, so the label of a position tells its two
coordinates apart. Only the zeros show as the digit zero: what is written with a fraction has a
point or an exponent.
-/
namespace Topograph.Number

/-- What stands in the text of a number apart from digits. -/
def marks : List Char := ['.', 'e', '+', '-', 'n', 'a', 'i', 'f']

namespace DecimalText.WellFormed
variable {t : DecimalText} (wf : t.WellFormed)
include wf

theorem mem_chars {c : Char} (h : c ∈ t.chars) : Numeral.isDigit c = true ∨ c ∈ marks := by
  rw [chars, List.mem_append, List.mem_append, fractionChars, powerChars] at h
  rcases h with (whole | fraction) | power
  · exact .inl (wf.whole_digits c whole)
  · split at fraction
    · cases fraction
    · rcases List.mem_cons.mp fraction with rfl | decimal
      · exact .inr (by decide)
      · exact .inl (wf.decimals_digits c decimal)
  · cases hpower : t.power with
    | none => simp [hpower] at power
    | some p =>
      obtain ⟨negative, ds⟩ := p
      simp only [hpower, List.mem_cons] at power
      rcases power with rfl | rfl | digit
      · exact .inr (by decide)
      · exact .inr (by cases negative <;> decide)
      · exact .inl ((wf.power_digits negative ds hpower).2 c digit)

theorem point_or_power : '.' ∈ t.chars ∨ 'e' ∈ t.chars := by
  rcases wf.not_integer with decimals | power
  · exact .inl (by simp [chars, fractionChars, decimals])
  · obtain ⟨p, hp⟩ := Option.ne_none_iff_exists'.mp power
    exact .inr (by simp [chars, powerChars, hp])

end DecimalText.WellFormed

namespace Layout
variable (layout : Layout)

theorem text_finite (negative : Bool) (m : Magnitude) : layout.text (.finite negative m) =
    (if negative then ['-'] else []) ++ (layout.parts m.shortest).chars := by
  rw [text, finite, chars_parts]

theorem wellFormed_shortest (m : Magnitude) : (layout.parts m.shortest).WellFormed :=
  wellFormed_parts layout Magnitude.exponent_shortest

theorem mem_text {x : Binary64} {c : Char} (h : c ∈ layout.text x) :
    Numeral.isDigit c = true ∨ c ∈ marks := by
  cases x with
  | nan =>
    have letters : "nan".toList.all (· ∈ marks) = true := by decide
    exact .inr (of_decide_eq_true (List.all_eq_true.mp letters c h))
  | infinite negative =>
    have letters : (if negative then "-inf" else "inf").toList.all (· ∈ marks) = true := by
      cases negative <;> decide
    exact .inr (of_decide_eq_true (List.all_eq_true.mp letters c h))
  | finite negative m =>
    rw [text_finite, List.mem_append] at h
    rcases h with sign | decimal
    · obtain rfl : c = '-' := by
        cases negative
        · cases sign
        · exact List.mem_singleton.mp sign
      exact .inr (by decide)
    · exact (layout.wellFormed_shortest m).mem_chars decimal

theorem exists_mark (x : Binary64) : ∃ c ∈ layout.text x, c ∈ marks := by
  cases x with
  | nan => exact ⟨'n', by simp [text], by decide⟩
  | infinite negative => exact ⟨'i', by cases negative <;> simp [text], by decide⟩
  | finite negative m =>
    rw [text_finite]
    rcases (layout.wellFormed_shortest m).point_or_power with point | power
    · exact ⟨'.', List.mem_append_right _ point, by decide⟩
    · exact ⟨'e', List.mem_append_right _ power, by decide⟩

end Layout

namespace Binary64

theorem isZero_iff_units {negative : Bool} {m : Magnitude} :
    (finite negative m).isZero = true ↔ m.units = 0 := by
  rw [isZero, beq_iff_eq]
  constructor
  · intro zero
    rw [Magnitude.units, zero, Nat.zero_mul]
  · intro zero
    by_contra significand
    exact absurd zero (Nat.ne_of_gt (Magnitude.units_pos significand))

/-- The zeros are the values without a fraction and without a whole part. -/
theorem isZero_iff_whole? (x : Binary64) : x.isZero = true ↔ x.whole? = some 0 := by
  cases x with
  | nan => simp [isZero, whole?]
  | infinite negative => simp [isZero, whole?]
  | finite negative m =>
    have exact : m.isWhole = true ↔ m.units % Magnitude.one = 0 := beq_iff_eq
    rw [isZero_iff_units, whole?]
    constructor
    · intro zero
      rw [if_pos (exact.mpr (by rw [zero, Nat.zero_mod])), Magnitude.floor, zero, Nat.zero_div]
      cases negative <;> rfl
    · intro whole
      split at whole
      next divides =>
        have floor : m.units / Magnitude.one = 0 := by
          have whole := Option.some.inj whole
          change m.floor = 0
          cases negative
          · exact Int.natCast_eq_zero.mp whole
          · exact Int.natCast_eq_zero.mp (Int.neg_eq_zero.mp whole)
        rw [← Nat.div_add_mod m.units Magnitude.one, exact.mp divides, floor, Nat.mul_zero]
      · cases whole

theorem space_not_mem_label (x : Binary64) : ' ' ∉ x.label.toList := by
  have none : ¬ (Numeral.isDigit ' ' = true ∨ ' ' ∈ marks) := by decide
  intro space
  rw [label] at space
  split at space
  · rcases sign_or_digit space with sign | digit
    · exact absurd sign (by decide)
    · exact none (.inl digit)
  · rw [String.toList_ofList] at space
    exact none (plainLayout.mem_text space)

/-- Only the zeros show as zero. -/
theorem label_eq_zero_iff (x : Binary64) : x.label = "0" ↔ x.isZero = true := by
  have zero : integerText 0 = "0" := by decide +kernel
  rw [isZero_iff_whole?, label]
  cases whole : x.whole? with
  | some n => rw [← zero, integerText_inj, Option.some_inj]
  | none =>
    refine iff_of_false (fun same => ?_) (by simp)
    obtain ⟨c, hc, mark⟩ := plainLayout.exists_mark x
    have same : plainLayout.text x = ['0'] := by
      have chars := congrArg String.toList same
      rwa [String.toList_ofList] at chars
    rw [same, List.mem_singleton] at hc
    subst hc
    exact absurd mark (by decide)

end Binary64
end Topograph.Number
