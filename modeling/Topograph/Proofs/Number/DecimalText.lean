import Topograph.Proofs.Number.Rounding

/-!
# The parts of a written decimal

A decimal in any layout is a whole part, perhaps decimals after a point, and perhaps a signed
power of ten. The parts are digits, the whole part has no leading zero, and one of the other two
is there, so the text is not taken for an integer. The parts have the magnitude of the decimal.
-/
namespace Topograph.Number

namespace Numeral

theorem valueFrom_eq (acc : Nat) (ds : List Char) :
    valueFrom acc ds = acc * 10 ^ ds.length + value ds := by
  induction ds generalizing acc with
  | nil => simp [valueFrom, value]
  | cons c ds ih =>
    have first : valueFrom acc (c :: ds) = valueFrom (10 * acc + digitValue c) ds := rfl
    have zero : value (c :: ds) = valueFrom (10 * 0 + digitValue c) ds := rfl
    rw [first, zero, ih, ih (10 * 0 + digitValue c), List.length_cons]
    ring

theorem value_append_digits (ds es : List Char) :
    value (ds ++ es) = value ds * 10 ^ es.length + value es := by
  rw [← valueFrom_eq]
  exact List.foldl_append

theorem value_replicate_zero (k : Nat) : value (List.replicate k '0') = 0 := by
  induction k with
  | zero => rfl
  | succ k ih => rw [List.replicate_succ', value_append, ih]; rfl

theorem isDigit_of_mem_replicate_zero {k : Nat} {c : Char} (h : c ∈ List.replicate k '0') :
    isDigit c = true := by
  rw [List.eq_of_mem_replicate h]
  decide

/-- Only zero begins with the digit zero. -/
theorem head_digits_ne_zero {n : Nat} (h : n ≠ 0) (tail : List Char) :
    digits n ≠ '0' :: tail := by
  induction n using Nat.strongRecOn generalizing tail with
  | _ n ih =>
    intro begins
    by_cases small : n < 10
    · rw [digits_of_lt small, List.cons.injEq] at begins
      have value := digitValue_digitChar small
      rw [begins.1] at value
      exact h value.symm
    · rw [digits_of_le (by omega)] at begins
      cases rest : digits (n / 10) with
      | nil => exact digits_ne_nil _ rest
      | cons c cs =>
        rw [rest, List.cons_append, List.cons.injEq] at begins
        rw [begins.1] at rest
        exact ih (n / 10) (by omega) (by omega) cs rest

theorem length_digits_pos (n : Nat) : 0 < (digits n).length :=
  List.length_pos_iff.mpr (digits_ne_nil n)

end Numeral

/-- The parts of a written decimal: a power is a mark for a minus sign and its digits. -/
structure DecimalText where
  whole : List Char
  decimals : List Char
  power : Option (Bool × List Char)

namespace DecimalText

/-- The point and the decimals, if there are any. -/
def fractionChars (t : DecimalText) : List Char :=
  if t.decimals = [] then [] else '.' :: t.decimals

def powerChars (t : DecimalText) : List Char :=
  match t.power with
  | none => []
  | some (negative, ds) => 'e' :: (if negative then '-' else '+') :: ds

def chars (t : DecimalText) : List Char := t.whole ++ t.fractionChars ++ t.powerChars

def exponent (t : DecimalText) : Int :=
  match t.power with
  | none => 0
  | some (negative, ds) => if negative then -(Numeral.value ds : Int) else Numeral.value ds

def decimal (t : DecimalText) : Decimal :=
  ⟨Numeral.value (t.whole ++ t.decimals), t.exponent - t.decimals.length⟩

/-- What a reader needs to find the parts again. -/
structure WellFormed (t : DecimalText) : Prop where
  whole_digits : ∀ c ∈ t.whole, Numeral.isDigit c = true
  whole_ne_nil : t.whole ≠ []
  no_leading_zero : ∀ tail, t.whole = '0' :: tail → tail = []
  decimals_digits : ∀ c ∈ t.decimals, Numeral.isDigit c = true
  power_digits : ∀ negative ds, t.power = some (negative, ds) →
    ds ≠ [] ∧ ∀ c ∈ ds, Numeral.isDigit c = true
  not_integer : t.decimals ≠ [] ∨ t.power ≠ none

end DecimalText

namespace Layout

/-- The parts of a decimal below one. -/
def belowOne (d : Decimal) : DecimalText where
  whole := ['0']
  decimals := List.replicate (-(d.leading + 1)).toNat '0' ++ Numeral.digits d.digits
  power := none

/-- The parts of a decimal without a fraction. -/
def wholeParts (d : Decimal) : DecimalText where
  whole := Numeral.digits d.digits ++
    List.replicate ((d.leading + 1).toNat - (Numeral.digits d.digits).length) '0'
  decimals := ['0']
  power := none

/-- The parts of a decimal with the point among its digits. -/
def mixedParts (d : Decimal) : DecimalText where
  whole := (Numeral.digits d.digits).take (d.leading + 1).toNat
  decimals := (Numeral.digits d.digits).drop (d.leading + 1).toNat
  power := none

def positionalParts (d : Decimal) : DecimalText :=
  if d.leading + 1 ≤ 0 then belowOne d
  else if (Numeral.digits d.digits).length ≤ (d.leading + 1).toNat then wholeParts d
  else mixedParts d

def scientificParts (width : Nat) (d : Decimal) : DecimalText where
  whole := (Numeral.digits d.digits).take 1
  decimals := (Numeral.digits d.digits).drop 1
  power := some (d.leading < 0,
    List.replicate (width - (Numeral.digits d.leading.natAbs).length) '0' ++
      Numeral.digits d.leading.natAbs)

def parts (layout : Layout) (d : Decimal) : DecimalText :=
  if layout.positionalFrom ≤ d.leading ∧ d.leading < layout.positionalBelow then positionalParts d
  else scientificParts layout.exponentWidth d

theorem chars_belowOne (d : Decimal) :
    (belowOne d).chars = '0' :: '.' ::
      (List.replicate (-(d.leading + 1)).toNat '0' ++ Numeral.digits d.digits) := by
  simp [belowOne, DecimalText.chars, DecimalText.fractionChars, DecimalText.powerChars,
    Numeral.digits_ne_nil]

theorem chars_wholeParts (d : Decimal) :
    (wholeParts d).chars = Numeral.digits d.digits ++
      List.replicate ((d.leading + 1).toNat - (Numeral.digits d.digits).length) '0' ++
        ['.', '0'] := by
  simp [wholeParts, DecimalText.chars, DecimalText.fractionChars, DecimalText.powerChars]

theorem chars_mixedParts {d : Decimal}
    (h : (d.leading + 1).toNat < (Numeral.digits d.digits).length) :
    (mixedParts d).chars = (Numeral.digits d.digits).take (d.leading + 1).toNat ++
      '.' :: (Numeral.digits d.digits).drop (d.leading + 1).toNat := by
  have decimals : (Numeral.digits d.digits).drop (d.leading + 1).toNat ≠ [] := by
    rw [ne_eq, List.drop_eq_nil_iff]
    omega
  simp [mixedParts, DecimalText.chars, DecimalText.fractionChars, DecimalText.powerChars, decimals]

theorem chars_positionalParts (d : Decimal) : (positionalParts d).chars = positional d := by
  unfold positionalParts positional
  by_cases below : d.leading + 1 ≤ 0
  · simp only [if_pos below, chars_belowOne]
  · by_cases short : (Numeral.digits d.digits).length ≤ (d.leading + 1).toNat
    · simp only [if_neg below, if_pos short, chars_wholeParts]
    · simp only [if_neg below, if_neg short, chars_mixedParts (Nat.lt_of_not_le short)]

theorem chars_scientificParts (width : Nat) (d : Decimal) :
    (scientificParts width d).chars = scientific width d := by
  have decimals : (Numeral.digits d.digits).drop 1 = [] ↔
      ¬ 1 < (Numeral.digits d.digits).length := by
    rw [List.drop_eq_nil_iff, Nat.not_lt]
  unfold scientificParts scientific DecimalText.chars DecimalText.fractionChars
    DecimalText.powerChars
  by_cases long : 1 < (Numeral.digits d.digits).length
  · simp only [if_pos long, if_neg (fun nil => decimals.mp nil long), decide_eq_true_eq]
  · simp only [if_neg long, if_pos (decimals.mpr long), decide_eq_true_eq]

theorem chars_parts (layout : Layout) (d : Decimal) :
    (layout.parts d).chars = layout.decimal d := by
  unfold parts decimal
  split
  · exact chars_positionalParts d
  · exact chars_scientificParts _ d

/-! ## Well-formed parts -/

section
variable {d : Decimal}

theorem take_digits_no_leading_zero (h : d.digits ≠ 0) {k : Nat} (tail : List Char)
    (begins : (Numeral.digits d.digits).take k = '0' :: tail) : tail = [] := by
  cases rest : Numeral.digits d.digits with
  | nil => exact absurd rest (Numeral.digits_ne_nil _)
  | cons c cs =>
    cases k with
    | zero => simp at begins
    | succ k =>
      rw [rest, List.take_succ_cons, List.cons.injEq] at begins
      rw [begins.1] at rest
      exact absurd rest (Numeral.head_digits_ne_zero h cs)

theorem wellFormed_belowOne (d : Decimal) : (belowOne d).WellFormed where
  whole_digits := by simp [belowOne, Numeral.isDigit]
  whole_ne_nil := by simp [belowOne]
  no_leading_zero := by simp [belowOne]
  decimals_digits := by
    intro c hc
    rcases List.mem_append.mp hc with hc | hc
    · exact Numeral.isDigit_of_mem_replicate_zero hc
    · exact Numeral.isDigit_of_mem_digits hc
  power_digits := by simp [belowOne]
  not_integer := by simp [belowOne, Numeral.digits_ne_nil]

theorem wellFormed_wholeParts (h : d.digits = 0 → d.exponent = 0) : (wholeParts d).WellFormed where
  whole_digits := by
    intro c hc
    rcases List.mem_append.mp hc with hc | hc
    · exact Numeral.isDigit_of_mem_digits hc
    · exact Numeral.isDigit_of_mem_replicate_zero hc
  whole_ne_nil := by simp [wholeParts, Numeral.digits_ne_nil]
  no_leading_zero := by
    intro tail begins
    by_cases zero : d.digits = 0
    · have one : d.leading + 1 = 1 := by
        rw [Decimal.leading, zero, h zero, Numeral.digits_of_lt (by decide)]
        rfl
      have whole : (wholeParts d).whole = ['0'] := by
        rw [wholeParts, one, zero, Numeral.digits_of_lt (by decide)]
        rfl
      rw [whole] at begins
      exact (List.cons.inj begins).2.symm
    · cases rest : Numeral.digits d.digits with
      | nil => exact absurd rest (Numeral.digits_ne_nil _)
      | cons c cs =>
        simp only [wholeParts, rest, List.cons_append, List.cons.injEq] at begins
        rw [begins.1] at rest
        exact absurd rest (Numeral.head_digits_ne_zero zero cs)
  decimals_digits := by simp [wholeParts, Numeral.isDigit]
  power_digits := by simp [wholeParts]
  not_integer := by simp [wholeParts]

theorem wellFormed_mixedParts (hzero : d.digits = 0 → d.exponent = 0) (hlow : 0 < d.leading + 1)
    (hhigh : (d.leading + 1).toNat < (Numeral.digits d.digits).length) :
    (mixedParts d).WellFormed where
  whole_digits := fun c hc => Numeral.isDigit_of_mem_digits (List.mem_of_mem_take hc)
  whole_ne_nil := by
    simp only [mixedParts, ne_eq, List.take_eq_nil_iff, Numeral.digits_ne_nil, or_false]
    omega
  no_leading_zero := by
    have nonzero : d.digits ≠ 0 := by
      intro zero
      rw [Decimal.leading, hzero zero, zero, Numeral.digits_of_lt (by decide)] at hhigh
      exact absurd hhigh (by simp)
    exact take_digits_no_leading_zero nonzero
  decimals_digits := fun c hc => Numeral.isDigit_of_mem_digits (List.mem_of_mem_drop hc)
  power_digits := by simp [mixedParts]
  not_integer := by
    left
    rw [mixedParts, ne_eq, List.drop_eq_nil_iff]
    omega

theorem wellFormed_scientificParts (width : Nat) (d : Decimal) :
    (scientificParts width d).WellFormed where
  whole_digits := fun c hc => Numeral.isDigit_of_mem_digits (List.mem_of_mem_take hc)
  whole_ne_nil := by simp [scientificParts, Numeral.digits_ne_nil]
  no_leading_zero := by
    intro tail begins
    have one : ((scientificParts width d).whole).length ≤ 1 := List.length_take_le _ _
    rw [begins, List.length_cons] at one
    exact List.eq_nil_of_length_eq_zero (by omega)
  decimals_digits := fun c hc => Numeral.isDigit_of_mem_digits (List.mem_of_mem_drop hc)
  power_digits := by
    intro negative ds hpower
    obtain ⟨-, rfl⟩ := Prod.mk.inj (Option.some.inj hpower)
    refine ⟨by simp [Numeral.digits_ne_nil], ?_⟩
    intro c hc
    rcases List.mem_append.mp hc with hc | hc
    · exact Numeral.isDigit_of_mem_replicate_zero hc
    · exact Numeral.isDigit_of_mem_digits hc
  not_integer := by simp [scientificParts]

theorem wellFormed_parts (layout : Layout) (h : d.digits = 0 → d.exponent = 0) :
    (layout.parts d).WellFormed := by
  unfold parts
  split
  · unfold positionalParts
    split
    · exact wellFormed_belowOne d
    · split
      · exact wellFormed_wholeParts h
      · exact wellFormed_mixedParts h (by omega) (by omega)
  · exact wellFormed_scientificParts _ d

end

/-! ## The magnitude of the parts -/

theorem leading_eq (d : Decimal) :
    d.leading + 1 = d.exponent + ((Numeral.digits d.digits).length : Int) := by
  rw [Decimal.leading]
  omega

theorem decimal_belowOne {d : Decimal} (h : d.leading + 1 ≤ 0) : (belowOne d).decimal = d := by
  have value : Numeral.value ((belowOne d).whole ++ (belowOne d).decimals) = d.digits := by
    have zeros : (belowOne d).whole ++ (belowOne d).decimals =
        List.replicate ((-(d.leading + 1)).toNat + 1) '0' ++ Numeral.digits d.digits := by
      rw [belowOne, List.replicate_succ]
      rfl
    rw [zeros, Numeral.value_append_digits, Numeral.value_replicate_zero, Numeral.value_digits]
    omega
  have length : (belowOne d).decimals.length =
      (-(d.leading + 1)).toNat + (Numeral.digits d.digits).length := by
    rw [belowOne, List.length_append, List.length_replicate]
  have exponent : (belowOne d).exponent = 0 := rfl
  have leading := leading_eq d
  rw [DecimalText.decimal, value, length, exponent]
  congr 1
  omega

theorem ofDecimal?_wholeParts {d : Decimal}
    (h : (Numeral.digits d.digits).length ≤ (d.leading + 1).toNat) :
    Magnitude.ofDecimal? (wholeParts d).decimal = Magnitude.ofDecimal? d := by
  have leading := leading_eq d
  have pos := Numeral.length_digits_pos d.digits
  obtain ⟨k, hk⟩ : ∃ k : Nat, d.exponent = k := ⟨d.exponent.toNat, by omega⟩
  have zeros : (d.leading + 1).toNat - (Numeral.digits d.digits).length = k := by omega
  have value : Numeral.value ((wholeParts d).whole ++ (wholeParts d).decimals) =
      d.digits * 10 ^ (k + 1) := by
    have text : (wholeParts d).whole ++ (wholeParts d).decimals =
        Numeral.digits d.digits ++ List.replicate (k + 1) '0' := by
      rw [wholeParts, zeros, List.replicate_succ', List.append_assoc]
    rw [text, Numeral.value_append_digits, Numeral.value_digits, Numeral.value_replicate_zero,
      List.length_replicate, Nat.add_zero]
  have exponent : (wholeParts d).exponent - ((wholeParts d).decimals.length : Int) = -1 := rfl
  rw [DecimalText.decimal, value, exponent, Magnitude.ofDecimal?_mul_pow]
  congr 1
  have shifted : (-1 : Int) + ((k + 1 : Nat) : Int) = d.exponent := by omega
  rw [shifted]

theorem decimal_mixedParts {d : Decimal} (hlow : 0 < d.leading + 1)
    (hhigh : (d.leading + 1).toNat < (Numeral.digits d.digits).length) :
    (mixedParts d).decimal = d := by
  have leading := leading_eq d
  have exponent : (mixedParts d).exponent = 0 := rfl
  rw [DecimalText.decimal, exponent]
  simp only [mixedParts, List.take_append_drop, Numeral.value_digits, List.length_drop]
  congr 1
  omega

theorem exponent_scientificParts (width : Nat) (d : Decimal) :
    (scientificParts width d).exponent = d.leading := by
  simp only [scientificParts, DecimalText.exponent, Numeral.value_append_digits,
    Numeral.value_replicate_zero, Numeral.value_digits, Nat.zero_mul, Nat.zero_add,
    decide_eq_true_eq]
  split <;> omega

theorem decimal_scientificParts (width : Nat) (d : Decimal) :
    (scientificParts width d).decimal = d := by
  have leading := leading_eq d
  have pos := Numeral.length_digits_pos d.digits
  rw [DecimalText.decimal, exponent_scientificParts]
  simp only [scientificParts, List.take_append_drop, Numeral.value_digits, List.length_drop]
  congr 1
  omega

/-- The parts of a decimal in any layout have its magnitude. -/
theorem ofDecimal?_parts (layout : Layout) (d : Decimal) :
    Magnitude.ofDecimal? (layout.parts d).decimal = Magnitude.ofDecimal? d := by
  unfold parts
  split
  · unfold positionalParts
    split
    · rename_i below
      rw [decimal_belowOne below]
    · split
      · rename_i short
        exact ofDecimal?_wholeParts short
      · rw [decimal_mixedParts (by omega) (by omega)]
  · rw [decimal_scientificParts]

/-- The whole part is not longer than the layout allows. -/
theorem length_whole_parts (layout : Layout) (d : Decimal) :
    (layout.parts d).whole.length ≤ max 1 layout.positionalBelow.toNat := by
  have pos := Numeral.length_digits_pos d.digits
  unfold parts
  split
  · unfold positionalParts
    split
    · exact Nat.le_max_left _ _
    · split
      · simp only [wholeParts, List.length_append, List.length_replicate]
        omega
      · simp only [mixedParts, List.length_take]
        omega
  · simp only [scientificParts, List.length_take]
    omega

end Layout
end Topograph.Number
