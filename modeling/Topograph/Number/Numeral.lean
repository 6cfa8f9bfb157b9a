/-!
# Decimal numerals

A natural number as its decimal digits, most significant first and without a leading zero, and
the value of a run of digits. Reading what was written gives the number back, and a written
numeral has as many digits as the least power of ten above it has zeros.
-/
namespace Topograph.Number.Numeral

/-- The character of a digit below ten. -/
def digitChar (d : Nat) : Char := Char.ofNat (48 + d)

/-- A decimal digit of the ASCII range; no other script's digits count. -/
def isDigit (c : Char) : Bool := 48 ≤ c.toNat && c.toNat ≤ 57

/-- The value of a digit character. -/
def digitValue (c : Char) : Nat := c.toNat - 48

/-- The digits of `n` in front of `tail`. -/
def digitsOnto (n : Nat) (tail : List Char) : List Char :=
  if n < 10 then digitChar n :: tail else digitsOnto (n / 10) (digitChar (n % 10) :: tail)
termination_by n
decreasing_by omega

/-- The digits of a natural number, most significant first. -/
def digits (n : Nat) : List Char := digitsOnto n []

/-- The value of a run of digits read on from `acc`. -/
def valueFrom (acc : Nat) (ds : List Char) : Nat :=
  ds.foldl (fun a c => 10 * a + digitValue c) acc

/-- The value of a run of digits; leading zeros add nothing. -/
def value (ds : List Char) : Nat := valueFrom 0 ds

/-- Whether a minus sign stands in front, and what follows the sign; a plus sign may stand there
too. -/
def splitSign : List Char → Bool × List Char
  | '-' :: cs => (true, cs)
  | '+' :: cs => (false, cs)
  | cs => (false, cs)

theorem digitValue_digitChar_all : ∀ d, d < 10 → digitValue (digitChar d) = d := by decide

theorem digitValue_digitChar {d : Nat} (h : d < 10) : digitValue (digitChar d) = d :=
  digitValue_digitChar_all d h

theorem isDigit_digitChar_all : ∀ d, d < 10 → isDigit (digitChar d) = true := by decide

theorem isDigit_digitChar {d : Nat} (h : d < 10) : isDigit (digitChar d) = true :=
  isDigit_digitChar_all d h

theorem digitsOnto_eq (n : Nat) (tail : List Char) : digitsOnto n tail = digits n ++ tail := by
  induction n using Nat.strongRecOn generalizing tail with
  | _ n ih =>
    by_cases h : n < 10
    · rw [digits, digitsOnto, if_pos h, digitsOnto, if_pos h, List.singleton_append]
    · rw [digits, digitsOnto, if_neg h, digitsOnto.eq_def n [], if_neg h,
        ih (n / 10) (by omega), ih (n / 10) (by omega) [digitChar (n % 10)],
        List.append_assoc, List.singleton_append]

theorem digits_of_lt {n : Nat} (h : n < 10) : digits n = [digitChar n] := by
  rw [digits, digitsOnto, if_pos h]

theorem digits_of_le {n : Nat} (h : 10 ≤ n) :
    digits n = digits (n / 10) ++ [digitChar (n % 10)] := by
  rw [digits, digitsOnto, if_neg (by omega), digitsOnto_eq]

theorem value_append (ds : List Char) (c : Char) :
    value (ds ++ [c]) = 10 * value ds + digitValue c := by
  simp [value, valueFrom]

/-- Reading a written numeral gives the number. -/
theorem value_digits (n : Nat) : value (digits n) = n := by
  induction n using Nat.strongRecOn with
  | _ n ih =>
    by_cases h : n < 10
    · rw [digits_of_lt h]
      simp [value, valueFrom, digitValue_digitChar h]
    · rw [digits_of_le (by omega), value_append, ih (n / 10) (by omega),
        digitValue_digitChar (by omega)]
      omega

theorem isDigit_of_mem_digits {n : Nat} {c : Char} (h : c ∈ digits n) : isDigit c = true := by
  induction n using Nat.strongRecOn with
  | _ n ih =>
    by_cases hn : n < 10
    · rw [digits_of_lt hn, List.mem_singleton] at h
      exact h ▸ isDigit_digitChar hn
    · rw [digits_of_le (by omega), List.mem_append, List.mem_singleton] at h
      rcases h with h | h
      · exact ih (n / 10) (by omega) h
      · exact h ▸ isDigit_digitChar (by omega)

theorem digits_ne_nil (n : Nat) : digits n ≠ [] := by
  by_cases h : n < 10
  · simp [digits_of_lt h]
  · simp [digits_of_le (Nat.le_of_not_lt h)]

theorem digits_injective {m n : Nat} (h : digits m = digits n) : m = n := by
  rw [← value_digits m, ← value_digits n, h]

/-- A numeral has at most `k + 1` digits exactly when its number is below `10 ^ (k + 1)`. -/
theorem length_digits_le_iff (n k : Nat) :
    (digits n).length ≤ k + 1 ↔ n < Nat.pow 10 (k + 1) := by
  induction k generalizing n with
  | zero =>
    have ten : Nat.pow 10 (0 + 1) = 10 := rfl
    by_cases h : n < 10
    · simp [digits_of_lt h, h]
    · have := List.length_pos_iff.mpr (digits_ne_nil (n / 10))
      rw [digits_of_le (Nat.le_of_not_lt h), List.length_append, List.length_singleton, ten]
      omega
  | succ k ih =>
    have power : Nat.pow 10 (k + 1 + 1) = Nat.pow 10 (k + 1) * 10 := rfl
    have positive : 0 < Nat.pow 10 (k + 1) := Nat.pow_pos (Nat.succ_pos 9)
    by_cases h : n < 10
    · have below : n < Nat.pow 10 (k + 1 + 1) := by omega
      rw [digits_of_lt h, List.length_singleton]
      exact iff_of_true (Nat.le_add_left 1 _) below
    · rw [digits_of_le (Nat.le_of_not_lt h), List.length_append, List.length_singleton,
        Nat.add_le_add_iff_right, ih, power]
      omega

end Topograph.Number.Numeral
