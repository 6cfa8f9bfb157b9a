/-!
# Hexadecimal digits

Digits of either case are read; escapes are written in lower or in upper case.
-/
namespace Topograph.Text.Hexadecimal

/-- The value of a digit of either case. -/
def value? (c : Char) : Option Nat :=
  let n := c.toNat
  if 48 ≤ n ∧ n ≤ 57 then some (n - 48)
  else if 65 ≤ n ∧ n ≤ 70 then some (n - 55)
  else if 97 ≤ n ∧ n ≤ 102 then some (n - 87)
  else none

/-- The digit of a value below sixteen, in lower case. -/
def small (d : Nat) : Char := if d < 10 then Char.ofNat (48 + d) else Char.ofNat (87 + d)

/-- The digit of a value below sixteen, in upper case. -/
def capital (d : Nat) : Char := if d < 10 then Char.ofNat (48 + d) else Char.ofNat (55 + d)

theorem value?_small : ∀ d : Fin 16, value? (small d) = some d.val := by decide

theorem value?_capital : ∀ d : Fin 16, value? (capital d) = some d.val := by decide

end Topograph.Text.Hexadecimal
