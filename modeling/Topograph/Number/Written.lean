import Topograph.Number.Binary64

/-!
# Written numbers

The grammar of a decimal as people write it: a sign, digits with a point among or next to them, and
an exponent. NaN and infinity have words. The whole of the characters has to be used up.
-/
namespace Topograph.Number.Written

/-- The letter in lower case, within the ASCII range. -/
def lower (c : Char) : Char := if 65 ≤ c.toNat ∧ c.toNat ≤ 90 then Char.ofNat (c.toNat + 32) else c

/-- An exponent that the text ends with. -/
def exponent? : List Char → Option Int
  | [] => some 0
  | e :: cs =>
    let (negative, ds) := Numeral.splitSign cs
    if lower e = 'e' ∧ !ds.isEmpty ∧ ds.all Numeral.isDigit then
      some (if negative then -(Numeral.value ds : Int) else Numeral.value ds)
    else none

/-- An unsigned decimal: digits, a point, digits and an exponent, with a digit next to the point. -/
def decimal? (cs : List Char) : Option Decimal := do
  let whole := cs.takeWhile Numeral.isDigit
  let (decimals, rest) := match cs.dropWhile Numeral.isDigit with
    | '.' :: more => (more.takeWhile Numeral.isDigit, more.dropWhile Numeral.isDigit)
    | more => ([], more)
  if whole.isEmpty && decimals.isEmpty then none
  else do
    let e ← exponent? rest
    return ⟨Numeral.value (whole ++ decimals), e - decimals.length⟩

/-- A signed decimal, or one of the words for NaN and infinity in any case. -/
def binary? (cs : List Char) : Option Binary64 :=
  let (negative, rest) := Numeral.splitSign cs
  let word := String.ofList (rest.map lower)
  if word = "nan" then some .nan
  else if word = "inf" ∨ word = "infinity" then some (.infinite negative)
  else (decimal? rest).map (Binary64.ofDecimal negative)

end Topograph.Number.Written
