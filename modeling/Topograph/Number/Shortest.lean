import Topograph.Number.Binary64

/-!
# The fewest digits that read back

Of the decimals that read back as a given value, the shortest is written, and of two equally
short ones the nearer. The search goes from one digit to seventeen; on each decimal grid it tries
the two neighbours of the value by reading them, so what it returns reads back. A layout record
then decides where positional writing ends and how an exponent looks.
-/
namespace Topograph.Number

namespace Decimal

/-- The same decimal with trailing zeros moved into the exponent. -/
def strip (d : Decimal) : Decimal :=
  if d.digits ≠ 0 ∧ d.digits % 10 = 0 then strip ⟨d.digits / 10, d.exponent + 1⟩ else d
termination_by d.digits
decreasing_by omega

/-- The exponent of the leading digit. -/
def leading (d : Decimal) : Int := d.exponent + (Numeral.digits d.digits).length - 1

end Decimal

namespace Magnitude

/-- The neighbour of the value on the grid of `10 ^ exponent` that reads back: the nearer one if
it does, else the other one. -/
def onGrid? (m : Magnitude) (exponent : Int) : Option Decimal :=
  let num := m.units * Nat.pow 10 (-exponent).toNat
  let den := one * Nat.pow 10 exponent.toNat
  let low := num / den
  let near := roundQuotient num den
  let far := if near = low then low + 1 else low
  [near, far].findSome? fun n =>
    if ofDecimal? ⟨n, exponent⟩ = some m then some ⟨n, exponent⟩ else none

/-- The number of decimal places in front of the point; negative for a value below a tenth. -/
def place (m : Magnitude) : Int :=
  ((Numeral.digits (m.units * Nat.pow 10 400 / one)).length : Int) - 400

/-- The value with all its decimals. -/
def exact (m : Magnitude) : Decimal := ⟨m.units * Nat.pow 5 1074, -1074⟩

/-- The fewest digits that read back, without trailing zeros. -/
def shortest (m : Magnitude) : Decimal :=
  if m.significand = 0 then ⟨0, 0⟩
  else
    let found := (List.range 17).findSome? fun n => m.onGrid? (m.place - (n + 1 : Nat))
    (found.getD m.exact).strip

end Magnitude

/-- How a number is laid out: exponents of the leading digit from `positionalFrom` up to, not
including, `positionalBelow` are written positionally with at least one decimal; any other with a
sign and at least `exponentWidth` digits of exponent. -/
structure Layout where
  positionalFrom : Int
  positionalBelow : Int
  exponentWidth : Nat
  deriving DecidableEq, Repr

namespace Layout

/-- The digits of `d` with the point where it belongs. -/
def positional (d : Decimal) : List Char :=
  let ds := Numeral.digits d.digits
  let point := d.leading + 1
  if point ≤ 0 then '0' :: '.' :: (List.replicate (-point).toNat '0' ++ ds)
  else if ds.length ≤ point.toNat then
    ds ++ List.replicate (point.toNat - ds.length) '0' ++ ['.', '0']
  else ds.take point.toNat ++ '.' :: ds.drop point.toNat

/-- One digit, the point and the rest if there is one, and the exponent. -/
def scientific (width : Nat) (d : Decimal) : List Char :=
  let ds := Numeral.digits d.digits
  let exponent := Numeral.digits d.leading.natAbs
  ds.take 1 ++ (if 1 < ds.length then '.' :: ds.drop 1 else [])
    ++ 'e' :: (if d.leading < 0 then '-' else '+')
    :: (List.replicate (width - exponent.length) '0' ++ exponent)

/-- The text of a decimal in this layout. -/
def decimal (layout : Layout) (d : Decimal) : List Char :=
  if layout.positionalFrom ≤ d.leading ∧ d.leading < layout.positionalBelow then positional d
  else scientific layout.exponentWidth d

/-- The text of a finite value: a minus sign if it has one, and its shortest decimal. -/
def finite (layout : Layout) (negative : Bool) (m : Magnitude) : List Char :=
  (if negative then ['-'] else []) ++ layout.decimal m.shortest

/-- The text of any value, with the words `inf` and `nan`. -/
def text (layout : Layout) : Binary64 → List Char
  | .nan => "nan".toList
  | .infinite negative => (if negative then "-inf" else "inf").toList
  | .finite negative m => layout.finite negative m

end Layout

end Topograph.Number
