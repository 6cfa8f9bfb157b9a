import Topograph.Number.Numeral

/-!
# Binary floating point of 64 bits

A finite value is a significand below `2 ^ 53` times a power of two, measured in units of
`2 ^ -1074`, the least positive value. The significand is full unless the unit is the smallest, so
equal values other than the two zeros are equal as data. An exact ratio or decimal becomes the
nearest value, a tie going to the even significand; what rounds past the largest finite value has
no finite magnitude.
-/
namespace Topograph.Number

/-- The quotient rounded to the nearest natural number; a tie goes to the even one. -/
def roundQuotient (num den : Nat) : Nat :=
  let quotient := num / den
  let twice := 2 * (num % den)
  if twice < den then quotient
  else if den < twice then quotient + 1
  else quotient + quotient % 2

/-- The absolute value of a finite number, `significand * 2 ^ shift` units of `2 ^ -1074`. -/
structure Magnitude where
  significand : Nat
  shift : Nat
  canonical : significand < Nat.pow 2 53 ∧ (shift = 0 ∨ Nat.pow 2 52 ≤ significand) ∧ shift ≤ 2045
  deriving DecidableEq, Repr

namespace Magnitude

/-- The number of units of `2 ^ -1074`. -/
def units (m : Magnitude) : Nat := m.significand * Nat.pow 2 m.shift

/-- Units of `2 ^ -1074` in the number one. -/
def one : Nat := Nat.pow 2 1074

def zero : Magnitude := ⟨0, 0, by decide⟩

instance : Inhabited Magnitude := ⟨zero⟩

/-- The magnitude with this significand and shift, if they are in canonical form. -/
def ofParts? (significand shift : Nat) : Option Magnitude :=
  if h : significand < Nat.pow 2 53 ∧ (shift = 0 ∨ Nat.pow 2 52 ≤ significand) ∧ shift ≤ 2045 then
    some ⟨significand, shift, h⟩
  else none

/-- The magnitude nearest to `num / den`, for a positive `den`; none past the largest one. The
significand that rounds up to `2 ^ 53` is halved into the next unit. -/
def ofRatio? (num den : Nat) : Option Magnitude :=
  let shift := (num * one / den).log2 - 52
  let significand := roundQuotient (num * one) (den * Nat.pow 2 shift)
  if significand < Nat.pow 2 53 then ofParts? significand shift
  else ofParts? (significand / 2) (shift + 1)

/-- The whole part. -/
def floor (m : Magnitude) : Nat := m.units / one

/-- No fraction is left after the whole part. -/
def isWhole (m : Magnitude) : Bool := m.units % one == 0

end Magnitude

/-- The decimal `digits * 10 ^ exponent`. -/
structure Decimal where
  digits : Nat
  exponent : Int
  deriving DecidableEq, Repr

/-- The magnitude nearest to a decimal. The place of its leading digit alone tells the decimals
above every magnitude and those that round to zero, so the power of ten stays small. -/
def Magnitude.ofDecimal? (d : Decimal) : Option Magnitude :=
  let place := d.exponent + (Numeral.digits d.digits).length
  if d.digits = 0 then some zero
  else if 310 < place then none
  else if place < -330 then some zero
  else ofRatio? (d.digits * Nat.pow 10 d.exponent.toNat) (Nat.pow 10 (-d.exponent).toNat)

/-- A binary number of 64 bits, with one NaN. -/
inductive Binary64 where
  | nan
  | infinite (negative : Bool)
  | finite (negative : Bool) (magnitude : Magnitude)
  deriving DecidableEq, Repr

namespace Binary64

def zero : Binary64 := .finite false .zero

instance : Inhabited Binary64 := ⟨zero⟩

/-- The value nearest to a signed decimal; past the largest finite value it is infinite. -/
def ofDecimal (negative : Bool) (d : Decimal) : Binary64 :=
  match Magnitude.ofDecimal? d with
  | some m => .finite negative m
  | none => .infinite negative

/-- The value nearest to an integer, if that is finite. -/
def ofInt? (n : Int) : Option Binary64 :=
  (Magnitude.ofRatio? n.natAbs 1).map (.finite (n < 0))

def isFinite : Binary64 → Bool
  | .finite _ _ => true
  | _ => false

/-- One of the two zeros. -/
def isZero : Binary64 → Bool
  | .finite _ m => m.significand == 0
  | _ => false

/-- A finite value without a fraction, as an integer. -/
def whole? : Binary64 → Option Int
  | .finite negative m =>
    if m.isWhole then some (if negative then -(m.floor : Int) else m.floor) else none
  | _ => none

/-- A finite value with its fraction dropped. -/
def truncate? : Binary64 → Option Int
  | .finite negative m => some (if negative then -(m.floor : Int) else m.floor)
  | _ => none

end Binary64
end Topograph.Number
