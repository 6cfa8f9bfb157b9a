import Topograph.Json.Basic

/-!
# Coordinates and bandwidths

A quantity is left at its declared default, the integer zero, or it is a binary value that was
given. The default and both zeros measure the same, and a NaN measures the same as itself.
-/
namespace Topograph

inductive Quantity where
  | unset
  | given (x : Number.Binary64)
  deriving DecidableEq, Repr, Inhabited

namespace Quantity

/-- The quantity as a number of a document. -/
def number : Quantity → Number
  | .unset => .int 0
  | .given x => .float x

/-- The text on a label. -/
def label : Quantity → String
  | .unset => "0"
  | .given x => x.label

/-- The text on a label, where an integer past the digit limit has none. -/
def label? : Quantity → Option String
  | .unset => Number.integerText? 0
  | .given x => match x.whole? with
    | some n => Number.integerText? n
    | none => some (String.ofList (Number.plainLayout.text x))

/-- One representative of all quantities that measure the same: a zero that was given becomes the
default. -/
def reduce : Quantity → Quantity
  | .unset => .unset
  | .given x => if x.isZero then .unset else .given x

/-- Neither NaN nor infinite. -/
def isFinite : Quantity → Bool
  | .unset => true
  | .given x => x.isFinite

end Quantity

/-- A value as a binary number, if it is a number that is not too large. -/
def Json.real? : Json → Option Number.Binary64
  | .number n => n.toBinary64?
  | _ => none

/-- The quantity that an untrusted value gives; what is no number gives zero. -/
def Quantity.ofJson (value : Option Json) : Quantity :=
  .given ((value.bind Json.real?).getD .zero)

end Topograph
