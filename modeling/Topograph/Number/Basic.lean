import Topograph.Number.Shortest

/-!
# Numbers of a document

A number is an integer of any size or a binary value of 64 bits, and the two kinds stay apart.
Integers have a text, and texts an integer, up to a limit of digits; beyond it there is none. A
label shows a number without a fraction as an integer and any other by its shortest digits.
-/
namespace Topograph.Number

/-- The most digits that an integer's text may have, leading zeros counted and the sign not. -/
def digitLimit : Nat := 4300

/-- The decimal text of an integer of any size. -/
def integerText (n : Int) : String :=
  String.ofList ((if n < 0 then ['-'] else []) ++ Numeral.digits n.natAbs)

/-- The integer has a text within the digit limit. -/
def IsWritable (n : Int) : Prop := n.natAbs < Nat.pow 10 digitLimit

instance (n : Int) : Decidable (IsWritable n) := inferInstanceAs (Decidable (_ < _))

/-- The integer fits a signed word of 64 bits. -/
def IsWord (n : Int) : Prop := -9223372036854775808 ≤ n ∧ n ≤ 9223372036854775807

instance (n : Int) : Decidable (IsWord n) := inferInstanceAs (Decidable (_ ∧ _))

/-- The decimal text of an integer, if it is within the digit limit. -/
def integerText? (n : Int) : Option String :=
  if IsWritable n then some (integerText n) else none

/-- The integer of a run of digits, if the run is within the digit limit. -/
def integerOfDigits? (negative : Bool) (ds : List Char) : Option Int :=
  if ds.length ≤ digitLimit then
    some (if negative then -(Numeral.value ds : Int) else Numeral.value ds)
  else none

/-- Labels and messages write exponents from -4 to 15 positionally, and others with a sign and two
digits or more. -/
def plainLayout : Layout where
  positionalFrom := -4
  positionalBelow := 16
  exponentWidth := 2

end Topograph.Number

namespace Topograph

/-- A number of a document: an integer of any size, or a binary value of 64 bits. -/
inductive Number where
  | int (n : Int)
  | float (x : Number.Binary64)
  deriving DecidableEq, Repr, Inhabited

namespace Number

/-- The binary value nearest to a number; an integer past the largest one has none. -/
def toBinary64? : Number → Option Binary64
  | .int n => Binary64.ofInt? n
  | .float x => some x

/-- The text of a binary value on a label: as an integer if it has no fraction. -/
def Binary64.label (x : Binary64) : String :=
  match x.whole? with
  | some n => integerText n
  | none => String.ofList (plainLayout.text x)

/-- The text of a number on a label; an integer past the digit limit has none. -/
def label? : Number → Option String
  | .int n => integerText? n
  | .float x => some x.label

end Number
end Topograph
