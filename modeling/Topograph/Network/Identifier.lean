import Topograph.Json.Basic
import Topograph.Text.Blank

/-!
# Identifiers from untrusted values

A device is named by an integer, and a record may write that as an integer, as a number, or as a
text that begins with one: blanks, a sign, and a run of digits, whatever follows. Anything else is
not an identifier and stands for a default.
-/
namespace Topograph.Identifier
open Topograph.Number

/-- The integer that a text begins with, after blanks. A run of digits past the limit is none. -/
def ofChars? (cs : List Char) : Option Int :=
  let (negative, rest) := Numeral.splitSign (cs.dropWhile Text.isBlank)
  let ds := rest.takeWhile Numeral.isDigit
  if ds.isEmpty then none else integerOfDigits? negative ds

/-- The identifier that a value names: an integer as it is, a finite number without its fraction,
or the integer that a text begins with. -/
def ofJson? : Json → Option Int
  | .number (.int n) => some n
  | .number (.float x) => x.truncate?
  | .string s => ofChars? s.shownChars
  | _ => none

/-- The identifier that a value names, or the default. -/
def read (value : Json) (default : Int) : Int := (ofJson? value).getD default

end Topograph.Identifier
