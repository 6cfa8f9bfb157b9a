import Topograph.Number.Basic
import Topograph.Number.Written
import Topograph.Text.Blank
import Topograph.Text.DecimalDigit

/-!
# Entered numbers

A number as a person enters it in a setting or an address: with white space around it, digits of
any script, and underscores between digits.
-/
namespace Topograph.Number.Entry

/-- Digits of any script become ASCII digits. -/
def plainDigit (c : Char) : Char :=
  match Text.decimalDigit? c with
  | some d => Numeral.digitChar d
  | none => c

/-- The characters of a number without the white space around it. -/
def entry (s : String) : List Char :=
  (Text.trimBy Text.isWhiteSpace s.toList).map plainDigit

/-- Drop the underscores between two digits; none if one stands elsewhere. -/
def dropUnderscores? (afterDigit : Bool) : List Char → Option (List Char)
  | [] => some []
  | '_' :: c :: rest =>
    if afterDigit && Numeral.isDigit c then (dropUnderscores? true rest).map (c :: ·) else none
  | c :: rest =>
    if c = '_' then none else (dropUnderscores? (Numeral.isDigit c) rest).map (c :: ·)

/-- An integer: a sign and digits. -/
def int? (s : String) : Option Int :=
  let (negative, cs) := Numeral.splitSign (entry s)
  (dropUnderscores? false cs).bind fun ds =>
    if !ds.isEmpty && ds.all Numeral.isDigit then integerOfDigits? negative ds else none

/-- A number: a decimal, or a word for NaN or infinity. -/
def binary? (s : String) : Option Binary64 :=
  (dropUnderscores? false (entry s)).bind Written.binary?

end Topograph.Number.Entry
