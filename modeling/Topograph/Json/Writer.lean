import Topograph.Json.Basic
import Topograph.Text.Quoted

/-!
# Writing JSON

The compact text of a document: no space between tokens, fields in their order. Only the quote,
the backslash and the control characters are escaped. A binary number is written by its shortest
digits, and one that is not finite as `null`. Only an ordinary document can be written faithfully.
-/
namespace Topograph.Json
open Topograph.Number

/-- Documents write exponents from -5 to 15 positionally, and others with a sign and no padding. -/
def numberLayout : Layout where
  positionalFrom := -5
  positionalBelow := 16
  exponentWidth := 1

/-- One character of a string. -/
def escape (c : Char) : List Char :=
  if c = '"' then ['\\', '"']
  else if c = '\\' then ['\\', '\\']
  else if c = '\x08' then ['\\', 'b']
  else if c = '\x0c' then ['\\', 'f']
  else if c = '\n' then ['\\', 'n']
  else if c = '\r' then ['\\', 'r']
  else if c = '\t' then ['\\', 't']
  else if c.toNat < 0x20 then '\\' :: 'u' :: Text.Quoted.hex 4 c.toNat
  else [c]

/-- A string in its quotes. -/
def quoted (s : RawText) : List Char := '"' :: (s.shownChars.flatMap escape ++ ['"'])

/-- A number. -/
def numberChars : Number → List Char
  | .int n => (integerText n).toList
  | .float (.finite negative m) => numberLayout.finite negative m
  | .float _ => "null".toList

mutual

/-- The characters of a document. -/
def chars : Json → List Char
  | .null => "null".toList
  | .bool true => "true".toList
  | .bool false => "false".toList
  | .number n => numberChars n
  | .string s => quoted s
  | .array [] => ['[', ']']
  | .array (v :: rest) => '[' :: (chars v ++ charsItems rest)
  | .object [] => ['\x7b', '\x7d']
  | .object (f :: rest) => '\x7b' :: (quoted f.1 ++ ':' :: (chars f.2 ++ charsFields rest))

/-- The elements after the first, and the closing bracket. -/
def charsItems : List Json → List Char
  | [] => [']']
  | v :: rest => ',' :: (chars v ++ charsItems rest)

/-- The fields after the first, and the closing brace. -/
def charsFields : List (RawText × Json) → List Char
  | [] => ['\x7d']
  | f :: rest => ',' :: (quoted f.1 ++ ':' :: (chars f.2 ++ charsFields rest))

end

/-- The compact text of a document; a half that stands alone is shown as the replacement
character. -/
def write (v : Json) : String := String.ofList (chars v)

/-- The compact text of an ordinary document. -/
def write? (v : Json) : Option String := if v.isOrdinary then some v.write else none

end Topograph.Json
