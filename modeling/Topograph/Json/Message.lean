import Topograph.Json.Basic
import Topograph.Text.Quoted

/-!
# Documents inside messages

How a value that a service sent along with a failure is shown to the reader of the message: a text
as it is, and anything else in a bracketed form with quoted texts, `None`, `True` and `False`.
-/
namespace Topograph.Json
open Topograph.Number

mutual

/-- The bracketed form of a value. -/
def shown : Json → List Char
  | .null => "None".toList
  | .bool true => "True".toList
  | .bool false => "False".toList
  | .number (.int n) => (integerText n).toList
  | .number (.float x) => plainLayout.text x
  | .string s => Text.Quoted.text s
  | .array [] => ['[', ']']
  | .array (v :: rest) => '[' :: (shown v ++ shownItems rest)
  | .object [] => ['\x7b', '\x7d']
  | .object (f :: rest) =>
    '\x7b' :: (Text.Quoted.text f.1 ++ ':' :: ' ' :: (shown f.2 ++ shownFields rest))

/-- The elements after the first, and the closing bracket. -/
def shownItems : List Json → List Char
  | [] => [']']
  | v :: rest => ',' :: ' ' :: (shown v ++ shownItems rest)

/-- The fields after the first, and the closing brace. -/
def shownFields : List (RawText × Json) → List Char
  | [] => ['\x7d']
  | f :: rest =>
    ',' :: ' ' :: (Text.Quoted.text f.1 ++ ':' :: ' ' :: (shown f.2 ++ shownFields rest))

end

/-- A value as the text of a message. -/
def message : Json → RawText
  | .string s => s
  | v => .ofChars (shown v)

end Topograph.Json
