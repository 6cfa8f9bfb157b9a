import Topograph.Text.Hexadecimal
import Topograph.Text.Printable
import Topograph.Text.Raw

/-!
# Quoted texts

How a text looks inside a message that shows a structured value: in single quotes, or in double
quotes if it holds a single quote and no double one. The quote in use, the backslash and the line
characters are escaped by letter, unprintable characters by their code.
-/
namespace Topograph.Text.Quoted

/-- The last `width` hexadecimal digits of a number. -/
def hex : Nat → Nat → List Char
  | 0, _ => []
  | width + 1, n => hex width (n / 16) ++ [Hexadecimal.small (n % 16)]

/-- The code of what is not printable, in two, four or eight digits. -/
def code (n : Nat) : List Char :=
  if n < 0x100 then '\\' :: 'x' :: hex 2 n
  else if n < 0x10000 then '\\' :: 'u' :: hex 4 n
  else '\\' :: 'U' :: hex 8 n

/-- One character between the quotes. -/
def escapeChar (quote c : Char) : List Char :=
  if c = quote ∨ c = '\\' then ['\\', c]
  else if c = '\n' then ['\\', 'n']
  else if c = '\r' then ['\\', 'r']
  else if c = '\t' then ['\\', 't']
  else if isPrintable c then [c]
  else code c.toNat

/-- One letter between the quotes; a half of a pair is not printable. -/
def escape (quote : Char) : Letter → List Char
  | .char c => escapeChar quote c
  | .half n => code (Letter.half n).code

/-- The quote around a text. -/
def quoteOf (s : RawText) : Char :=
  if .char '\'' ∈ s.letters ∧ .char '"' ∉ s.letters then '"' else '\''

/-- The text in quotes. -/
def text (s : RawText) : List Char :=
  let quote := quoteOf s
  quote :: (s.letters.flatMap (escape quote) ++ [quote])

end Topograph.Text.Quoted
