import Topograph.Json.Reader
import Topograph.Network.Quantity
import Topograph.Number.Written
import Topograph.Text.Blank
import Topograph.Validation.Issue

/-!
# Strict scalars

What counts as a text, an integer, a number or a truth value where a model asks for one. Integers,
numbers and truth values may also be written as texts, each by a grammar of its own; such a text
has to be ordinary.
-/
namespace Topograph.Validation
open Topograph.Number

/-- Only a text is a text. -/
def text : Json → Checked RawText
  | .string s => .ok s
  | _ => .fail .stringType

/-- Read the characters of a text, which must have no half of a pair that stands alone. -/
def reading {α : Type} (s : RawText) (rule : List Char → Checked α) : Checked α :=
  match s.chars? with
  | some cs => rule cs
  | none => .fail .stringUnicode

/-- Check the document that a text holds. -/
def ofText {α : Type} (rule : Json → Checked α) (s : RawText) : Checked α :=
  match s.toString? with
  | none => .fail .stringUnicode
  | some s => match Json.readStrict? s with
    | some v => rule v
    | none => .fail .jsonInvalid

/-- No underscore stands at the end or before another one. -/
def underscoresApart : List Char → Bool
  | [] => true
  | ['_'] => false
  | '_' :: '_' :: _ => false
  | _ :: rest => underscoresApart rest

/-- The characters without single underscores between them; none if underscores stand elsewhere. -/
def dropUnderscores? (cs : List Char) : Option (List Char) :=
  if cs.head? = some '_' ∨ !underscoresApart cs then none else some (cs.filter (· != '_'))

/-! ## Integers -/

/-- What the characters of an integer read as. -/
inductive IntReading where
  | read (n : Int)
  | tooLong
  | malformed
  deriving DecidableEq, Repr

/-- A plain integer: an optional minus sign, and digits without a leading zero. Digits past the
limit are too long, whatever follows them. -/
def plainInt (cs : List Char) : IntReading :=
  let (negative, cs) : Bool × List Char := match cs with
    | '-' :: rest => (true, rest)
    | rest => (false, rest)
  match cs with
  | ['0'] => .read 0
  | '0' :: _ => .malformed
  | _ =>
    let ds := cs.takeWhile Numeral.isDigit
    if ds.isEmpty then .malformed
    else match integerOfDigits? negative ds with
      | none => .tooLong
      | some n => if ds.length = cs.length then .read n else .malformed

/-- What is left of the characters after a leading zero: more zeros and underscores are passed over
up to a digit or a minus sign, or up to the character before a point. -/
def afterZero (last : Char) : List Char → Option (List Char)
  | [] => some [last]
  | c :: rest =>
    if c = '0' ∨ c = '_' then afterZero c rest
    else if c = '-' ∨ Numeral.isDigit c then some (c :: rest)
    else if c = '.' then some (last :: c :: rest)
    else none

/-- The characters without leading zeros. -/
def dropZeros? : List Char → Option (List Char)
  | '0' :: rest => afterZero '0' rest
  | c :: rest => if c = '-' ∨ Numeral.isDigit c then some (c :: rest) else none
  | [] => none

/-- The characters without a point that zeros, and only zeros, follow. -/
def dropZeroFraction (cs : List Char) : List Char :=
  match cs.dropWhile (· != '.') with
  | '.' :: zeros =>
    if !zeros.isEmpty ∧ zeros.all (· == '0') then cs.takeWhile (· != '.') else cs
  | _ => cs

/-- An integer as people write it, made plain: without white space around it, a plus sign, leading
zeros, a fraction of zeros and underscores between digits. -/
def plainForm? (cs : List Char) : Option (List Char) := do
  let cs := Text.trimBy Text.isWhiteSpace cs
  let cs ← match cs with
    | '+' :: '-' :: _ => none
    | '+' :: rest => some rest
    | rest => some rest
  let cs := dropZeroFraction (← dropZeros? cs)
  return (dropUnderscores? cs).getD cs

/-- An integer written as a text, plain or as people write it. -/
def intOfChars (cs : List Char) : Checked Int :=
  match plainInt cs with
  | .read n => .ok n
  | .tooLong => .fail .intParsingSize
  | .malformed => match (plainForm? cs).map plainInt with
    | some (.read n) => .ok n
    | some .tooLong => .fail .intParsingSize
    | some .malformed | none => .fail .intParsing

/-- An integer of a number: a binary value must be finite, have no fraction, and lie strictly
between the powers that bound a signed word. -/
def intOfNumber : Number → Checked Int
  | .int n => .ok n
  | .float x =>
    if !x.isFinite then .fail .finiteNumber
    else match x.whole? with
      | some n => if IsWord n ∧ IsWord (-n) then .ok n else .fail .intParsingSize
      | none => .fail .intFromFloat

/-- An integer: a number without a fraction, a text of one, or a truth value as 0 or 1. -/
def int : Json → Checked Int
  | .number n => intOfNumber n
  | .bool b => .ok (if b then 1 else 0)
  | .string s => reading s intOfChars
  | _ => .fail .intType

/-! ## Numbers -/

/-- A number written as a text: white space around it is left out, or single underscores inside
it, but not both. -/
def binaryOfChars (cs : List Char) : Checked Quantity :=
  let direct := Written.binary? (Text.trimBy Text.isWhiteSpace cs)
  match direct.orElse fun _ => (dropUnderscores? cs).bind Written.binary? with
  | some x => .ok (.given x)
  | none => .fail .floatParsing

/-- An integer as a number, by its sign and the binary value that it has. One past the largest value
is infinite in a document, and none if it is held. -/
def numberOfReal (o : Origin) (negative : Bool) : Option Binary64 → Checked Quantity
  | some x => .ok (.given x)
  | none => match o with
    | .document => .ok (.given (.infinite negative))
    | .held => .fail .floatType

/-- An integer as a number. -/
def numberOfInt (o : Origin) (n : Int) : Checked Quantity :=
  numberOfReal o (n < 0) (Binary64.ofInt? n)

/-- A number: an integer, a binary value, a text of one, or a truth value as 0 or 1. -/
def number (o : Origin) : Json → Checked Quantity
  | .number (.int n) => numberOfInt o n
  | .number (.float x) => .ok (.given x)
  | .bool b => numberOfInt o (if b then 1 else 0)
  | .string s => reading s binaryOfChars
  | _ => .fail .floatType

/-! ## Truth values -/

/-- The words for a truth value, in any case. -/
def truthOfChars (cs : List Char) : Checked Bool :=
  let word := String.ofList (cs.map Written.lower)
  if word ∈ ["0", "off", "f", "false", "n", "no"] then .ok false
  else if word ∈ ["1", "on", "t", "true", "y", "yes"] then .ok true
  else .fail .boolParsing

/-- Zero and one are truth values; any other word could not be read as one, and a longer integer is
not even of the kind. -/
def truthOfInt (n : Int) : Checked Bool :=
  if n = 0 then .ok false
  else if n = 1 then .ok true
  else if IsWord n then .fail .boolParsing
  else .fail .boolType

/-- A truth value, a number that is zero or one, or a word for either. -/
def truth : Json → Checked Bool
  | .bool b => .ok b
  | .number (.int n) => truthOfInt n
  | .number (.float x) => match intOfNumber (.float x) with
    | .ok n => truthOfInt n
    | .error _ => .fail .boolType
  | .string s => reading s truthOfChars
  | _ => .fail .boolType

end Topograph.Validation
