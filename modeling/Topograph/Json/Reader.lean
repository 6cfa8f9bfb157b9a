import Topograph.Json.Basic
import Topograph.Text.Hexadecimal

/-!
# Reading JSON

A reader of documents on the list of letters that remain. A failure keeps the letters that remained
where it was noticed, so that its place in the text can be told. The words `NaN`, `Infinity` and
`-Infinity` are numbers, and an integer past the digit limit is a failure of its own, as is an array
or an object for which there is no room inside of those that are open. The strict reading refuses
escapes of halves that stand alone, and holds every whole part to the digit limit.
-/
namespace Topograph.Json.Reader
open Topograph.Number

/-- Why a text is no document. -/
inductive Stop where
  /-- Something else was expected where these letters remained. -/
  | unexpected (remaining : List Letter)
  /-- A whole part has more digits than the limit. -/
  | tooManyDigits
  /-- One more array or object is opened than there is room for. -/
  | tooDeep
  deriving DecidableEq, Repr

/-- What was read, and the letters after it. -/
abbrev Step (α : Type) := Except Stop (α × List Letter)

def isSpace (l : Letter) : Bool :=
  l.isIn fun c => c = ' ' || c = '\t' || c = '\n' || c = '\r'

/-- The letters after any white space. -/
def skipSpace (ls : List Letter) : List Letter := ls.dropWhile isSpace

/-! ## Strings -/

/-- The letter that four hexadecimal digits spell, if the string goes on after them. -/
def hexFour? : List Letter → Option (Letter × List Letter)
  | .char a :: .char b :: .char c :: .char d :: e :: rest => do
    let a ← Text.Hexadecimal.value? a
    let b ← Text.Hexadecimal.value? b
    let c ← Text.Hexadecimal.value? c
    let d ← Text.Hexadecimal.value? d
    let l ← Letter.ofCode? (((a * 16 + b) * 16 + c) * 16 + d)
    some (l, e :: rest)
  | _ => none

/-- The character that a letter after a backslash stands for. -/
def named? : Letter → Option Char
  | .char '"' => some '"'
  | .char '\\' => some '\\'
  | .char '/' => some '/'
  | .char 'b' => some '\x08'
  | .char 'f' => some '\x0c'
  | .char 'n' => some '\n'
  | .char 'r' => some '\r'
  | .char 't' => some '\t'
  | _ => none

/-- The escape whose `u` the letters begin with; two of them may form a pair. -/
def readCode : List Letter → Step Letter
  | [] => .error (.unexpected [])
  | u :: rest =>
    match hexFour? rest with
    | none => .error (.unexpected (u :: rest))
    | some (high, after) =>
      match after with
      | .char '\\' :: .char 'u' :: more =>
        if high.isHigh && !(more.drop 4).isEmpty then
          match hexFour? more with
          | none => .error (.unexpected (.char 'u' :: more))
          | some (low, afterPair) =>
            match high.join? low with
            | some c => .ok (.char c, afterPair)
            | none => .ok (high, after)
        else .ok (high, after)
      | _ => .ok (high, after)

/-- The rest of a string after its opening quote, with the letters before it in reverse. The string
began where `start` remained. -/
def readString (strict : Bool) (start : List Letter) : Nat → List Letter → List Letter →
    Step RawText
  | 0, _, _ => .error (.unexpected start)
  | _ + 1, [], _ => .error (.unexpected start)
  | fuel + 1, l :: rest, done =>
    if l = .char '"' then .ok (⟨done.reverse⟩, rest)
    else if l = .char '\\' then
      match rest with
      | [] => .error (.unexpected start)
      | .char 'u' :: more =>
        match readCode (.char 'u' :: more) with
        | .error e => .error e
        | .ok (read, after) =>
          if strict && read.char?.isNone then .error (.unexpected rest)
          else readString strict start fuel after (read :: done)
      | name :: more =>
        match named? name with
        | some c => readString strict start fuel more (.char c :: done)
        | none => .error (.unexpected (l :: rest))
    else if l.code < 0x20 then .error (.unexpected (l :: rest))
    else readString strict start fuel rest (l :: done)

/-! ## Numbers -/

/-- The digits at the front, and what follows them. -/
def spanDigits (ls : List Letter) : List Char × List Letter :=
  ((ls.takeWhile (Letter.isIn Numeral.isDigit)).map Letter.shown,
    ls.dropWhile (Letter.isIn Numeral.isDigit))

/-- A point and the digits after it; without a digit there is no fraction. -/
def fraction? : List Letter → Option (List Char × List Letter)
  | .char '.' :: ls =>
    let (ds, rest) := spanDigits ls
    if ds.isEmpty then none else some (ds, rest)
  | _ => none

/-- Whether a minus sign stands in front, and what follows the sign. -/
def splitSign : List Letter → Bool × List Letter
  | .char '-' :: ls => (true, ls)
  | .char '+' :: ls => (false, ls)
  | ls => (false, ls)

/-- The mark, the sign and the digits of an exponent; without a digit there is no exponent. -/
def exponent? : List Letter → Option (Int × List Letter)
  | mark :: ls =>
    if mark = .char 'e' ∨ mark = .char 'E' then
      let (negative, ls) := splitSign ls
      let (ds, rest) := spanDigits ls
      if ds.isEmpty then none
      else some (if negative then -(Numeral.value ds : Int) else Numeral.value ds, rest)
    else none
  | [] => none

/-- A number whose sign and whole part have been read. -/
def finishNumber (strict negative : Bool) (whole : List Char) (ls : List Letter) : Step Number :=
  let (decimals, afterFraction, isFraction) := match fraction? ls with
    | some (ds, rest) => (ds, rest, true)
    | none => ([], ls, false)
  let (power, rest, isPower) := match exponent? afterFraction with
    | some (e, rest) => (e, rest, true)
    | none => (0, afterFraction, false)
  if isFraction || isPower then
    if strict && digitLimit < whole.length then .error .tooManyDigits
    else
      let d : Decimal := ⟨Numeral.value (whole ++ decimals), power - decimals.length⟩
      .ok (.float (Binary64.ofDecimal negative d), rest)
  else match integerOfDigits? negative whole with
    | some n => .ok (.int n, rest)
    | none => .error .tooManyDigits

/-- A number; a zero ends its whole part. -/
def readNumber (strict : Bool) (start : List Letter) : Step Number :=
  let (negative, ls) : Bool × List Letter := match start with
    | .char '-' :: rest => (true, rest)
    | rest => (false, rest)
  match ls with
  | .char '0' :: rest => finishNumber strict negative ['0'] rest
  | _ =>
    let (ds, rest) := spanDigits ls
    if ds.isEmpty then .error (.unexpected start) else finishNumber strict negative ds rest

/-! ## Values -/

/-- The values that are spelled by a word. -/
def words : List (String × Json) :=
  [("null", .null), ("true", .bool true), ("false", .bool false), ("NaN", .number (.float .nan)),
    ("Infinity", .number (.float (.infinite false))),
    ("-Infinity", .number (.float (.infinite true)))]

/-- The value whose word the letters begin with. -/
def word? (ls : List Letter) : Option (Json × List Letter) :=
  words.findSome? fun w =>
    let letters := (RawText.ofString w.1).letters
    if letters.isPrefixOf ls then some (w.2, ls.drop letters.length) else none

mutual

/-- The value that the letters begin with, where so many arrays and objects can be open at once. By
the strict rules an empty one takes no level. -/
def readValue (strict : Bool) : Nat → Nat → List Letter → Step Json
  | _, 0, ls => .error (.unexpected ls)
  | levels, fuel + 1, ls =>
    match ls with
    | .char '"' :: rest =>
      match readString strict ls fuel rest [] with
      | .ok (s, after) => .ok (.string s, after)
      | .error e => .error e
    | .char '[' :: rest =>
      match skipSpace rest with
      | .char ']' :: after =>
        if levels = 0 && !strict then .error .tooDeep else .ok (.array [], after)
      | inner =>
        match levels with
        | 0 => .error .tooDeep
        | levels + 1 => readItems strict levels fuel inner []
    | .char '{' :: rest =>
      match skipSpace rest with
      | .char '}' :: after =>
        if levels = 0 && !strict then .error .tooDeep else .ok (.object [], after)
      | inner =>
        match levels with
        | 0 => .error .tooDeep
        | levels + 1 => readFields strict levels fuel inner []
    | _ =>
      match word? ls with
      | some (v, after) => .ok (v, after)
      | none =>
        match readNumber strict ls with
        | .ok (n, after) => .ok (.number n, after)
        | .error e => .error e

/-- The elements of an array from the next one on, with the earlier ones in reverse. -/
def readItems (strict : Bool) : Nat → Nat → List Letter → List Json → Step Json
  | _, 0, ls, _ => .error (.unexpected ls)
  | levels, fuel + 1, ls, done =>
    match readValue strict levels fuel ls with
    | .error e => .error e
    | .ok (v, after) =>
      match skipSpace after with
      | .char ']' :: rest => .ok (.array (v :: done).reverse, rest)
      | .char ',' :: rest => readItems strict levels fuel (skipSpace rest) (v :: done)
      | other => .error (.unexpected other)

/-- The fields of an object from the next one on, with the earlier ones in reverse. -/
def readFields (strict : Bool) : Nat → Nat → List Letter → List (RawText × Json) → Step Json
  | _, 0, ls, _ => .error (.unexpected ls)
  | levels, fuel + 1, ls, done =>
    match ls with
    | .char '"' :: rest =>
      match readString strict ls fuel rest [] with
      | .error e => .error e
      | .ok (key, afterKey) =>
        match skipSpace afterKey with
        | .char ':' :: beforeValue =>
          match readValue strict levels fuel (skipSpace beforeValue) with
          | .error e => .error e
          | .ok (v, after) =>
            match skipSpace after with
            | .char '}' :: rest => .ok (ofArrivals ((key, v) :: done).reverse, rest)
            | .char ',' :: rest => readFields strict levels fuel (skipSpace rest) ((key, v) :: done)
            | other => .error (.unexpected other)
        | other => .error (.unexpected other)
    | _ => .error (.unexpected ls)

end

/-- The one document that the letters consist of. -/
def readAll (strict : Bool) (levels : Nat) (ls : List Letter) : Except Stop Json :=
  match readValue strict levels (2 * ls.length + 2) (skipSpace ls) with
  | .error e => .error e
  | .ok (v, after) =>
    match skipSpace after with
    | [] => .ok v
    | rest => .error (.unexpected rest)

end Topograph.Json.Reader

namespace Topograph.Json

/-- How many levels of arrays and objects a reader has room for. The number depends on what else is
under way when it is called; the documents that the program writes itself always fit. -/
structure Headroom where
  levels : Nat
  ample : 6 ≤ levels
  deriving DecidableEq, Repr

/-- What is left of a thousand levels when no more than a hundred are in use. -/
def Headroom.usual : Headroom := ⟨900, Nat.le_add_left 6 894⟩

/-- Why a text is no document: at a place, counted in letters, for its long whole part, or for its
nesting. -/
inductive ReadError where
  | malformed (offset : Nat)
  | tooManyDigits
  | tooDeep
  deriving DecidableEq, Repr

/-- Read a text, with escapes of halves that stand alone let through. -/
def read (headroom : Headroom) (s : RawText) : Except ReadError Json :=
  match Reader.readAll false headroom.levels s.letters with
  | .ok v => .ok v
  | .error .tooManyDigits => .error .tooManyDigits
  | .error .tooDeep => .error .tooDeep
  | .error (.unexpected rest) => .error (.malformed (s.letters.length - rest.length))

/-- The levels that the strict rules admit. -/
def strictLevels : Nat := 200

/-- Read a text by the strict rules. -/
def readStrict? (s : String) : Option Json :=
  (Reader.readAll true strictLevels (RawText.ofString s).letters).toOption

end Topograph.Json
