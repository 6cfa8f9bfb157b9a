import Topograph.Time.Timestamp
import Topograph.Validation.Scalar

/-!
# Reading timestamps

A timestamp is written as a date, or as a date, a separator and a time of day with an optional
fraction and offset; or as a number of seconds since 1970, which counts milliseconds when it is
too large for seconds. Digits of a fraction past the sixth are dropped. The grammar knows a year
zero, but no timestamp lies in it.
-/
namespace Topograph.Timestamp
open Topograph.Number Topograph.Validation

/-- A number of exactly `count` digits, and what follows. -/
def digits? (count : Nat) (cs : List Char) : Option (Nat × List Char) :=
  let ds := cs.take count
  if ds.length = count ∧ ds.all Numeral.isDigit then some (Numeral.value ds, cs.drop count)
  else none

/-- A character that must come next. -/
def skip? (c : Char) : List Char → Option (List Char)
  | d :: rest => if d = c then some rest else none
  | [] => none

/-- The numbers of a date as it is written, where the year may be zero. -/
structure WrittenDate where
  year : Nat
  month : Nat
  day : Nat
  deriving DecidableEq, Repr

/-- A date that the calendar has, if it is extended back to year zero. -/
def readDate? (cs : List Char) : Option (WrittenDate × List Char) := do
  let (year, cs) ← digits? 4 cs
  let cs ← skip? '-' cs
  let (month, cs) ← digits? 2 cs
  let cs ← skip? '-' cs
  let (day, cs) ← digits? 2 cs
  if 1 ≤ day ∧ day ≤ Time.daysInMonth year month then some (⟨year, month, day⟩, cs) else none

/-- The microseconds of a fraction after a point or a comma. -/
def readFraction? : List Char → Option (Nat × List Char)
  | [] => some (0, [])
  | c :: cs =>
    if c = '.' ∨ c = ',' then
      let ds := cs.takeWhile Numeral.isDigit
      if ds.isEmpty then none
      else some (Numeral.value ((ds ++ List.replicate 6 '0').take 6), cs.drop ds.length)
    else some (0, c :: cs)

def readClock? (cs : List Char) : Option (Time.Clock × List Char) := do
  let (hour, cs) ← digits? 2 cs
  let cs ← skip? ':' cs
  let (minute, cs) ← digits? 2 cs
  let (second, micro, cs) ← match skip? ':' cs with
    | some cs => do
      let (second, cs) ← digits? 2 cs
      let (micro, cs) ← readFraction? cs
      pure (second, micro, cs)
    | none => pure (0, 0, cs)
  return (← Time.Clock.ofParts? hour minute second micro, cs)

/-- The sign of an offset: a plus, a hyphen or the typographic minus. -/
def offsetSign? (c : Char) : Option Int :=
  if c = '+' then some 1 else if c = '-' ∨ c = '\u2212' then some (-1) else none

/-- The offset that a text ends with, below a day in either direction. -/
def readOffset? : List Char → Option (Option Int)
  | [] => some none
  | c :: cs =>
    if c = 'Z' ∨ c = 'z' then (if cs.isEmpty then some (some 0) else none)
    else do
      let sign ← offsetSign? c
      let (hours, cs) ← digits? 2 cs
      let (minutes, cs) ← digits? 2 ((skip? ':' cs).getD cs)
      if cs.isEmpty ∧ hours < 24 ∧ minutes < 60 then
        return some (sign * (hours * 60 + minutes : Nat))
      else none

/-- What follows a written date: nothing, which stands for midnight without an offset, or a
separator, a time of day and perhaps an offset. -/
def readTime? : List Char → Option (Time.Clock × Option Int)
  | [] => some (.midnight, none)
  | separator :: cs =>
    if separator ∈ ['T', 't', '_', ' '] then do
      let (clock, cs) ← readClock? cs
      return (clock, ← readOffset? cs)
    else none

/-- What a text tells: a timestamp, a time that lies in year zero, or nothing. -/
inductive Reading where
  | timestamp (t : Timestamp)
  | yearZero
  | none
  deriving DecidableEq, Repr

/-- Read the characters of a date, with or without a time of day. -/
def ofCalendarChars (cs : List Char) : Reading :=
  match readDate? cs with
  | none => .none
  | some (date, rest) => match readTime? rest with
    | none => .none
    | some (clock, offset) => match Time.Date.ofParts? date.year date.month date.day with
      | some d => .timestamp ⟨d, clock, offset⟩
      | none => .yearZero

/-! ## Numbers -/

/-- Numbers above this count milliseconds. -/
def millisecondsFrom : Nat := 20000000000

/-- A point in time as a number of milliseconds, and microseconds more. -/
def ofMilliseconds (n : Int) (micros : Nat) : Time.Instant :=
  ⟨Int.fdiv n 1000, (Int.fmod n 1000).toNat * 1000 + micros⟩

/-- Seconds, or milliseconds if there are too many. -/
def ofInt (n : Int) : Time.Instant :=
  if n.natAbs ≤ millisecondsFrom then ⟨n, 0⟩ else ofMilliseconds n 0

/-- A quotient rounded to the nearest integer; a half is rounded up. -/
def roundHalfUp (num den : Nat) : Nat := (2 * num + den) / (2 * den)

/-- The fraction of a unit, as so many parts of it: the product is a binary value before it is
rounded. -/
def partsOf (parts units : Nat) : Nat :=
  match Magnitude.ofRatio? (units * parts) Magnitude.one with
  | some m => roundHalfUp m.units Magnitude.one
  | none => 0

/-- The largest integer that is not above the value. -/
def floorOf (negative : Bool) (m : Magnitude) : Int :=
  if negative then -(((m.units + Magnitude.one - 1) / Magnitude.one : Nat) : Int) else m.floor

/-- What the value is above that integer, in the least units. -/
def aboveFloor (negative : Bool) (m : Magnitude) : Nat :=
  ((if negative then -(m.units : Int) else m.units) - floorOf negative m * Magnitude.one).toNat

/-- A binary number of seconds or milliseconds; its fraction counts forward from the integer below
it. -/
def ofBinary? : Binary64 → Option Time.Instant
  | .finite negative m =>
    let whole := floorOf negative m
    let fraction := aboveFloor negative m
    if m.units ≤ millisecondsFrom * Magnitude.one then some ⟨whole, partsOf 1000000 fraction⟩
    else some (ofMilliseconds whole (partsOf 1000 fraction))
  | _ => none

/-- A text that is a number of seconds or milliseconds: a sign and digits, or a decimal with a
point. The whole part has at most 64 bits. -/
def ofNumericChars? (cs : List Char) : Option Time.Instant :=
  let (negative, unsigned) := Numeral.splitSign cs
  let whole := unsigned.takeWhile Numeral.isDigit
  let n := Numeral.value whole
  if ¬ IsWord n then none
  else match unsigned.dropWhile Numeral.isDigit with
    | [] => if whole.isEmpty then none else some (ofInt (if negative then -(n : Int) else n))
    | '.' :: _ => (Written.decimal? unsigned).bind fun d => ofBinary? (.ofDecimal negative d)
    | _ => none

/-- Read the characters of a number. -/
def ofNumber (i : Option Time.Instant) : Reading :=
  match i with
  | none => .none
  | some i => match ofInstant? i with
    | some t => .timestamp t
    | none => if i.isInYearZero then .yearZero else .none

/-- Read a text. -/
def ofChars (cs : List Char) : Reading :=
  match ofCalendarChars cs with
  | .none => ofNumber (ofNumericChars? cs)
  | reading => reading

/-- A text that tells a timestamp. -/
def checkChars (cs : List Char) : Checked Timestamp :=
  match ofChars cs with
  | .timestamp t => .ok t
  | .yearZero => .fail .datetimeParsing
  | .none => .fail .datetimeFromDateParsing

/-- A number that tells a timestamp. -/
def checkNumber (i : Option Time.Instant) : Checked Timestamp :=
  match i.bind ofInstant? with
  | some t => .ok t
  | none => .fail .datetimeParsing

/-- An integer that does not fit a word is no number of seconds: in a document it is not even of
the kind, and where it is held it counts as a binary number if there is one. -/
def checkLongInt (o : Origin) (n : Int) : Checked Timestamp :=
  if o = .held ∧ (Binary64.ofInt? n).isSome then .fail .datetimeParsing else .fail .datetimeType

/-- A timestamp: a text of one, or a number of seconds or milliseconds since 1970. -/
def check (o : Origin) : Json → Checked Timestamp
  | .string s => reading s checkChars
  | .number (.int n) => if IsWord n then checkNumber (some (ofInt n)) else checkLongInt o n
  | .number (.float x) => checkNumber (ofBinary? x)
  | _ => .fail .datetimeType

end Topograph.Timestamp
