import Topograph.Number.Numeral
import Topograph.Time.Calendar

/-!
# Timestamps

A timestamp is a date, a time of day and, if it is known, an offset from universal time in
minutes. It is written with a fraction of six digits, or none if that is zero, and with the offset
or `Z` for offset zero. Timestamps are compared as instants; one without an offset counts as
universal time.
-/
namespace Topograph

structure Timestamp where
  date : Time.Date
  clock : Time.Clock
  offset : Option Int
  deriving DecidableEq, Repr

namespace Timestamp
open Topograph.Number

/-- The last `width` decimal digits of a number. -/
def padded : Nat → Nat → List Char
  | 0, _ => []
  | width + 1, n => padded width (n / 10) ++ [Numeral.digitChar (n % 10)]

/-- The offset as it is written. -/
def offsetChars : Option Int → List Char
  | none => []
  | some minutes =>
    if minutes = 0 then ['Z']
    else
      let n := minutes.natAbs
      (if minutes < 0 then '-' else '+') :: (padded 2 (n / 60) ++ ':' :: padded 2 (n % 60))

/-- The date and the time of day as they are written. -/
def localChars (t : Timestamp) : List Char :=
  padded 4 t.date.year ++ '-' :: (padded 2 t.date.month ++ '-' :: (padded 2 t.date.day
    ++ 'T' :: (padded 2 t.clock.hour ++ ':' :: (padded 2 t.clock.minute
    ++ ':' :: (padded 2 t.clock.second
    ++ if t.clock.micro = 0 then [] else '.' :: padded 6 t.clock.micro)))))

/-- The text of a timestamp. -/
def text (t : Timestamp) : String := String.ofList (t.localChars ++ offsetChars t.offset)

/-- The text of a time in universal time as a clock gives it. -/
def stamp (t : Timestamp) : String := String.ofList (t.localChars ++ "+00:00".toList)

/-- The microseconds from the start of year 1 in universal time. -/
def instant (t : Timestamp) : Int :=
  (t.date.dayNumber : Int) * 86400000000 + t.clock.micros - t.offset.getD 0 * 60000000

/-- The day number of the first day of 1970. -/
def epochDay : Int := 719162

end Timestamp

namespace Time

/-- A point in universal time: seconds since 1970, and microseconds more. -/
structure Instant where
  seconds : Int
  micros : Nat
  deriving DecidableEq, Repr

namespace Instant

/-- The same point with less than a second of microseconds. -/
def settle (i : Instant) : Instant :=
  ⟨i.seconds + (i.micros / 1000000 : Nat), i.micros % 1000000⟩

/-- The day number, which is negative before year 1. -/
def dayNumber (i : Instant) : Int := Timestamp.epochDay + Int.fdiv i.settle.seconds 86400

/-- The instant lies in the leap year before year 1, which has no dates here. -/
def isInYearZero (i : Instant) : Bool := -366 ≤ i.dayNumber && i.dayNumber < 0

end Instant
end Time

/-- The timestamp in universal time of an instant in the years 1 to 9999. -/
def Timestamp.ofInstant? (i : Time.Instant) : Option Timestamp := do
  let rest := (Int.fmod i.settle.seconds 86400).toNat
  if i.dayNumber < 0 then none
  else do
    let date ← Time.Date.ofDayNumber? i.dayNumber.toNat
    let clock ← Time.Clock.ofParts? (rest / 3600) (rest / 60 % 60) (rest % 60) i.settle.micros
    return ⟨date, clock, some 0⟩

end Topograph
