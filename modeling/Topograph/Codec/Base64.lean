import Topograph.Text.Utf8

/-!
# Base64

Octets in groups of three as four letters of sixty-four, the last group filled up with equals
signs. The reader accepts letters only, and at the end a group of two or three letters filled up
exactly; the bits to spare in such a group do not count, and neither do equals signs after a last
group that is full. Reading what was written gives the octets back.
-/
namespace Topograph.Codec.Base64

/-- The letter of a number below sixty-four. -/
def letter (n : Nat) : Char :=
  if n < 26 then Char.ofNat (65 + n)
  else if n < 52 then Char.ofNat (71 + n)
  else if n < 62 then Char.ofNat (n - 4)
  else if n = 62 then '+' else '/'

/-- The number of a letter. -/
def value? (c : Char) : Option Nat :=
  let n := c.toNat
  if 65 ≤ n ∧ n ≤ 90 then some (n - 65)
  else if 97 ≤ n ∧ n ≤ 122 then some (n - 71)
  else if 48 ≤ n ∧ n ≤ 57 then some (n + 4)
  else if c = '+' then some 62
  else if c = '/' then some 63
  else none

/-- The letters of octets. -/
def encode : Bytes → List Char
  | [] => []
  | [a] => [letter (a.toNat / 4), letter (a.toNat % 4 * 16), '=', '=']
  | [a, b] =>
    [letter (a.toNat / 4), letter (a.toNat % 4 * 16 + b.toNat / 16), letter (b.toNat % 16 * 4), '=']
  | a :: b :: c :: rest =>
    letter (a.toNat / 4) :: letter (a.toNat % 4 * 16 + b.toNat / 16)
      :: letter (b.toNat % 16 * 4 + c.toNat / 64) :: letter (c.toNat % 64) :: encode rest

/-- The octet that two letters begin with. -/
def first? (a b : Char) : Option UInt8 := do
  return UInt8.ofNat (← value? a) * 4 + UInt8.ofNat ((← value? b) / 16)

/-- The octet between the second and the third letter. -/
def second? (b c : Char) : Option UInt8 := do
  return UInt8.ofNat ((← value? b) % 16) * 16 + UInt8.ofNat ((← value? c) / 4)

/-- The octet that two letters end with. -/
def third? (c d : Char) : Option UInt8 := do
  return UInt8.ofNat ((← value? c) % 4) * 64 + UInt8.ofNat (← value? d)

/-- The octets of letters. -/
def decode? : List Char → Option Bytes
  | [] => some []
  | [a, b, '=', '='] => do return [← first? a b]
  | [a, b, c, '='] => do return [← first? a b, ← second? b c]
  | a :: b :: c :: d :: rest => do
    let x ← first? a b
    let y ← second? b c
    let z ← third? c d
    if rest.all (· == '=') then return [x, y, z]
    else return x :: y :: z :: (← decode? rest)
  | _ => none

end Topograph.Codec.Base64
