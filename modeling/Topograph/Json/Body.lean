import Topograph.Json.Reader
import Topograph.Text.Utf8

/-!
# JSON in a body

A body is octets, and a document in it may be written in UTF-8, UTF-16 or UTF-32. The encoding is
told from a byte order mark or from where the first four octets are zero; a mark is not part of
the text.
-/
namespace Topograph.Json

/-- The encodings of a body, by the size of their unit and the order of its octets. -/
inductive Encoding where
  | utf8
  | utf16 (bigEndian : Bool)
  | utf32 (bigEndian : Bool)
  deriving DecidableEq, Repr

/-- The encoding of a body, and the octets after a byte order mark. -/
def Encoding.detect (bs : Bytes) : Encoding × Bytes :=
  match bs with
  | 0x00 :: 0x00 :: 0xFE :: 0xFF :: rest => (.utf32 true, rest)
  | 0xFF :: 0xFE :: 0x00 :: 0x00 :: rest => (.utf32 false, rest)
  | 0xFE :: 0xFF :: rest => (.utf16 true, rest)
  | 0xFF :: 0xFE :: rest => (.utf16 false, rest)
  | 0xEF :: 0xBB :: 0xBF :: rest => (.utf8, rest)
  | a :: b :: c :: d :: _ =>
    if a = 0 then (if b = 0 then .utf32 true else .utf16 true, bs)
    else if b = 0 then (if c = 0 ∧ d = 0 then .utf32 false else .utf16 false, bs)
    else (.utf8, bs)
  | [a, b] => (if a = 0 then .utf16 true else if b = 0 then .utf16 false else .utf8, bs)
  | _ => (.utf8, bs)

/-- The value of the octets of one unit. -/
def unitValue (bigEndian : Bool) (unit : Bytes) : Nat :=
  (if bigEndian then unit else unit.reverse).foldl (fun n b => n * 256 + b.toNat) 0

/-- The units of two octets; none if one octet is left over. -/
def units16? (bigEndian : Bool) : Bytes → Option (List Nat)
  | [] => some []
  | [_] => none
  | a :: b :: rest => (units16? bigEndian rest).map (unitValue bigEndian [a, b] :: ·)

/-- The units of four octets; none if some octets are left over. -/
def units32? (bigEndian : Bool) : Bytes → Option (List Nat)
  | [] => some []
  | a :: b :: c :: d :: rest =>
    (units32? bigEndian rest).map (unitValue bigEndian [a, b, c, d] :: ·)
  | _ => none

/-- The letters of 16-bit units, where a high half and a low one after it make a character. -/
def lettersOf16 : List Nat → List Letter
  | [] => []
  | [n] => (Letter.ofCode? n).toList
  | n :: next :: rest =>
    match (Letter.ofCode? n).bind fun high => (Letter.ofCode? next).bind high.join? with
    | some c => .char c :: lettersOf16 rest
    | none => (Letter.ofCode? n).toList ++ lettersOf16 (next :: rest)

/-- The text of a body in its encoding, if its octets are valid there. -/
def bodyText? (bs : Bytes) : Option RawText :=
  match Encoding.detect bs with
  | (.utf8, rest) => Text.Utf8.decodeLoose? rest
  | (.utf16 big, rest) => (units16? big rest).map fun units => ⟨lettersOf16 units⟩
  | (.utf32 big, rest) =>
    (units32? big rest).bind fun units => (units.mapM Letter.ofCode?).map RawText.mk

/-- The text of a body read as a document; none if the octets are no text. -/
def readBody? (headroom : Headroom) (bs : Bytes) : Option (Except ReadError Json) :=
  (bodyText? bs).map (read headroom)

/-- The document in a body by the strict rules: UTF-8 without a mark. -/
def readBodyStrict? (bs : Bytes) : Option Json :=
  (Text.Utf8.decode? bs).bind fun s => readStrict? s

end Topograph.Json
