import Topograph.Text.Hexadecimal
import Topograph.Text.Raw

/-!
# UTF-8

Texts as octets and octets as texts. The reader takes one code point at a time; octets that start
none are skipped up to the first one that could not continue it, and stand for one replacement
character where a text is wanted all the same. A strict reading refuses them, and a loose one lets
halves of surrogate pairs through.
-/
namespace Topograph

/-- A body or a payload: octets in order. -/
abbrev Bytes := List UInt8

namespace Text.Utf8

/-- The octets of a character. -/
def encodeChar (c : Char) : Bytes :=
  let n := c.toNat
  let tail (unit : Nat) : UInt8 := UInt8.ofNat (0x80 + n / unit % 0x40)
  if n < 0x80 then [UInt8.ofNat n]
  else if n < 0x800 then [UInt8.ofNat (0xC0 + n / 0x40), tail 1]
  else if n < 0x10000 then [UInt8.ofNat (0xE0 + n / 0x1000), tail 0x40, tail 1]
  else [UInt8.ofNat (0xF0 + n / 0x40000), tail 0x1000, tail 0x40, tail 1]

/-- The octets of a text. -/
def encode (s : String) : Bytes := s.toList.flatMap encodeChar

/-- What a first octet above the ASCII range announces: how many octets follow, the range of the
first of them, and the bits it brings. Surrogates are admitted only on request. -/
def lead? (surrogates : Bool) (b : Nat) : Option (Nat × (Nat × Nat) × Nat) :=
  if b < 0xC2 then none
  else if b < 0xE0 then some (1, (0x80, 0xBF), b - 0xC0)
  else if b < 0xF0 then
    let least := if b = 0xE0 then 0xA0 else 0x80
    let most := if b = 0xED && !surrogates then 0x9F else 0xBF
    some (2, (least, most), b - 0xE0)
  else if b < 0xF5 then
    some (3, (if b = 0xF0 then 0x90 else 0x80, if b = 0xF4 then 0x8F else 0xBF), b - 0xF0)
  else none

/-- Read the octets that continue a code point, the first of them in the given range. -/
def readTail : Nat → Nat × Nat → Nat → Bytes → Option Letter × Bytes
  | 0, _, code, rest => (Letter.ofCode? code, rest)
  | _ + 1, _, _, [] => (none, [])
  | count + 1, (least, most), code, b :: rest =>
    if least ≤ b.toNat ∧ b.toNat ≤ most then
      readTail count (0x80, 0xBF) (code * 64 + (b.toNat - 0x80)) rest
    else (none, b :: rest)

theorem length_readTail_le (count : Nat) (range : Nat × Nat) (code : Nat) (bs : Bytes) :
    (readTail count range code bs).2.length ≤ bs.length := by
  induction count generalizing range code bs with
  | zero => simp [readTail]
  | succ count ih =>
    cases bs with
    | nil => simp [readTail]
    | cons b rest =>
      rw [readTail]
      split
      · exact Nat.le_succ_of_le (ih _ _ _)
      · exact Nat.le_refl _

/-- Read one letter, given its first octet; none for octets that start none. -/
def readLetter (surrogates : Bool) (b : UInt8) (rest : Bytes) : Option Letter × Bytes :=
  if b.toNat < 0x80 then (some (.char (Char.ofNat b.toNat)), rest)
  else match lead? surrogates b.toNat with
    | some (count, range, code) => readTail count range code rest
    | none => (none, rest)

theorem length_readLetter_le (surrogates : Bool) (b : UInt8) (rest : Bytes) :
    (readLetter surrogates b rest).2.length ≤ rest.length := by
  unfold readLetter
  split
  · exact Nat.le_refl _
  · split
    · exact length_readTail_le _ _ _ _
    · exact Nat.le_refl _

/-- The letters of the octets in order, with a gap for each run that starts none. -/
def letters (surrogates : Bool) : Bytes → List (Option Letter)
  | [] => []
  | b :: rest =>
    let step := readLetter surrogates b rest
    step.1 :: letters surrogates step.2
termination_by bs => bs.length
decreasing_by exact Nat.lt_succ_of_le (length_readLetter_le surrogates b rest)

/-- The text of the octets, if they are UTF-8 throughout. -/
def decode? (bs : Bytes) : Option String :=
  ((letters false bs).mapM fun (l : Option Letter) => l.bind Letter.char?).map String.ofList

/-- The text of the octets where encoded surrogates are let through. -/
def decodeLoose? (bs : Bytes) : Option RawText := ((letters true bs).mapM id).map RawText.mk

/-- The text of the octets, with a replacement character for each gap. -/
def decode (bs : Bytes) : String :=
  String.ofList ((letters false bs).map fun l => (l.map Letter.shown).getD '\uFFFD')

/-- The octets of a raw text, if it is an ordinary one. -/
def encode? (s : RawText) : Option Bytes := s.toString?.map encode

/-! ## Percent escapes -/

/-- The characters with an escape for each octet of those that may not stand as they are. -/
def escape (isSafe : Char → Bool) (cs : List Char) : List Char :=
  cs.flatMap fun c =>
    if isSafe c then [c]
    else (encodeChar c).flatMap fun b =>
      ['%', Hexadecimal.capital (b.toNat / 16), Hexadecimal.capital (b.toNat % 16)]

/-- The octets of characters with escapes; what is no escape stands for itself. -/
def unescape : List Char → Bytes
  | [] => []
  | '%' :: a :: b :: rest =>
    match Hexadecimal.value? a, Hexadecimal.value? b with
    | some high, some low => UInt8.ofNat (high * 16 + low) :: unescape rest
    | _, _ => 0x25 :: unescape (a :: b :: rest)
  | c :: rest => encodeChar c ++ unescape rest

end Text.Utf8
end Topograph
