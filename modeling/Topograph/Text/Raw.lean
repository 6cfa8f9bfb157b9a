import Topograph.Text.Blank

/-!
# Raw texts

A text as a document or a caller hands it over. It consists of characters, and of halves of
surrogate pairs that stand alone: an escape in a document can spell such a half, although no
character belongs to it. A text without halves is an ordinary one; only that kind can be written as
octets.
-/
namespace Topograph

/-- A character, or a half of a surrogate pair, told by its place among the halves. -/
inductive Letter where
  | char (c : Char)
  | half (n : Fin 2048)
  deriving DecidableEq, Repr, Inhabited

namespace Letter

/-- The code point of a letter. -/
def code : Letter → Nat
  | .char c => c.toNat
  | .half n => 0xD800 + n.val

/-- The letter of a code point; there is none above the last one. -/
def ofCode? (n : Nat) : Option Letter :=
  if h : 0xD800 ≤ n ∧ n < 0xE000 then some (.half ⟨n - 0xD800, by omega⟩)
  else if n.isValidChar then some (.char (Char.ofNat n))
  else none

/-- The character, if it is one. -/
def char? : Letter → Option Char
  | .char c => some c
  | .half _ => none

/-- The character, or the replacement character for a half. -/
def shown : Letter → Char
  | .char c => c
  | .half _ => '\uFFFD'

/-- The character of two halves, a high one before a low one. -/
def join? : Letter → Letter → Option Char
  | .half high, .half low =>
    if high.val < 1024 ∧ 1024 ≤ low.val then
      some (Char.ofNat (0x10000 + high.val * 1024 + (low.val - 1024)))
    else none
  | _, _ => none

/-- A half that comes first in a pair. -/
def isHigh : Letter → Bool
  | .half n => n.val < 1024
  | .char _ => false

/-- A character of a class; a half is in no class. -/
def isIn (p : Char → Bool) : Letter → Bool
  | .char c => p c
  | .half _ => false

end Letter

structure RawText where
  letters : List Letter
  deriving DecidableEq, Repr, Inhabited

namespace RawText

def ofChars (cs : List Char) : RawText := ⟨cs.map .char⟩

def ofString (s : String) : RawText := ofChars s.toList

instance : Coe String RawText := ⟨ofString⟩

instance : Append RawText := ⟨fun s t => ⟨s.letters ++ t.letters⟩⟩

/-- The characters, if no half stands alone. -/
def chars? (s : RawText) : Option (List Char) := s.letters.mapM Letter.char?

/-- The ordinary text, if it is one. -/
def toString? (s : RawText) : Option String := s.chars?.map String.ofList

/-- No half stands alone. -/
def isOrdinary (s : RawText) : Bool := s.letters.all fun l => l.char?.isSome

/-- The characters, with the replacement character for each half. -/
def shownChars (s : RawText) : List Char := s.letters.map Letter.shown

/-- The text with the replacement character for each half. -/
def shown (s : RawText) : String := String.ofList s.shownChars

def isEmpty (s : RawText) : Bool := s.letters.isEmpty

/-- The text without blanks at its two ends. -/
def trim (s : RawText) : RawText := ⟨Text.trimBy (Letter.isIn Text.isBlank) s.letters⟩

/-- The text has no letter but blanks. -/
def isAllBlank (s : RawText) : Bool := s.letters.all (Letter.isIn Text.isBlank)

theorem chars?_ofChars (cs : List Char) : (ofChars cs).chars? = some cs := by
  simp only [chars?, ofChars]
  induction cs with
  | nil => rfl
  | cons c cs ih => simp [Letter.char?, ih]

/-- An ordinary text comes back unchanged. -/
theorem toString?_ofString (s : String) : (ofString s).toString? = some s := by
  simp [toString?, ofString, chars?_ofChars]

theorem ofString_injective {s t : String} (h : ofString s = ofString t) : s = t := by
  have : some s = some t := by rw [← toString?_ofString s, h, toString?_ofString]
  exact Option.some.inj this

end RawText
end Topograph
