/-!
# Blank characters

The characters that count as white space in identifiers, titles, descriptions and encoded
payloads: the Unicode white space property and the four information separators. Texts are trimmed
of them at both ends, or freed of them everywhere.
-/
namespace Topograph.Text

/-- A code point lies in one of the closed ranges. -/
def inRanges (ranges : List (Nat × Nat)) (n : Nat) : Bool :=
  ranges.any fun r => r.1 ≤ n && n ≤ r.2

/-- The blank code points, as closed ascending ranges. -/
def blankRanges : List (Nat × Nat) :=
  [(0x09, 0x0D), (0x1C, 0x20), (0x85, 0x85), (0xA0, 0xA0), (0x1680, 0x1680), (0x2000, 0x200A),
    (0x2028, 0x2029), (0x202F, 0x202F), (0x205F, 0x205F), (0x3000, 0x3000)]

def isBlank (c : Char) : Bool := inRanges blankRanges c.toNat

/-- A blank that is not an information separator, as the Unicode white space property has it. -/
def isWhiteSpace (c : Char) : Bool := isBlank c && !(0x1C ≤ c.toNat && c.toNat ≤ 0x1F)

/-- The elements from the first to the last that is not in `drop`. -/
def trimBy {α : Type} (drop : α → Bool) (cs : List α) : List α :=
  ((cs.dropWhile drop).reverse.dropWhile drop).reverse

/-- The text without any blanks. -/
def removeBlanks (s : String) : String := String.ofList (s.toList.filter fun c => !isBlank c)

end Topograph.Text
