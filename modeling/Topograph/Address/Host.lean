import Topograph.Address.HostLetters
import Topograph.Address.Punycode
import Topograph.Number.Numeral
import Topograph.Text.Utf8

/-!
# Hosts

The host of an address is four numbers, a bracketed address of eight groups, or a name. Names are
in lower case; a name beyond the ASCII range is made of labels, each of which is checked and then
written in Punycode. A host that looks like one of these and is none has no written form.
-/
namespace Topograph.Host
open Topograph.Number

/-! ## Numeric hosts -/

/-- The separators that a run of digits could give up and still be digits around each. -/
def spareSeparators (run : List Char) : Nat := (run.length - 1) / 2

/-- The host has the shape of four runs of digits with any character between two of them. -/
def looksNumeric (host : List Char) : Bool :=
  let runs := host.splitOnP fun c => !Numeral.isDigit c
  runs.all (fun run => !run.isEmpty) && runs.length ≤ 4
    && 4 ≤ runs.foldl (fun n run => n + spareSeparators run) runs.length

/-- A number below 256 without leading zeros. -/
def isOctet (cs : List Char) : Bool :=
  !cs.isEmpty && cs.length ≤ 3 && cs.all Numeral.isDigit && (cs == ['0'] || cs.head? != some '0')
    && Numeral.value cs ≤ 255

/-- Four numbers with points between them. -/
def isFourNumbers (cs : List Char) : Bool :=
  let parts := cs.splitOn '.'
  parts.length == 4 && parts.all isOctet

def isHexDigit (c : Char) : Bool :=
  let n := c.toNat
  Numeral.isDigit c || (65 ≤ n && n ≤ 70) || (97 ≤ n && n ≤ 102)

/-- A group of one to four hexadecimal digits. -/
def isGroup (cs : List Char) : Bool := !cs.isEmpty && cs.length ≤ 4 && cs.all isHexDigit

/-- The groups of an address, where four numbers at the end stand for two groups. -/
def groups? (cs : List Char) : Option (List (List Char)) :=
  let parts := cs.splitOn ':'
  let last := parts.getLast?.getD []
  if parts.length < 3 then none
  else if last.contains '.' then
    if isFourNumbers last then some (parts.dropLast ++ [['0'], ['0']]) else none
  else some parts

/-- The places of the groups that are left out between two others. -/
def gaps (parts : List (List Char)) : List Nat :=
  (List.range parts.length).filter fun i =>
    0 < i && i + 1 < parts.length && (parts[i]?.getD []).isEmpty

/-- Groups at one side of a gap; the side may be empty but for the end of the address. -/
def side? (parts : List (List Char)) : Option Nat :=
  if parts = [[]] then some 0 else if parts.all isGroup then some parts.length else none

/-- Eight groups, or fewer with one gap. -/
def areGroups (parts : List (List Char)) : Bool :=
  match gaps parts with
  | [] => parts.length == 8 && parts.all isGroup
  | [i] => match side? (parts.take i), side? (parts.drop (i + 1)) with
    | some before, some after => parts.length ≤ 9 && before + after < 8
    | _, _ => false
  | _ => false

/-- An address of eight groups, with an optional zone after a percent sign. -/
def isEightGroups (cs : List Char) : Bool :=
  let isZone := match cs.dropWhile (· != '%') with
    | [] => true
    | _ :: zone => !zone.isEmpty && !zone.contains '%'
  isZone && !cs.contains '/'
    && ((groups? (cs.takeWhile (· != '%'))).map areGroups).getD false

/-! ## Lower case -/

def isIn (ranges : List (Nat × Nat)) (c : Char) : Bool := Text.inRanges ranges c.toNat

/-- The lower case of a letter; one capital is written with two. -/
def lower (c : Char) : List Char :=
  let n := c.toNat
  if 0x41 ≤ n ∧ n ≤ 0x5A then [Char.ofNat (n + 32)]
  else if n = 0x130 then ['i', '\u0307']
  else match capitalRuns.find? fun r => r.1 ≤ n && n ≤ r.2.1 && (n - r.1) % r.2.2.1 == 0 with
    | some r => [Char.ofNat (n + r.2.2.2).toNat]
    | none => [c]

def isFlyingMark : Char → Bool := isIn flyingMarkRanges

/-- The character does not end a word. -/
def isInsideWord (c : Char) : Bool := isFlyingMark c || isIn insideWordRanges c

def isCased : Char → Bool := isIn casedRanges

/-- A name in lower case, given the last letter before it. A capital sigma at the end of a word has
a form of its own. -/
def lowerFrom (before : Option Char) : List Char → List Char
  | [] => []
  | c :: rest =>
    let isFinal := before.any isCased && !(rest.dropWhile isInsideWord).head?.any isCased
    (if c = '\u03A3' ∧ isFinal then ['\u03C2'] else lower c)
      ++ lowerFrom (if isInsideWord c then before else some c) rest

/-! ## Labels -/

/-- A small letter, a digit or a hyphen. -/
def isPlain (c : Char) : Bool :=
  (97 ≤ c.toNat && c.toNat ≤ 122) || Numeral.isDigit c || c == '-'

/-- Hyphens neither begin nor end a label, nor stand third and fourth. -/
def hasHyphensInside (label : List Char) : Bool :=
  label.head? != some '-' && label.getLast? != some '-' && (label.drop 2).take 2 != ['-', '-']

/-- The rank of a mark that has to stand in order; zero for any other letter. -/
def rank (c : Char) : Nat :=
  ((rankedRanges.find? fun r => r.1 ≤ c.toNat && c.toNat ≤ r.2.1).map (·.2.2)).getD 0

/-- The two have a letter of their own. -/
def compose (base mark : Char) : Bool :=
  compositions.any fun r => r.1 == mark.toNat && r.2.toList.contains base

/-- Marks stand in order, and none could be joined to the letter before it. Given are that letter
and the rank of the mark after it, if there is one. -/
def isComposed (base : Option Char) (last : Nat) : List Char → Bool
  | [] => true
  | c :: rest =>
    let n := rank c
    (n == 0 || last ≤ n)
      && !((last == 0 || last < n) && base.any fun b => compose b c)
      && (if n = 0 then isComposed (some c) 0 rest else isComposed base n rest)

/-- A digit of Arabic writing. -/
def isArabicDigit (c : Char) : Bool := 0x660 ≤ c.toNat && c.toNat ≤ 0x669

/-- A digit of eastern Arabic writing. -/
def isEasternDigit (c : Char) : Bool := 0x6F0 ≤ c.toNat && c.toNat ≤ 0x6F9

/-- The sign before a joiner silences its vowel. -/
def silences (c : Char) : Bool := rank c == 9

/-- A letter may stand in a label between the letters before it, the nearest one first, and the
letters after it. -/
def fits (label before : List Char) (c : Char) (after : List Char) : Bool :=
  let n := c.toNat
  if n = 0xB7 then before.head? == some 'l' && after.head? == some 'l'
  else if n = 0x375 then after.head?.any (isIn greekRanges)
  else if n = 0x5F3 || n = 0x5F4 then before.head?.any (isIn hebrewRanges)
  else if n = 0x30FB then label.any fun d => d != c && isIn eastAsianRanges d
  else if isArabicDigit c then !label.any isEasternDigit
  else if isEasternDigit c then !label.any isArabicDigit
  else if n = 0x200D then before.head?.any silences
  else if n = 0x200C then before.head?.any silences
    || ((before.dropWhile isFlyingMark).head?.any (isIn joinsNextRanges)
      && (after.dropWhile isFlyingMark).head?.any (isIn joinsPreviousRanges))
  else isPlain c || isIn admittedRanges c

/-- Every letter of the label fits; those before have been looked at. -/
def allFit (label before : List Char) : List Char → Bool
  | [] => true
  | c :: rest => fits label before c rest && allFit label (c :: before) rest

/-- How a letter is written. -/
inductive Direction where
  | left
  | right
  | leftDigit
  | rightDigit
  | mark
  | none
  deriving DecidableEq, Repr

/-- A digit of Rohingya writing. -/
def isRohingyaDigit (c : Char) : Bool := 0x10D30 ≤ c.toNat && c.toNat ≤ 0x10D39

def direction (c : Char) : Direction :=
  if isArabicDigit c || isRohingyaDigit c then .rightDigit
  else if Numeral.isDigit c || isEasternDigit c then .leftDigit
  else if isFlyingMark c then .mark
  else if isIn rightToLeftRanges c then .right
  else if isIn undirectedRanges c then .none
  else .left

/-- A label with a letter that is written from the right is written so throughout: it begins with
such a letter, holds no letters that are written from the left, ends with a letter or a digit, and
has digits of one kind. -/
def hasOneDirection (label : List Char) : Bool :=
  let ds := label.map direction
  let ends := (ds.reverse.dropWhile (· == .mark)).head?
  !(ds.contains .right || ds.contains .rightDigit)
    || (ds.head? == some .right && !ds.contains .left
      && ends.any [.right, .leftDigit, .rightDigit].contains
      && !(ds.contains .leftDigit && ds.contains .rightDigit))

/-- A label that a name may have. -/
def isLabel (label : List Char) : Bool :=
  !label.isEmpty && hasHyphensInside label && !label.head?.any (isIn markRanges)
    && allFit label [] label && isComposed none 0 label && hasOneDirection label

/-- The prefix of a label in Punycode. -/
def codedPrefix : List Char := "xn--".toList

def isAscii (cs : List Char) : Bool := cs.all (·.toNat < 128)

/-- The label that a coded one stands for is a label. -/
def isCodedLabel (label : List Char) : Bool :=
  let coded := label.drop codedPrefix.length
  !coded.isEmpty && coded.getLast? != some '-' && ((Punycode.decode? coded).map isLabel).getD false

/-- A label in ASCII characters, in Punycode if it needs it. -/
def writeLabel? (label : List Char) : Option (List Char) :=
  let isValid := if isAscii label && codedPrefix.isPrefixOf label then isCodedLabel label
    else isLabel label
  let written := if isAscii label then label else codedPrefix ++ Punycode.encode label
  if isValid && written.length ≤ 63 then some written else none

/-! ## Names -/

/-- The full stops of any script. -/
def isStop (c : Char) : Bool := c.toNat ∈ [0x2E, 0x3002, 0xFF0E, 0xFF61]

/-- A name beyond the ASCII range in ASCII characters; one stop may end it. -/
def writeName? (name : List Char) : Option (List Char) := do
  let labels := name.splitOnP isStop
  let isEnded := labels.getLast? == some []
  let labels ← (if isEnded then labels.dropLast else labels).mapM writeLabel?
  let written := ['.'].intercalate (if isEnded then labels ++ [[]] else labels)
  if labels.isEmpty || (if isEnded then 254 else 253) < written.length then none
  else return written

/-- A character of a name that is written as it is. -/
def isNameChar (c : Char) : Bool :=
  let n := c.toNat
  Numeral.isDigit c || (65 ≤ n && n ≤ 90) || (97 ≤ n && n ≤ 122)
    || "-._~!$&'()*+,;=\"`\x7b\x7d%|\\".toList.contains c

/-- A host as addresses write it, without brackets; none if there is no such host. -/
def write? (host : List Char) : Option (List Char) :=
  if looksNumeric host then (if isFourNumbers host then some host else none)
  else if host.head? = some '[' ∧ host.getLast? = some ']' then
    let inner := (host.drop 1).dropLast
    if isEightGroups inner then some inner else none
  else
    let name := lowerFrom none host
    if isAscii host then some (Text.Utf8.escape isNameChar name) else writeName? name

end Topograph.Host
