import Mathlib.Data.Nat.Digits.Defs
import Topograph.Proofs.Network.RecordRoundTrip
import Topograph.Proofs.Number.ExactValue

/-!
# The grammar of identifiers

A text names an identifier if it begins with an integer: blanks, perhaps a sign, and a run of digits
that is as long as it can be and within the digit limit. What follows the run is not looked at.
Every other text stands for the default. A finite number names the integer toward zero.
-/
namespace Topograph.Identifier
open Topograph.Number

/-- The number that digits denote, the most significant one first. -/
def denoted (ds : List Char) : Nat := Nat.ofDigits 10 (ds.reverse.map fun c => c.toNat - '0'.toNat)

def BeginsWithDigit (s : RawText) : Prop :=
  ∃ c, s.letters.head? = some (.char c) ∧ c.isDigit = true

/-- The text begins with this integer. The run of its digits ends where no digit follows. -/
inductive Begins : RawText → Int → Prop where
  | run {blanks sign ds : List Char} {negative : Bool} {rest : RawText} :
    (∀ c ∈ blanks, Text.isBlank c = true) → (sign, negative) ∈ signs →
    ds ≠ [] → (∀ c ∈ ds, c.isDigit = true) → ds.length ≤ digitLimit → ¬ BeginsWithDigit rest →
    Begins (RawText.ofChars (blanks ++ (sign ++ ds)) ++ rest)
      (if negative then -(denoted ds : Int) else denoted ds)

theorem isDigit_eq (c : Char) : Numeral.isDigit c = c.isDigit := by
  rw [Bool.eq_iff_iff, Numeral.isDigit, Char.isDigit, Bool.and_eq_true, Bool.and_eq_true,
    decide_eq_true_eq, decide_eq_true_eq, decide_eq_true_eq, decide_eq_true_eq, ge_iff_le,
    UInt32.le_iff_toNat_le, UInt32.le_iff_toNat_le]
  rfl

theorem value_eq_denoted (ds : List Char) : Numeral.value ds = denoted ds := by
  induction ds using List.reverseRecOn with
  | nil => rfl
  | append_singleton ds c ih =>
    rw [Numeral.value_append, ih, denoted, denoted, List.reverse_append, List.reverse_singleton,
      List.singleton_append, List.map_cons, Nat.ofDigits_cons, Nat.add_comm]
    rfl

/-! ## Letters and the characters that are shown for them -/

theorem shownChars_append (cs : List Char) (rest : RawText) :
    (RawText.ofChars cs ++ rest).shownChars = cs ++ rest.shownChars := by
  have letters : (RawText.ofChars cs ++ rest).letters = cs.map .char ++ rest.letters := rfl
  have shown : Letter.shown ∘ Letter.char = id := rfl
  rw [RawText.shownChars, letters, List.map_append, List.map_map, shown, List.map_id]
  rfl

theorem head_shownChars {s : RawText} (h : ¬ BeginsWithDigit s) :
    ∀ c ∈ s.shownChars.head?, Numeral.isDigit c = false := by
  intro c hc
  rw [RawText.shownChars, List.head?_map, Option.mem_map] at hc
  obtain ⟨l, hl, rfl⟩ := hc
  cases l with
  | half n => rfl
  | char c =>
    rw [isDigit_eq]
    exact Bool.eq_false_of_not_eq_true fun digit => h ⟨c, hl, digit⟩

/-- Where no replacement character is shown, the letters are the characters. -/
theorem exists_rest {s : RawText} {front more : List Char} (h : s.shownChars = front ++ more)
    (real : '\uFFFD' ∉ front) :
    ∃ rest, s = RawText.ofChars front ++ rest ∧ rest.shownChars = more := by
  obtain ⟨ls, rest, letters, rfl, rfl⟩ := List.map_eq_append_iff.mp h
  refine ⟨⟨rest⟩, ?_, rfl⟩
  have plain : ∀ l ∈ ls, (Letter.char ∘ Letter.shown) l = id l := by
    intro l hl
    cases l with
    | char c => rfl
    | half n => exact absurd (List.mem_map_of_mem (f := Letter.shown) hl) real
  have same : (RawText.ofChars (ls.map Letter.shown) ++ ⟨rest⟩).letters = ls ++ rest := by
    change (ls.map Letter.shown).map Letter.char ++ rest = _
    rw [List.map_map, List.map_congr_left plain, List.map_id]
  exact congrArg RawText.mk (letters.trans same.symm)

/-! ## Reading by the grammar -/

theorem exists_sign (cs : List Char) : ∃ sign, (sign, (Numeral.splitSign cs).1) ∈ signs ∧
    cs = sign ++ (Numeral.splitSign cs).2 := by
  unfold Numeral.splitSign
  split
  · exact ⟨['-'], by simp [signs], rfl⟩
  · exact ⟨['+'], by simp [signs], rfl⟩
  · exact ⟨[], by simp [signs], rfl⟩

theorem integerOfDigits?_eq_some_iff {negative : Bool} {ds : List Char} {n : Int} :
    integerOfDigits? negative ds = some n ↔
      ds.length ≤ digitLimit ∧ (if negative then -(denoted ds : Int) else denoted ds) = n := by
  rw [integerOfDigits?, value_eq_denoted]
  split
  next short => simp [short]
  next long => simp [long]

theorem ofChars?_of_begins {s : RawText} {n : Int} (h : Begins s n) :
    ofChars? s.shownChars = some n := by
  cases h with
  | @run blanks sign ds negative rest hblanks hsign nonempty digits short ends =>
    have digits : ∀ c ∈ ds, Numeral.isDigit c = true := fun c hc => isDigit_eq c ▸ digits c hc
    have read := ofChars?_run hblanks hsign nonempty digits (head_shownChars ends)
    rw [shownChars_append, List.append_assoc, List.append_assoc, read,
      integerOfDigits?_eq_some_iff]
    exact ⟨short, rfl⟩

/-- The characters that an integer is read from, taken apart. -/
theorem exists_run {cs : List Char} {n : Int} (h : ofChars? cs = some n) :
    ∃ blanks sign ds more negative, cs = blanks ++ (sign ++ ds) ++ more ∧
      (∀ c ∈ blanks, Text.isBlank c = true) ∧ (sign, negative) ∈ signs ∧ ds ≠ [] ∧
      (∀ c ∈ ds, Numeral.isDigit c = true) ∧ (∀ c ∈ more.head?, Numeral.isDigit c = false) ∧
      integerOfDigits? negative ds = some n := by
  obtain ⟨sign, hsign, signed⟩ := exists_sign (cs.dropWhile Text.isBlank)
  unfold ofChars? at h
  generalize Numeral.splitSign (cs.dropWhile Text.isBlank) = split at *
  obtain ⟨negative, unsigned⟩ := split
  simp only at h hsign signed
  split at h
  · cases h
  next nonempty =>
    refine ⟨cs.takeWhile Text.isBlank, sign, unsigned.takeWhile Numeral.isDigit,
      unsigned.dropWhile Numeral.isDigit, negative, ?_, ?_, hsign, by simpa using nonempty, ?_, ?_,
      h⟩
    · rw [List.append_assoc, List.append_assoc, List.takeWhile_append_dropWhile, ← signed,
        List.takeWhile_append_dropWhile]
    · exact fun c hc => List.all_eq_true.mp List.all_takeWhile c hc
    · exact fun c hc => List.all_eq_true.mp List.all_takeWhile c hc
    · intro c hc
      have stop := unsigned.head?_dropWhile_not Numeral.isDigit
      rw [Option.mem_def.mp hc] at stop
      exact stop

theorem begins_of_ofChars? {s : RawText} {n : Int} (h : ofChars? s.shownChars = some n) :
    Begins s n := by
  obtain ⟨blanks, sign, ds, more, negative, parts, hblanks, hsign, nonempty, digits, ends, value⟩ :=
    exists_run h
  have real : '\uFFFD' ∉ blanks ++ (sign ++ ds) := by
    have unsigned : ∀ p ∈ signs, '\uFFFD' ∉ p.1 := by decide
    rw [List.mem_append, List.mem_append]
    rintro (blank | sign | digit)
    · exact absurd (hblanks _ blank) (by decide)
    · exact unsigned _ hsign sign
    · exact absurd (digits _ digit) (by decide)
  obtain ⟨rest, rfl, rfl⟩ := exists_rest parts real
  obtain ⟨short, rfl⟩ := integerOfDigits?_eq_some_iff.mp value
  refine .run hblanks hsign nonempty (fun c hc => isDigit_eq c ▸ digits c hc) short ?_
  rintro ⟨c, hc, digit⟩
  have other := ends c (by rw [RawText.shownChars, List.head?_map, hc]; rfl)
  rw [isDigit_eq, digit] at other
  cases other

theorem ofJson?_string_eq_some_iff {s : RawText} {n : Int} :
    ofJson? (.string s) = some n ↔ Begins s n :=
  ⟨begins_of_ofChars?, ofChars?_of_begins⟩

/-- Where the text of an integer stands between blanks and what is no digit, the text begins with
that integer. -/
theorem ofJson?_append {n : Int} (h : IsWritable n) {blanks : List Char}
    (hblanks : ∀ c ∈ blanks, Text.isBlank c = true) {rest : RawText}
    (ends : ¬ BeginsWithDigit rest) :
    ofJson? (.string (RawText.ofChars (blanks ++ (integerText n).toList) ++ rest)) = some n := by
  rw [ofJson?, shownChars_append, List.append_assoc]
  exact ofChars?_append h hblanks (head_shownChars ends)

/-- A text names the integer that it begins with, and the default if it begins with none. So an
identifier is read back from its text whatever blanks stand before it and whatever but a digit
follows, and from the record of a device or a link. A finite number names the integer next to it
toward zero. -/
theorem reads_by_grammar :
    (∀ (s : RawText) (default : Int),
      (∀ n, Begins s n → read (.string s) default = n) ∧
      ((∀ n, ¬ Begins s n) → read (.string s) default = default)) ∧
    (∀ (blanks : List Char) (n : Int) (rest : RawText) (default : Int),
      (∀ c ∈ blanks, Text.isBlank c = true) → IsWritable n → ¬ BeginsWithDigit rest →
        read (.string (RawText.ofChars (blanks ++ (integerText n).toList) ++ rest)) default = n) ∧
    (∀ d : Device, IsWritable d.id →
      ∃ record, d.toRecord? = some record ∧ (Device.ofRecord record).id = d.id) ∧
    (∀ l : Link, l.IsWritable → ∃ record, l.toRecord? = some record ∧ Link.ofRecord record = l) ∧
    ∀ (x : Binary64) (v : ℚ) (default : Int), x.value? = some v →
      read (.number (.float x)) default = if v < 0 then ⌈v⌉ else ⌊v⌋ := by
  refine ⟨fun s default => ⟨fun n begins => ?_, fun none => ?_⟩, ?_, ?_, ?_, ?_⟩
  · rw [read, ofJson?_string_eq_some_iff.mpr begins, Option.getD_some]
  · cases named : ofJson? (.string s) with
    | none => rw [read, named, Option.getD_none]
    | some n => exact absurd (ofJson?_string_eq_some_iff.mp named) (none n)
  · intro blanks n rest default hblanks writable ends
    rw [read, ofJson?_append writable hblanks ends, Option.getD_some]
  · intro d writable
    refine ⟨d.record, Device.toRecord?_of_isWritable writable, ?_⟩
    rw [Device.ofRecord_record writable]
    rfl
  · intro l writable
    exact ⟨l.record, Link.toRecord?_of_isWritable writable, Link.ofRecord_object writable⟩
  · intro x v default value
    rw [read, ofJson?, Binary64.truncate?_of_value? value, Option.getD_some]

/-- Seven and a half. -/
def sevenAndAHalf : Magnitude := ⟨8444249301319680, 1024, by decide⟩

theorem value_sevenAndAHalf : sevenAndAHalf.value = 15 / 2 := by
  have units : sevenAndAHalf.units * 2 = 15 * Magnitude.one := by decide +kernel
  have units : (sevenAndAHalf.units : ℚ) * 2 = 15 * (Magnitude.one : ℕ) := by exact_mod_cast units
  rw [Magnitude.value, div_eq_iff Magnitude.one_pos.ne']
  linarith

/-- Leading zeros and what follows the run do not count, a letter in front of it does, a run may be
followed by half of a pair, and a fraction is dropped. -/
theorem reads_by_grammar_unevenly :
    Begins (.ofString "\u3000-007-a") (-7) ∧
    read (.string (.ofString "\u3000-007-a")) 5 = -7 ∧
    (∀ n, ¬ Begins (.ofString "x7") n) ∧ read (.string (.ofString "x7")) 5 = 5 ∧
    (∀ c ∈ ['\t'], Text.isBlank c = true) ∧ IsWritable 12 ∧
    ¬ BeginsWithDigit ⟨[.half ⟨0, by decide⟩]⟩ ∧
    read (.string (RawText.ofChars ('\t' :: (integerText 12).toList) ++
      ⟨[.half ⟨0, by decide⟩]⟩)) 5 = 12 ∧
    (∃ record, (⟨-7, 12⟩ : Link).toRecord? = some record ∧ Link.ofRecord record = ⟨-7, 12⟩) ∧
    (∃ record, ({ id := -7, coordinatesLabel := "" } : Device).toRecord? = some record ∧
      (Device.ofRecord record).id = -7) ∧
    (Binary64.finite true sevenAndAHalf).value? = some (-(15 / 2)) ∧
    read (.number (.float (.finite true sevenAndAHalf))) 5 = -7 := by
  obtain ⟨texts, texts', devices, links, numbers⟩ := reads_by_grammar
  have zeros : Begins (.ofString "\u3000-007-a") (-7) :=
    ofJson?_string_eq_some_iff.mp (by decide +kernel)
  have letter : ∀ n, ¬ Begins (.ofString "x7") n := by
    intro n begins
    have none : ofJson? (.string (.ofString "x7")) = none := by decide +kernel
    rw [ofJson?_string_eq_some_iff.mpr begins] at none
    cases none
  have blank : ∀ c ∈ ['\t'], Text.isBlank c = true := by
    intro c hc
    rw [List.mem_singleton.mp hc]
    decide
  have twelve : IsWritable 12 := by decide +kernel
  have seven : IsWritable (-7) := by decide +kernel
  have half : ¬ BeginsWithDigit ⟨[.half ⟨0, by decide⟩]⟩ := by
    rintro ⟨c, head, -⟩
    cases head
  have value : (Binary64.finite true sevenAndAHalf).value? = some (-(15 / 2)) := by
    rw [Binary64.value?, value_sevenAndAHalf]
    rfl
  refine ⟨zeros, (texts _ 5).1 _ zeros, letter, (texts _ 5).2 letter, blank, twelve, half,
    texts' ['\t'] 12 _ 5 blank twelve half, links _ ⟨seven, twelve⟩, devices _ seven, value, ?_⟩
  rw [numbers _ _ 5 value]
  norm_num

end Topograph.Identifier
