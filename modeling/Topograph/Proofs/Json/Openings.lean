import Topograph.Json.Reader

/-!
# Where a reader stops

A reader takes letters from the front of a text and leaves the others. It runs out of levels only at
a bracket that opens an array or an object, and by then it has passed one such bracket for every
level. So a text with no more opening brackets than levels is read to its end, or to where it is no
document.
-/
namespace Topograph.Json.Reader
open Topograph.Number

/-- How many arrays and objects the letters can open. -/
def openings (ls : List Letter) : Nat :=
  ls.countP fun l => l = .char '[' || l = .char '{'

theorem openings_le {ls rest : List Letter} (h : rest <:+ ls) : openings rest ≤ openings ls :=
  h.sublist.countP_le

/-- A step of a reader that has these letters before it and so many levels left: it takes letters
from the front, and it stops for the nesting only if more can be opened than there are levels. -/
structure IsShallow {α : Type} (levels : Nat) (ls : List Letter) (step : Step α) : Prop where
  leaves : ∀ a rest, step = .ok (a, rest) → rest <:+ ls
  stops : step = .error .tooDeep → levels < openings ls

namespace IsShallow
variable {α : Type} {levels : Nat} {ls inner rest : List Letter} {step : Step α} {l : Letter}

theorem ok (a : α) (h : rest <:+ ls) : IsShallow levels ls (.ok (a, rest) : Step α) where
  leaves := by
    rintro _ _ ⟨⟩
    exact h
  stops := nofun

theorem error {e : Stop} (h : e ≠ .tooDeep) : IsShallow levels ls (.error e : Step α) where
  leaves := nofun
  stops := by
    rintro ⟨⟩
    exact absurd rfl h

/-- The failure of one step is that of another one. -/
theorem failed {β : Type} {e : Stop} (h : IsShallow levels ls (.error e : Step α)) :
    IsShallow levels ls (.error e : Step β) where
  leaves := nofun
  stops := by
    rintro ⟨⟩
    exact h.stops rfl

theorem within (h : IsShallow levels inner step) (left : inner <:+ ls) :
    IsShallow levels ls step where
  leaves := fun a rest ends => (h.leaves a rest ends).trans left
  stops := fun deep => Nat.lt_of_lt_of_le (h.stops deep) (openings_le left)

theorem nested (h : IsShallow levels inner step) (left : inner <:+ rest)
    (opens : l = .char '[' ∨ l = .char '{') : IsShallow (levels + 1) (l :: rest) step where
  leaves := fun a rest ends => ((h.leaves a rest ends).trans left).trans (List.suffix_cons _ _)
  stops := by
    intro deep
    have more := Nat.lt_of_lt_of_le (h.stops deep) (openings_le left)
    rw [openings, List.countP_cons_of_pos (by simpa using opens)]
    exact Nat.succ_lt_succ more

theorem full (opens : l = .char '[' ∨ l = .char '{') :
    IsShallow 0 (l :: rest) (.error .tooDeep : Step α) where
  leaves := nofun
  stops := by
    intro
    rw [openings, List.countP_cons_of_pos (by simpa using opens)]
    exact Nat.succ_pos _

end IsShallow

/-! ## Strings -/

theorem suffix_skipSpace (ls : List Letter) : skipSpace ls <:+ ls := List.dropWhile_suffix _

theorem suffix_of_skipSpace {ls rest : List Letter} {l : Letter} (h : skipSpace ls = l :: rest) :
    rest <:+ ls := (List.suffix_cons l rest).trans (h ▸ suffix_skipSpace ls)

theorem suffix_of_hexFour? {ls rest : List Letter} {l : Letter}
    (h : hexFour? ls = some (l, rest)) : rest <:+ ls := by
  unfold hexFour? at h
  split at h
  · rename_i a b c d e more
    simp only [Option.bind_eq_bind, Option.bind_eq_some_iff, Option.some.injEq,
      Prod.mk.injEq] at h
    obtain ⟨-, -, -, -, -, -, -, -, -, -, -, rfl⟩ := h
    exact ⟨[.char a, .char b, .char c, .char d], rfl⟩
  · cases h

theorem isShallow_readCode (levels : Nat) (ls : List Letter) :
    IsShallow levels ls (readCode ls) := by
  unfold readCode
  split
  · exact .error nofun
  · rename_i u more
    split
    · exact .error nofun
    · rename_i high after first
      have left : after <:+ u :: more := (suffix_of_hexFour? first).trans (List.suffix_cons _ _)
      split
      · split
        · split
          · exact .error nofun
          · rename_i low afterPair second
            have pair : afterPair <:+ u :: more :=
              (suffix_of_hexFour? second).trans (List.IsSuffix.trans ⟨[_, _], rfl⟩ left)
            split
            · exact .ok _ pair
            · exact .ok _ left
        · exact .ok _ left
      · exact .ok _ left

theorem isShallow_readString (strict : Bool) (start : List Letter) (fuel levels : Nat)
    (ls done : List Letter) : IsShallow levels ls (readString strict start fuel ls done) := by
  induction fuel generalizing ls done with
  | zero => exact .error nofun
  | succ fuel ih =>
    cases ls with
    | nil => exact .error nofun
    | cons l more =>
      rw [readString.eq_def]
      simp only
      split
      · exact .ok _ (List.suffix_cons _ _)
      · split
        · split
          · exact .error nofun
          · rename_i digits
            have coded := isShallow_readCode levels (.char 'u' :: digits)
            split
            · rename_i e failed
              rw [failed] at coded
              exact coded.failed.within (List.suffix_cons _ _)
            · rename_i read after code
              split
              · exact .error nofun
              · exact (ih after _).within
                  ((coded.leaves _ _ code).trans (List.suffix_cons _ _))
          · split
            · exact (ih _ _).within ⟨[_, _], rfl⟩
            · exact .error nofun
        · split
          · exact .error nofun
          · exact (ih _ _).within (List.suffix_cons _ _)

/-! ## Numbers and words -/

theorem suffix_spanDigits (ls : List Letter) : (spanDigits ls).2 <:+ ls := List.dropWhile_suffix _

theorem suffix_of_fraction? {ls rest : List Letter} {ds : List Char}
    (h : fraction? ls = some (ds, rest)) : rest <:+ ls := by
  unfold fraction? at h
  split at h
  · rename_i more
    have left := suffix_spanDigits more
    split at h
    rename_i digits after spanned
    rw [spanned] at left
    split at h <;> cases h
    exact left.trans (List.suffix_cons _ _)
  · cases h

theorem suffix_splitSign (ls : List Letter) : (splitSign ls).2 <:+ ls := by
  unfold splitSign
  split
  · exact List.suffix_cons _ _
  · exact List.suffix_cons _ _
  · exact List.suffix_rfl

theorem suffix_of_exponent? {ls rest : List Letter} {e : Int}
    (h : exponent? ls = some (e, rest)) : rest <:+ ls := by
  unfold exponent? at h
  split at h
  · rename_i mark more
    split at h
    · have unsigned := suffix_splitSign more
      split at h
      rename_i negative digits signed
      rw [signed] at unsigned
      have left := (suffix_spanDigits digits).trans unsigned
      split at h
      rename_i ds after spanned
      rw [spanned] at left
      split at h <;> cases h
      exact left.trans (List.suffix_cons _ _)
    · cases h
  · cases h

theorem suffix_of_finishNumber {strict negative : Bool} {whole : List Char} {ls rest : List Letter}
    {n : Number} (h : finishNumber strict negative whole ls = .ok (n, rest)) : rest <:+ ls := by
  unfold finishNumber at h
  cases fraction : fraction? ls with
  | none =>
    simp only [fraction] at h
    cases power : exponent? ls with
    | none =>
      simp only [power] at h
      grind
    | some p =>
      have left := suffix_of_exponent? power
      simp only [power] at h
      grind
  | some p =>
    have first := suffix_of_fraction? fraction
    simp only [fraction] at h
    cases power : exponent? p.2 with
    | none =>
      simp only [power] at h
      grind
    | some q =>
      have left := (suffix_of_exponent? power).trans first
      simp only [power] at h
      grind

theorem finishNumber_ne_tooDeep {strict negative : Bool} {whole : List Char} {ls : List Letter} :
    finishNumber strict negative whole ls ≠ .error .tooDeep := by
  unfold finishNumber
  grind

/-- A number is finished somewhere in the text. -/
theorem exists_finishNumber (strict : Bool) (ls : List Letter) :
    (∃ negative whole after, after <:+ ls ∧
      readNumber strict ls = finishNumber strict negative whole after) ∨
    readNumber strict ls = .error (.unexpected ls) := by
  unfold readNumber
  split
  rename_i negative unsigned signed
  have left : unsigned <:+ ls := by
    split at signed <;> cases signed
    · exact List.suffix_cons _ _
    · exact List.suffix_rfl
  split
  · exact .inl ⟨_, _, _, (List.suffix_cons _ _).trans left, rfl⟩
  · have digits := suffix_spanDigits unsigned
    split
    rename_i ds after spanned
    rw [spanned] at digits
    split
    · exact .inr rfl
    · exact .inl ⟨_, _, _, digits.trans left, rfl⟩

theorem isShallow_readNumber (strict : Bool) (levels : Nat) (ls : List Letter) :
    IsShallow levels ls (readNumber strict ls) := by
  rcases exists_finishNumber strict ls with ⟨negative, whole, after, left, finished⟩ | unread
  · rw [finished]
    exact ⟨fun _ _ read => (suffix_of_finishNumber read).trans left,
      fun deep => absurd deep finishNumber_ne_tooDeep⟩
  · rw [unread]
    exact .error nofun

theorem suffix_of_word? {ls rest : List Letter} {v : Json} (h : word? ls = some (v, rest)) :
    rest <:+ ls := by
  obtain ⟨w, -, found⟩ := List.exists_of_findSome?_eq_some h
  simp only at found
  split at found
  · cases found
    exact List.drop_suffix _ _
  · cases found

/-! ## Values -/

/-- Also an array or an object without anything in it needs a level, save by the strict rules. -/
theorem isShallow_empty {strict : Bool} {levels : Nat} {l : Letter} {rest after : List Letter}
    (opens : l = .char '[' ∨ l = .char '{') (left : after <:+ rest) (v : Json) :
    IsShallow levels (l :: rest)
      (if levels = 0 && !strict then .error .tooDeep else .ok (v, after)) := by
  split
  · rename_i none
    obtain rfl : levels = 0 := by simp_all
    exact .full opens
  · exact .ok _ (left.trans (List.suffix_cons _ _))

/-- With some fuel, every value, and the rest of every array and object, is read so. -/
structure StaysShallow (strict : Bool) (fuel : Nat) : Prop where
  value : ∀ levels ls, IsShallow levels ls (readValue strict levels fuel ls)
  items : ∀ levels ls done, IsShallow levels ls (readItems strict levels fuel ls done)
  fields : ∀ levels ls done, IsShallow levels ls (readFields strict levels fuel ls done)

section
variable {strict : Bool} {fuel : Nat} (h : StaysShallow strict fuel) (levels : Nat)
  (ls : List Letter)
include h

theorem isShallow_readValue : IsShallow levels ls (readValue strict levels (fuel + 1) ls) := by
  rw [readValue.eq_def]
  simp only
  split
  · rename_i rest
    have read := isShallow_readString strict (.char '"' :: rest) fuel levels rest []
    split
    · rename_i s after ok
      exact .ok _ ((read.leaves _ _ ok).trans (List.suffix_cons _ _))
    · rename_i e failed
      rw [failed] at read
      exact read.failed.within (List.suffix_cons _ _)
  · rename_i rest
    split
    · rename_i after closed
      exact isShallow_empty (.inl rfl) (suffix_of_skipSpace closed) _
    · split
      · exact .full (.inl rfl)
      · exact (h.items _ _ []).nested (suffix_skipSpace rest) (.inl rfl)
  · rename_i rest
    split
    · rename_i after closed
      exact isShallow_empty (.inr rfl) (suffix_of_skipSpace closed) _
    · split
      · exact .full (.inr rfl)
      · exact (h.fields _ _ []).nested (suffix_skipSpace rest) (.inr rfl)
  · split
    · rename_i word
      exact .ok _ (suffix_of_word? word)
    · have read := isShallow_readNumber strict levels ls
      split
      · rename_i number
        exact .ok _ (read.leaves _ _ number)
      · rename_i e failed
        rw [failed] at read
        exact read.failed

theorem isShallow_readItems (done : List Json) :
    IsShallow levels ls (readItems strict levels (fuel + 1) ls done) := by
  rw [readItems]
  have read := h.value levels ls
  split
  · rename_i e failed
    rw [failed] at read
    exact read.failed
  · rename_i v after value
    have left := read.leaves _ _ value
    split
    · rename_i rest closed
      exact .ok _ ((suffix_of_skipSpace closed).trans left)
    · rename_i rest separated
      exact (h.items _ _ _).within
        (((suffix_skipSpace rest).trans (suffix_of_skipSpace separated)).trans left)
    · exact .error nofun

theorem isShallow_readFields (done : List (RawText × Json)) :
    IsShallow levels ls (readFields strict levels (fuel + 1) ls done) := by
  rw [readFields.eq_def]
  simp only
  split
  · rename_i rest
    have read := isShallow_readString strict (.char '"' :: rest) fuel levels rest []
    split
    · rename_i e failed
      rw [failed] at read
      exact read.failed.within (List.suffix_cons _ _)
    · rename_i key afterKey named
      have left := (read.leaves _ _ named).trans (List.suffix_cons (.char '"') _)
      split
      · rename_i beforeValue colon
        have begins := ((suffix_skipSpace beforeValue).trans (suffix_of_skipSpace colon)).trans left
        have inner := h.value levels (skipSpace beforeValue)
        split
        · rename_i e failed
          rw [failed] at inner
          exact inner.failed.within begins
        · rename_i v after value
          have ends := (inner.leaves _ _ value).trans begins
          split
          · rename_i rest closed
            exact .ok _ ((suffix_of_skipSpace closed).trans ends)
          · rename_i rest separated
            exact (h.fields _ _ _).within
              (((suffix_skipSpace rest).trans (suffix_of_skipSpace separated)).trans ends)
          · exact .error nofun
      · exact .error nofun
  · exact .error nofun

end

theorem staysShallow (strict : Bool) (fuel : Nat) : StaysShallow strict fuel := by
  induction fuel with
  | zero =>
    constructor
    · exact fun levels ls => .error nofun
    · exact fun levels ls done => .error nofun
    · exact fun levels ls done => .error nofun
  | succ fuel ih =>
    constructor
    · exact isShallow_readValue ih
    · exact isShallow_readItems ih
    · exact isShallow_readFields ih

theorem lt_openings_of_readAll {strict : Bool} {levels : Nat} {ls : List Letter}
    (h : readAll strict levels ls = .error .tooDeep) : levels < openings ls := by
  unfold readAll at h
  split at h
  · cases h
    rename_i deep
    exact Nat.lt_of_lt_of_le (((staysShallow strict _).value _ _).stops deep)
      (openings_le (suffix_skipSpace ls))
  · split at h <;> cases h

end Reader

/-- A text that opens no more arrays and objects than there is headroom for does not nest too
deep. -/
theorem lt_openings_of_read {headroom : Headroom} {s : RawText}
    (h : read headroom s = .error .tooDeep) : headroom.levels < Reader.openings s.letters := by
  unfold read at h
  split at h <;> cases h
  exact Reader.lt_openings_of_readAll ‹_›

end Topograph.Json
