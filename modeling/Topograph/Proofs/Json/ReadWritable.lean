import Topograph.Json.Body
import Topograph.Proofs.Json.Fields

/-!
# Read documents are writable

Whatever text a document is read from, each of its integers is within the digit limit.
-/
namespace Topograph.Json

theorem fieldsAreWritable_iff (fields : List (RawText × Json)) :
    FieldsAreWritable fields ↔ ∀ f ∈ fields, f.2.IsWritable := by
  induction fields with
  | nil => simp [FieldsAreWritable]
  | cons f rest ih => rw [FieldsAreWritable, ih, List.forall_mem_cons]

theorem forall_setField {p : Json → Prop} {key : RawText} {value : Json} (hvalue : p value)
    {fields : List (RawText × Json)} (h : ∀ f ∈ fields, p f.2) :
    ∀ f ∈ setField key value fields, p f.2 := by
  induction fields with
  | nil => simpa [setField] using hvalue
  | cons f rest ih =>
    rw [List.forall_mem_cons] at h
    rw [setField]
    split
    · exact List.forall_mem_cons.mpr ⟨hvalue, h.2⟩
    · exact List.forall_mem_cons.mpr ⟨h.1, ih h.2⟩

theorem isWritable_ofArrivals {arrivals : List (RawText × Json)}
    (h : ∀ f ∈ arrivals, f.2.IsWritable) : (ofArrivals arrivals).IsWritable := by
  have kept : ∀ f ∈ arrivals.foldl (fun fields f => setField f.1 f.2 fields) [],
      f.2.IsWritable := by
    induction arrivals using List.reverseRecOn with
    | nil => simp
    | append_singleton arrivals f ih =>
      have before := ih fun g hg => h g (List.mem_append_left _ hg)
      rw [List.foldl_append]
      exact forall_setField (h f (by simp)) before
  exact (fieldsAreWritable_iff _).mpr kept

namespace Reader
open Topograph.Number

theorem isDigit_of_mem_spanDigits {ls : List Letter} {c : Char} (h : c ∈ (spanDigits ls).1) :
    Numeral.isDigit c = true := by
  obtain ⟨l, taken, rfl⟩ := List.mem_map.mp h
  have digit := List.all_takeWhile (p := Letter.isIn Numeral.isDigit) (l := ls)
  have isIn := List.all_eq_true.mp digit l taken
  cases l with
  | char c => exact isIn
  | half n => exact absurd isIn (by simp [Letter.isIn])

/-- A number with a fraction or a power is binary, and any other is the integer of its digits. -/
theorem finishNumber_cases {strict negative : Bool} {whole : List Char} {ls rest : List Letter}
    {n : Number} (h : finishNumber strict negative whole ls = .ok (n, rest)) :
    (∃ x, n = .float x) ∨ ∃ k, integerOfDigits? negative whole = some k ∧ n = .int k := by
  unfold finishNumber at h
  grind

theorem isWritable_of_finishNumber {strict negative : Bool} {whole : List Char}
    (digits : ∀ c ∈ whole, Numeral.isDigit c = true) {ls rest : List Letter} {n : Number}
    (h : finishNumber strict negative whole ls = .ok (n, rest)) : (Json.number n).IsWritable := by
  rcases finishNumber_cases h with ⟨x, rfl⟩ | ⟨k, read, rfl⟩
  · trivial
  · exact isWritable_of_integerOfDigits? digits read

/-- The whole part of a number is a zero alone, or all digits that stand there. -/
theorem readNumber_cases {strict : Bool} {ls rest : List Letter} {n : Number}
    (h : readNumber strict ls = .ok (n, rest)) : ∃ negative whole after,
      (whole = ['0'] ∨ ∃ unsigned, whole = (spanDigits unsigned).1) ∧
        finishNumber strict negative whole after = .ok (n, rest) := by
  unfold readNumber at h
  grind

theorem isWritable_of_readNumber {strict : Bool} {ls rest : List Letter} {n : Number}
    (h : readNumber strict ls = .ok (n, rest)) : (Json.number n).IsWritable := by
  obtain ⟨negative, whole, after, begins, finished⟩ := readNumber_cases h
  apply isWritable_of_finishNumber _ finished
  rcases begins with rfl | ⟨unsigned, rfl⟩
  · intro c hc
    rw [List.mem_singleton.mp hc]
    rfl
  · exact fun c hc => isDigit_of_mem_spanDigits hc

theorem isWritable_of_word? {ls rest : List Letter} {v : Json} (h : word? ls = some (v, rest)) :
    v.IsWritable := by
  obtain ⟨w, hw, found⟩ := List.exists_of_findSome?_eq_some h
  have writable : ∀ w ∈ words, w.2.IsWritable := by
    simp only [words, List.forall_mem_cons]
    exact ⟨trivial, trivial, trivial, trivial, trivial, trivial, by simp⟩
  simp only at found
  split at found
  · obtain ⟨rfl, -⟩ := Prod.mk.inj (Option.some.inj found)
    exact writable w hw
  · exact absurd found (by simp)

/-- Only writable documents come out of this step of the reader. -/
def YieldsWritable (step : Step Json) : Prop := ∀ v rest, step = .ok (v, rest) → v.IsWritable

theorem yieldsWritable_error (e : Stop) : YieldsWritable (.error e) := by
  intro v rest h
  cases h

theorem yieldsWritable_ok {v : Json} (h : v.IsWritable) (rest : List Letter) :
    YieldsWritable (.ok (v, rest)) := by
  rintro _ _ ⟨⟩
  exact h

/-- With some fuel, elements and fields that are read after writable ones make a writable array
or object. -/
def Continues (strict : Bool) (fuel : Nat) : Prop :=
  (∀ levels ls, YieldsWritable (readValue strict levels fuel ls)) ∧
  (∀ levels ls done, (∀ v ∈ done, v.IsWritable) →
    YieldsWritable (readItems strict levels fuel ls done)) ∧
  ∀ levels ls done, (∀ f ∈ done, f.2.IsWritable) →
    YieldsWritable (readFields strict levels fuel ls done)

theorem yieldsWritable_readValue {strict : Bool} {fuel : Nat} (h : Continues strict fuel)
    (levels : Nat) (ls : List Letter) : YieldsWritable (readValue strict levels (fuel + 1) ls) := by
  rw [readValue.eq_def]
  simp only
  split
  · split
    · apply yieldsWritable_ok
      trivial
    · exact yieldsWritable_error _
  · split
    · split
      · exact yieldsWritable_error _
      · apply yieldsWritable_ok
        trivial
    · split
      · exact yieldsWritable_error _
      · exact h.2.1 _ _ [] (by simp)
  · split
    · split
      · exact yieldsWritable_error _
      · apply yieldsWritable_ok
        trivial
    · split
      · exact yieldsWritable_error _
      · exact h.2.2 _ _ [] (by simp)
  · split
    · rename_i word
      exact yieldsWritable_ok (isWritable_of_word? word) _
    · split
      · rename_i number
        exact yieldsWritable_ok (isWritable_of_readNumber number) _
      · exact yieldsWritable_error _

theorem yieldsWritable_readItems {strict : Bool} {fuel : Nat} (h : Continues strict fuel)
    (levels : Nat) (ls : List Letter) {done : List Json} (hdone : ∀ v ∈ done, v.IsWritable) :
    YieldsWritable (readItems strict levels (fuel + 1) ls done) := by
  rw [readItems]
  split
  · exact yieldsWritable_error _
  · rename_i v after value
    have more : ∀ w ∈ v :: done, w.IsWritable :=
      List.forall_mem_cons.mpr ⟨h.1 levels ls v after value, hdone⟩
    split
    · have items : (Json.array (v :: done).reverse).IsWritable :=
        (areWritable_iff _).mpr fun w hw => more w (List.mem_reverse.mp hw)
      exact yieldsWritable_ok items _
    · exact h.2.1 _ _ _ more
    · exact yieldsWritable_error _

theorem yieldsWritable_readFields {strict : Bool} {fuel : Nat} (h : Continues strict fuel)
    (levels : Nat) (ls : List Letter) {done : List (RawText × Json)}
    (hdone : ∀ f ∈ done, f.2.IsWritable) :
    YieldsWritable (readFields strict levels (fuel + 1) ls done) := by
  rw [readFields.eq_def]
  simp only
  split
  · split
    · exact yieldsWritable_error _
    · rename_i key afterKey _
      split
      · rename_i beforeValue _
        split
        · exact yieldsWritable_error _
        · rename_i v after value
          have more : ∀ f ∈ (key, v) :: done, f.2.IsWritable :=
            List.forall_mem_cons.mpr ⟨h.1 levels _ v after value, hdone⟩
          split
          · have fields : (ofArrivals ((key, v) :: done).reverse).IsWritable :=
              isWritable_ofArrivals fun f hf => more f (List.mem_reverse.mp hf)
            exact yieldsWritable_ok fields _
          · exact h.2.2 _ _ _ more
          · exact yieldsWritable_error _
      · exact yieldsWritable_error _
  · exact yieldsWritable_error _

theorem continues (strict : Bool) (fuel : Nat) : Continues strict fuel := by
  induction fuel with
  | zero =>
    refine ⟨?_, ?_, ?_⟩
    · exact fun levels ls => yieldsWritable_error (.unexpected ls)
    · exact fun levels ls done _ => yieldsWritable_error (.unexpected ls)
    · exact fun levels ls done _ => yieldsWritable_error (.unexpected ls)
  | succ fuel ih =>
    refine ⟨?_, ?_, ?_⟩
    · exact yieldsWritable_readValue ih
    · exact fun levels ls done hdone => yieldsWritable_readItems ih levels ls hdone
    · exact fun levels ls done hdone => yieldsWritable_readFields ih levels ls hdone

theorem isWritable_of_readAll {strict : Bool} {levels : Nat} {ls : List Letter} {v : Json}
    (h : readAll strict levels ls = .ok v) : v.IsWritable := by
  unfold readAll at h
  split at h
  · exact absurd h (by simp)
  · rename_i w after value
    split at h
    · obtain rfl := Except.ok.inj h
      exact (continues strict _).1 _ _ _ _ value
    · exact absurd h (by simp)

end Reader

theorem isWritable_of_read {headroom : Headroom} {s : RawText} {v : Json}
    (h : read headroom s = .ok v) : v.IsWritable := by
  unfold read at h
  split at h
  · rename_i read
    obtain rfl := Except.ok.inj h
    exact Reader.isWritable_of_readAll read
  · exact absurd h (by simp)
  · exact absurd h (by simp)
  · exact absurd h (by simp)

theorem isWritable_of_readBody? {headroom : Headroom} {bs : Bytes} {v : Json}
    (h : readBody? headroom bs = some (.ok v)) : v.IsWritable := by
  obtain ⟨s, -, read⟩ := Option.map_eq_some_iff.mp h
  exact isWritable_of_read read

end Topograph.Json
