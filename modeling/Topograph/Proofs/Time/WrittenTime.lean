import Mathlib.Algebra.Group.Nat.Defs
import Mathlib.Data.List.TakeWhile
import Topograph.Proofs.Number.IntegerText
import Topograph.Time.Reader

/-!
# Timestamps read back

A timestamp in universal time is read back from its text, whether offset zero is written as `Z` or
as a clock writes it, with hours and minutes.
-/
namespace Topograph.Timestamp
open Topograph.Number

/-- Noon on the first day of a year. -/
def noon : Timestamp := ⟨⟨2024, 1, 1, by decide⟩, ⟨12, 0, 0, 0, by decide⟩, none⟩

example : noon.stamp = "2024-01-01T12:00:00+00:00" := by decide

/-- The same date and time of day in universal time. -/
def universal (t : Timestamp) : Timestamp := { t with offset := some 0 }

/-! ## Padded numbers -/

theorem length_padded (width n : Nat) : (padded width n).length = width := by
  induction width generalizing n with
  | zero => rfl
  | succ width ih => rw [padded, List.length_append, ih, List.length_singleton]

theorem isDigit_of_mem_padded {width n : Nat} {c : Char} (h : c ∈ padded width n) :
    Numeral.isDigit c = true := by
  induction width generalizing n with
  | zero => cases h
  | succ width ih =>
    rw [padded, List.mem_append, List.mem_singleton] at h
    rcases h with h | rfl
    · exact ih h
    · exact Numeral.isDigit_digitChar (Nat.mod_lt n (by decide))

theorem value_padded {width n : Nat} (h : n < 10 ^ width) : Numeral.value (padded width n) = n := by
  induction width generalizing n with
  | zero =>
    rw [Nat.pow_zero, Nat.lt_one_iff] at h
    rw [h]
    rfl
  | succ width ih =>
    have rest : n / 10 < 10 ^ width := by
      rw [Nat.pow_succ] at h
      omega
    rw [padded, Numeral.value_append, ih rest,
      Numeral.digitValue_digitChar (Nat.mod_lt n (by decide))]
    omega

theorem digits?_padded {width n : Nat} (h : n < 10 ^ width) (rest : List Char) :
    digits? width (padded width n ++ rest) = some (n, rest) := by
  have front : (padded width n ++ rest).take width = padded width n := by
    rw [List.take_append_of_le_length (length_padded width n).ge,
      List.take_of_length_le (length_padded width n).le]
  have back : (padded width n ++ rest).drop width = rest := by
    rw [List.drop_append_of_le_length (length_padded width n).ge,
      List.drop_of_length_le (length_padded width n).le, List.nil_append]
  have all : (padded width n).all Numeral.isDigit = true := by
    rw [List.all_eq_true]
    exact fun c hc => isDigit_of_mem_padded hc
  rw [digits?, front, back, value_padded h]
  exact if_pos ⟨length_padded width n, all⟩

theorem skip?_cons (c : Char) (rest : List Char) : skip? c (c :: rest) = some rest := if_pos rfl

/-! ## Dates and times of day -/

theorem daysInMonth_le (year month : Nat) : Time.daysInMonth year month ≤ 31 := by
  unfold Time.daysInMonth
  split
  · split <;> decide
  · split
    · decide
    · split <;> decide

theorem readDate?_padded (d : Time.Date) (rest : List Char) :
    readDate? (padded 4 d.year ++ '-' :: (padded 2 d.month ++ '-' :: (padded 2 d.day ++ rest))) =
      some (⟨d.year, d.month, d.day⟩, rest) := by
  have valid := d.valid
  have days := daysInMonth_le d.year d.month
  rw [readDate?, digits?_padded (by omega)]
  simp only [Option.bind_eq_bind, Option.bind_some, skip?_cons]
  rw [digits?_padded (by omega)]
  simp only [Option.bind_some, skip?_cons]
  rw [digits?_padded (by omega)]
  simp only [Option.bind_some]
  rw [if_pos ⟨by omega, by omega⟩]

/-- The fraction as it is written. -/
def fractionChars (micro : Nat) : List Char := if micro = 0 then [] else '.' :: padded 6 micro

/-- What may stand after a time of day: no further digit, and no point. -/
def EndsClock (rest : List Char) : Prop :=
  ∀ c ∈ rest.head?, Numeral.isDigit c = false ∧ c ≠ '.' ∧ c ≠ ','

theorem readFraction?_fractionChars {micro : Nat} (h : micro < 1000000) {rest : List Char}
    (ends : EndsClock rest) : readFraction? (fractionChars micro ++ rest) = some (micro, rest) := by
  unfold fractionChars
  by_cases zero : micro = 0
  · rw [if_pos zero, List.nil_append, zero]
    cases rest with
    | nil => rfl
    | cons c rest =>
      obtain ⟨-, point, comma⟩ := ends c rfl
      exact if_neg (by simp [point, comma])
  · have digits : (padded 6 micro ++ rest).takeWhile Numeral.isDigit = padded 6 micro := by
      have stop : rest.takeWhile Numeral.isDigit = [] := by
        cases rest with
        | nil => rfl
        | cons c rest => simp [(ends c rfl).1]
      rw [List.takeWhile_append_of_pos fun c hc => isDigit_of_mem_padded hc, stop, List.append_nil]
    have nonempty : (padded 6 micro).isEmpty = false := by
      rw [List.isEmpty_eq_false_iff, ← List.length_pos_iff, length_padded]
      decide
    have six : (padded 6 micro ++ List.replicate 6 '0').take 6 = padded 6 micro := by
      rw [List.take_append_of_le_length (length_padded 6 micro).ge,
        List.take_of_length_le (length_padded 6 micro).le]
    have after : (padded 6 micro ++ rest).drop 6 = rest := by
      rw [List.drop_append_of_le_length (length_padded 6 micro).ge,
        List.drop_of_length_le (length_padded 6 micro).le, List.nil_append]
    have value : Numeral.value (padded 6 micro) = micro := value_padded h
    rw [if_neg zero, List.cons_append, readFraction?, if_pos (.inl rfl), digits]
    simp only [nonempty, six, length_padded, after, value, Bool.false_eq_true, if_false]

theorem ofParts?_clock (c : Time.Clock) :
    Time.Clock.ofParts? c.hour c.minute c.second c.micro = some c := dif_pos c.valid

theorem ofParts?_date (d : Time.Date) : Time.Date.ofParts? d.year d.month d.day = some d :=
  dif_pos d.valid

theorem readClock?_padded (c : Time.Clock) {rest : List Char} (ends : EndsClock rest) :
    readClock? (padded 2 c.hour ++ ':' :: (padded 2 c.minute ++ ':' :: (padded 2 c.second ++
      (fractionChars c.micro ++ rest)))) = some (c, rest) := by
  have valid := c.valid
  rw [readClock?, digits?_padded (by omega)]
  simp only [Option.bind_eq_bind, Option.bind_some, skip?_cons]
  rw [digits?_padded (by omega)]
  simp only [Option.bind_some, skip?_cons]
  rw [digits?_padded (by omega)]
  simp only [Option.bind_some, readFraction?_fractionChars valid.2.2.2 ends, pure,
    ofParts?_clock]

/-- A timestamp in front of a written offset is read back. -/
theorem ofCalendarChars_localChars (t : Timestamp) {zone : List Char} (ends : EndsClock zone)
    {offset : Option Int} (h : readOffset? zone = some offset) :
    ofCalendarChars (t.localChars ++ zone) = .timestamp { t with offset } := by
  have chars : t.localChars ++ zone = padded 4 t.date.year ++ '-' :: (padded 2 t.date.month ++
      '-' :: (padded 2 t.date.day ++ 'T' :: (padded 2 t.clock.hour ++ ':' ::
      (padded 2 t.clock.minute ++ ':' :: (padded 2 t.clock.second ++
      (fractionChars t.clock.micro ++ zone)))))) := by
    simp [localChars, fractionChars]
  have time : readTime? ('T' :: (padded 2 t.clock.hour ++ ':' :: (padded 2 t.clock.minute ++
      ':' :: (padded 2 t.clock.second ++ (fractionChars t.clock.micro ++ zone))))) =
      some (t.clock, offset) := by
    rw [readTime?, if_pos (by simp), readClock?_padded t.clock ends]
    simp only [Option.bind_eq_bind, Option.bind_some, h, pure]
  rw [chars, ofCalendarChars, readDate?_padded]
  simp only [time, ofParts?_date]

theorem checkChars_localChars (t : Timestamp) {zone : List Char} (ends : EndsClock zone)
    {offset : Option Int} (h : readOffset? zone = some offset) :
    checkChars (t.localChars ++ zone) = .ok { t with offset } := by
  rw [checkChars, ofChars, ofCalendarChars_localChars t ends h]

/-- The text of a clock is read as the time it tells. -/
theorem check_stamp (o : Validation.Origin) (t : Timestamp) :
    check o (.string t.stamp) = .ok t.universal := by
  rw [check, Validation.reading, RawText.ofString, RawText.chars?_ofChars, stamp,
    String.toList_ofList]
  exact checkChars_localChars t (by rintro c ⟨⟩; decide) rfl

/-- A timestamp in universal time is read back from its text. -/
theorem check_text (o : Validation.Origin) {t : Timestamp} (h : t.offset = some 0) :
    check o (.string t.text) = .ok t := by
  have same : t.universal = t := by
    rw [universal, ← h]
  rw [check, Validation.reading, RawText.ofString, RawText.chars?_ofChars, text,
    String.toList_ofList, h]
  exact (checkChars_localChars t (by rintro c ⟨⟩; decide) rfl).trans (congrArg _ same)

end Topograph.Timestamp
