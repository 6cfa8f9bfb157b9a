import Topograph.Json.Reader
import Topograph.Json.Writer
import Topograph.Proofs.Number.DecimalText
import Topograph.Proofs.Number.IntegerText

/-!
# Reading a written number

A number that a document writes is read back as it was, if what stands after it does not go on
with a number: an integer within the digit limit as that integer, and a finite binary value by its
shortest decimal, with its sign also for zero.
-/
namespace Topograph.Json.Reader
open Topograph.Number

/-- The characters do not begin with one that a number could go on with. -/
def EndsNumber (cs : List Char) : Prop :=
  ∀ c ∈ cs.head?, c ≠ '.' ∧ c ≠ 'e' ∧ c ≠ 'E' ∧ Numeral.isDigit c = false

theorem endsNumber_nil : EndsNumber [] := by simp [EndsNumber]

theorem endsNumber_cons {c : Char} (cs : List Char)
    (h : c ≠ '.' ∧ c ≠ 'e' ∧ c ≠ 'E' ∧ Numeral.isDigit c = false) : EndsNumber (c :: cs) := by
  intro c' hc'
  obtain rfl : c = c' := by simpa using hc'
  exact h

theorem spanDigits_append {ds cs : List Char} (hds : ∀ c ∈ ds, Numeral.isDigit c = true)
    (hcs : ∀ c ∈ cs.head?, Numeral.isDigit c = false) :
    spanDigits ((ds ++ cs).map .char) = (ds, cs.map .char) := by
  have isIn : Letter.isIn Numeral.isDigit ∘ Letter.char = Numeral.isDigit := rfl
  have shown : Letter.shown ∘ Letter.char = id := rfl
  have take : cs.takeWhile Numeral.isDigit = [] := by
    cases cs with
    | nil => rfl
    | cons c cs => exact List.takeWhile_cons_of_neg (by simp [hcs c (by simp)])
  have drop : cs.dropWhile Numeral.isDigit = cs := by
    cases cs with
    | nil => rfl
    | cons c cs => exact List.dropWhile_cons_of_neg (by simp [hcs c (by simp)])
  unfold spanDigits
  rw [List.takeWhile_map, List.dropWhile_map, isIn, List.takeWhile_append_of_pos hds,
    List.dropWhile_append_of_pos hds, take, drop, List.map_map, shown, List.append_nil, List.map_id]

theorem fraction?_eq_none {cs : List Char} (h : ∀ c ∈ cs.head?, c ≠ '.') :
    fraction? (cs.map .char) = none := by
  cases cs with
  | nil => rfl
  | cons c cs =>
    have ne : c ≠ '.' := h c (by simp)
    rw [List.map_cons, fraction?]
    intro ls hls
    exact ne (Letter.char.inj (List.cons.inj hls).1)

theorem fraction?_decimals {ds cs : List Char} (nonempty : ds ≠ [])
    (hds : ∀ c ∈ ds, Numeral.isDigit c = true)
    (hcs : ∀ c ∈ cs.head?, Numeral.isDigit c = false) :
    fraction? (('.' :: (ds ++ cs)).map .char) = some (ds, cs.map .char) := by
  rw [List.map_cons, fraction?, spanDigits_append hds hcs]
  simp [nonempty]

theorem exponent?_eq_none {cs : List Char} (h : ∀ c ∈ cs.head?, c ≠ 'e' ∧ c ≠ 'E') :
    exponent? (cs.map .char) = none := by
  cases cs with
  | nil => rfl
  | cons c cs =>
    have ne := h c (by simp)
    rw [List.map_cons, exponent?, if_neg]
    simpa using ne

theorem exponent?_power (negative : Bool) {ds cs : List Char} (nonempty : ds ≠ [])
    (hds : ∀ c ∈ ds, Numeral.isDigit c = true)
    (hcs : ∀ c ∈ cs.head?, Numeral.isDigit c = false) :
    exponent? (('e' :: (if negative then '-' else '+') :: (ds ++ cs)).map .char) =
      some (if negative then -(Numeral.value ds : Int) else Numeral.value ds, cs.map .char) := by
  have digits := spanDigits_append hds hcs
  have isEmpty : ds.isEmpty = false := by simpa using nonempty
  cases negative with
  | false => simp [exponent?, splitSign, -List.map_append, digits, isEmpty]
  | true => simp [exponent?, splitSign, -List.map_append, digits, isEmpty]

/-! ## Whole numbers and decimals -/

theorem finishNumber_integer (strict negative : Bool) (whole : List Char) {cs : List Char}
    (hcs : EndsNumber cs) {n : Int} (hn : integerOfDigits? negative whole = some n) :
    finishNumber strict negative whole (cs.map .char) = .ok (.int n, cs.map .char) := by
  have fraction : fraction? (cs.map .char) = none := fraction?_eq_none fun c hc => (hcs c hc).1
  have exponent : exponent? (cs.map .char) = none :=
    exponent?_eq_none fun c hc => ⟨(hcs c hc).2.1, (hcs c hc).2.2.1⟩
  simp [finishNumber, fraction, exponent, hn]

theorem finishNumber_decimal (strict negative : Bool) {t : DecimalText} (wf : t.WellFormed)
    (hwhole : t.whole.length ≤ digitLimit) {cs : List Char} (hcs : EndsNumber cs) :
    finishNumber strict negative t.whole ((t.fractionChars ++ (t.powerChars ++ cs)).map .char) =
      .ok (.float (Binary64.ofDecimal negative t.decimal), cs.map .char) := by
  obtain ⟨whole, decimals, power⟩ := t
  have short : ¬ digitLimit < whole.length := Nat.not_lt.mpr hwhole
  have noPower : exponent? (cs.map .char) = none :=
    exponent?_eq_none fun c hc => ⟨(hcs c hc).2.1, (hcs c hc).2.2.1⟩
  have noDigit : ∀ c ∈ cs.head?, Numeral.isDigit c = false := fun c hc => (hcs c hc).2.2.2
  cases power with
  | none =>
    have nonempty : decimals ≠ [] := by simpa using wf.not_integer
    have fraction := fraction?_decimals nonempty wf.decimals_digits noDigit
    simp only [DecimalText.fractionChars, DecimalText.powerChars, if_neg nonempty,
      List.nil_append, List.cons_append]
    unfold finishNumber
    simp only [fraction, noPower]
    simp [short, DecimalText.decimal, DecimalText.exponent]
  | some power =>
    obtain ⟨minus, ds⟩ := power
    obtain ⟨present, digits⟩ := wf.power_digits minus ds rfl
    have exponent := exponent?_power minus present digits noDigit
    by_cases none : decimals = []
    · have fraction : fraction?
          (('e' :: (if minus then '-' else '+') :: (ds ++ cs)).map .char) = Option.none :=
        fraction?_eq_none (by simp)
      simp only [DecimalText.fractionChars, DecimalText.powerChars, if_pos none,
        List.nil_append, List.cons_append]
      unfold finishNumber
      simp only [fraction, exponent]
      simp [short, none, DecimalText.decimal, DecimalText.exponent]
    · have mark : ∀ c ∈ ('e' :: (if minus then '-' else '+') :: (ds ++ cs)).head?,
          Numeral.isDigit c = false := by simp [Numeral.isDigit]
      have fraction := fraction?_decimals none wf.decimals_digits mark
      simp only [DecimalText.fractionChars, DecimalText.powerChars, if_neg none,
        List.cons_append]
      unfold finishNumber
      simp only [fraction, exponent]
      simp [short, DecimalText.decimal, DecimalText.exponent]

/-- The sign and the whole part of a number, whatever follows that is no digit. -/
theorem readNumber_whole (strict negative : Bool) {whole cs : List Char} (nonempty : whole ≠ [])
    (digits : ∀ c ∈ whole, Numeral.isDigit c = true)
    (noLeadingZero : ∀ tail, whole = '0' :: tail → tail = [])
    (hcs : ∀ c ∈ cs.head?, Numeral.isDigit c = false) :
    readNumber strict (((if negative then ['-'] else []) ++ (whole ++ cs)).map .char) =
      finishNumber strict negative whole (cs.map .char) := by
  cases whole with
  | nil => exact absurd rfl nonempty
  | cons c tail =>
    have digit : Numeral.isDigit c = true := digits c (by simp)
    have minus : c ≠ '-' := by
      rintro rfl
      exact absurd digit (by decide)
    by_cases zero : c = '0'
    · subst zero
      obtain rfl := noLeadingZero tail rfl
      cases negative <;> simp [readNumber]
    · have span := spanDigits_append digits hcs
      rw [List.cons_append, List.map_cons] at span
      cases negative <;> simp [readNumber, minus, zero, -List.map_append, span]

/-! ## Numbers -/

theorem readNumber_integer (strict : Bool) {n : Int} (h : IsWritable n) {cs : List Char}
    (hcs : EndsNumber cs) :
    readNumber strict ((numberChars (.int n) ++ cs).map .char) =
      .ok (.int n, cs.map .char) := by
  have noLeadingZero : ∀ tail, Numeral.digits n.natAbs = '0' :: tail → tail = [] := by
    intro tail begins
    by_cases zero : n.natAbs = 0
    · rw [zero, Numeral.digits_of_lt (by decide)] at begins
      exact (List.cons.inj begins).2.symm
    · exact absurd begins (Numeral.head_digits_ne_zero zero tail)
  have whole := readNumber_whole strict (decide (n < 0)) (Numeral.digits_ne_nil n.natAbs)
    (fun c hc => Numeral.isDigit_of_mem_digits hc) noLeadingZero fun c hc => (hcs c hc).2.2.2
  rw [finishNumber_integer strict _ _ hcs (integerOfDigits?_digits h)] at whole
  rw [numberChars, toList_integerText, List.append_assoc, ← whole]
  simp only [decide_eq_true_eq]

/-- The whole part of a decimal ends with the point or the mark of the power. -/
theorem head_after_whole {t : DecimalText} (wf : t.WellFormed) (cs : List Char) :
    ∀ c ∈ (t.fractionChars ++ (t.powerChars ++ cs)).head?, Numeral.isDigit c = false := by
  obtain ⟨whole, decimals, power⟩ := t
  by_cases none : decimals = []
  · obtain ⟨⟨minus, ds⟩, rfl⟩ : ∃ p, power = some p :=
      Option.ne_none_iff_exists'.mp (by simpa [none] using wf.not_integer)
    simp [DecimalText.fractionChars, DecimalText.powerChars, none, Numeral.isDigit]
  · simp [DecimalText.fractionChars, none, Numeral.isDigit]

/-- A finite value is read back from its text in any layout that writes no more than the digit limit
in front of a point. -/
theorem readNumber_layout (strict negative : Bool) (layout : Layout)
    (narrow : layout.positionalBelow.toNat ≤ digitLimit) (m : Magnitude) {cs : List Char}
    (hcs : EndsNumber cs) :
    readNumber strict ((layout.finite negative m ++ cs).map .char) =
      .ok (.float (.finite negative m), cs.map .char) := by
  have wf := Layout.wellFormed_parts layout (d := m.shortest) Magnitude.exponent_shortest
  have short : (layout.parts m.shortest).whole.length ≤ digitLimit :=
    (Layout.length_whole_parts layout m.shortest).trans (max_le (by decide) narrow)
  have value : Binary64.ofDecimal negative (layout.parts m.shortest).decimal =
      .finite negative m := by
    rw [Binary64.ofDecimal, Layout.ofDecimal?_parts, Magnitude.ofDecimal?_shortest]
  have whole := readNumber_whole strict negative wf.whole_ne_nil wf.whole_digits
    wf.no_leading_zero (head_after_whole wf cs)
  rw [finishNumber_decimal strict negative wf short hcs, value] at whole
  rw [Layout.finite, ← Layout.chars_parts, DecimalText.chars, ← whole]
  simp only [List.append_assoc]

theorem readNumber_finite (strict negative : Bool) (m : Magnitude) {cs : List Char}
    (hcs : EndsNumber cs) :
    readNumber strict ((numberChars (.float (.finite negative m)) ++ cs).map .char) =
      .ok (.float (.finite negative m), cs.map .char) :=
  readNumber_layout strict negative numberLayout (by decide) m hcs

end Topograph.Json.Reader
