import Topograph.Network.Identifier
import Topograph.Proofs.Number.IntegerText

/-!
# Reading a written identifier

The text of an identifier is read back as the identifier, after any blanks and in front of any
rest that does not go on with a digit.
-/
namespace Topograph.Identifier
open Topograph.Number

theorem isBlank_of_isDigit {c : Char} (h : Numeral.isDigit c = true) : Text.isBlank c = false := by
  simp only [Numeral.isDigit, Bool.and_eq_true, decide_eq_true_eq] at h
  simp [Text.isBlank, Text.inRanges, Text.blankRanges]
  omega

/-- What may stand in front of digits, and whether it makes the number negative. -/
def signs : List (List Char × Bool) := [([], false), (['+'], false), (['-'], true)]

theorem splitSign_append {sign : List Char} {negative : Bool} (hsign : (sign, negative) ∈ signs)
    {ds : List Char} (nonempty : ds ≠ []) (digits : ∀ c ∈ ds, Numeral.isDigit c = true)
    (rest : List Char) : Numeral.splitSign (sign ++ (ds ++ rest)) = (negative, ds ++ rest) := by
  simp only [signs, List.mem_cons, Prod.mk.injEq, List.not_mem_nil, or_false] at hsign
  rcases hsign with ⟨rfl, rfl⟩ | ⟨rfl, rfl⟩ | ⟨rfl, rfl⟩
  · obtain ⟨c, ds, rfl⟩ := List.exists_cons_of_ne_nil nonempty
    have digit := digits c List.mem_cons_self
    rw [List.nil_append, List.cons_append]
    unfold Numeral.splitSign
    split
    · rename_i sign
      exact absurd ((List.cons.inj sign).1 ▸ digit) (by decide)
    · rename_i sign
      exact absurd ((List.cons.inj sign).1 ▸ digit) (by decide)
    · rfl
  · rfl
  · rfl

/-- A run of digits that ends where the rest begins, after blanks and a sign. -/
theorem ofChars?_run {blanks sign ds rest : List Char} {negative : Bool}
    (hblanks : ∀ c ∈ blanks, Text.isBlank c = true) (hsign : (sign, negative) ∈ signs)
    (nonempty : ds ≠ []) (digits : ∀ c ∈ ds, Numeral.isDigit c = true)
    (hrest : ∀ c ∈ rest.head?, Numeral.isDigit c = false) :
    ofChars? (blanks ++ (sign ++ (ds ++ rest))) = integerOfDigits? negative ds := by
  have skip : (sign ++ (ds ++ rest)).dropWhile Text.isBlank = sign ++ (ds ++ rest) := by
    obtain ⟨d, more, begins⟩ := List.exists_cons_of_ne_nil nonempty
    have digit : Text.isBlank d = false := isBlank_of_isDigit (digits d (by rw [begins]; simp))
    have plus : Text.isBlank '+' = false := by decide
    have minus : Text.isBlank '-' = false := by decide
    simp only [signs, List.mem_cons, Prod.mk.injEq, List.not_mem_nil, or_false] at hsign
    rw [begins]
    rcases hsign with ⟨rfl, -⟩ | ⟨rfl, -⟩ | ⟨rfl, -⟩ <;> simp [digit, plus, minus]
  have span : (ds ++ rest).takeWhile Numeral.isDigit = ds := by
    rw [List.takeWhile_append_of_pos digits]
    cases rest with
    | nil => simp
    | cons c rest => simp [hrest c (by simp)]
  have isEmpty : ds.isEmpty = false := by simpa using nonempty
  rw [ofChars?, List.dropWhile_append_of_pos hblanks, skip, splitSign_append hsign nonempty digits]
  simp only [span, isEmpty, Bool.false_eq_true, if_false]

/-- The characters of an identifier, after blanks and in front of what is no digit. -/
theorem ofChars?_append {n : Int} (h : IsWritable n) {blanks rest : List Char}
    (hblanks : ∀ c ∈ blanks, Text.isBlank c = true)
    (hrest : ∀ c ∈ rest.head?, Numeral.isDigit c = false) :
    ofChars? (blanks ++ ((integerText n).toList ++ rest)) = some n := by
  have sign : ((if n < 0 then ['-'] else []), decide (n < 0)) ∈ signs := by
    by_cases negative : n < 0 <;> simp [signs, negative]
  have digits : ∀ c ∈ Numeral.digits n.natAbs, Numeral.isDigit c = true :=
    fun c hc => Numeral.isDigit_of_mem_digits hc
  rw [toList_integerText, List.append_assoc,
    ofChars?_run hblanks sign (Numeral.digits_ne_nil _) digits hrest, integerOfDigits?_digits h]

theorem ofChars?_integerText {n : Int} (h : IsWritable n) :
    ofChars? (integerText n).toList = some n := by
  have read := ofChars?_append h (by simp : ∀ c ∈ [], Text.isBlank c = true)
    (by simp : ∀ c ∈ [].head?, Numeral.isDigit c = false)
  simpa using read

end Topograph.Identifier
