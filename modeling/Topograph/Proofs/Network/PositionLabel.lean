import Mathlib.Data.List.Basic
import Topograph.Network.Device
import Topograph.Proofs.Json.NumberText
import Topograph.Proofs.Number.ExactValue

/-!
# The label of a position

A number is labelled as an integer if it has no fraction, and otherwise by its shortest decimal, in
which a point or an exponent stands and which reads back. So two numbers have one label exactly if
they have one value, whichever their kinds are. The label of a position is put together from those
of its coordinates with a space between them, which stands in neither.
-/
namespace Topograph
open Number

namespace Number

/-- Of two finite values, neither is written like the other one. -/
theorem Layout.finite_injective {layout : Layout}
    (narrow : layout.positionalBelow.toNat ≤ digitLimit) {negative negative' : Bool}
    {m n : Magnitude} (h : layout.finite negative m = layout.finite negative' n) :
    Binary64.finite negative m = .finite negative' n := by
  have read (negative : Bool) (m : Magnitude) := Json.Reader.readNumber_layout true negative layout
    narrow m Json.Reader.endsNumber_nil
  have same := read negative m
  rw [h, read negative' n] at same
  simpa using same.symm

/-- An integer within the digit limit, or a finite binary value. -/
def IsShown : Number → Prop
  | .int n => IsWritable n
  | .float x => x.isFinite = true

instance : (a : Number) → Decidable a.IsShown
  | .int n => inferInstanceAs (Decidable (IsWritable n))
  | .float x => inferInstanceAs (Decidable (x.isFinite = true))

theorem IsShown.equals_iff {a : Number} (h : a.IsShown) (b : Number) :
    a.Equals b ↔ a.value? = b.value? := by
  refine and_iff_left fun none => ?_
  cases a with
  | int n => cases none
  | float x =>
    have finite : x.isFinite = true := h
    rw [(Binary64.value?_eq_none_iff x).mp none] at finite
    cases finite

theorem label?_of_whole? {a : Number} (h : a.IsShown) {n : Int} (whole : a.whole? = some n) :
    a.label? = some (integerText n) := by
  cases a with
  | int k =>
    obtain rfl := Option.some.inj whole
    exact integerText?_of_isWritable h
  | float x =>
    have whole : x.whole? = some n := whole
    rw [label?, Binary64.label, whole]

theorem IsShown.exists_label {a : Number} (h : a.IsShown) : ∃ s, a.label? = some s := by
  cases a with
  | int n => exact ⟨_, integerText?_of_isWritable h⟩
  | float x => exact ⟨_, rfl⟩

/-- A number with a fraction is a binary value. -/
theorem exists_finite_of_whole? {a : Number} (h : a.IsShown) (fractional : a.whole? = none) :
    ∃ negative m, a = .float (.finite negative m) ∧
      a.label? = some (String.ofList (plainLayout.finite negative m)) := by
  cases a with
  | int n => cases fractional
  | float x =>
    cases x with
    | nan => cases h
    | infinite _ => cases h
    | finite negative m =>
      have fractional : (Binary64.finite negative m).whole? = none := fractional
      refine ⟨negative, m, rfl, ?_⟩
      rw [label?, Binary64.label, fractional]
      rfl

/-- A decimal is not written like an integer. -/
theorem integerText_ne_finite (n : Int) (layout : Layout) (negative : Bool) (m : Magnitude) :
    integerText n ≠ String.ofList (layout.finite negative m) := by
  intro same
  have stands {c : Char} (hc : c ∈ (layout.parts m.shortest).chars) :
      c ∈ (integerText n).toList := by
    rw [same, String.toList_ofList, ← Layout.text, Layout.text_finite]
    exact List.mem_append_right _ hc
  rcases (layout.wellFormed_shortest m).point_or_power with point | power
  · exact absurd (sign_or_digit (stands point)) (by decide)
  · exact absurd (sign_or_digit (stands power)) (by decide)

/-- Two numbers are shown alike exactly if they have one value. -/
theorem label?_eq_iff {a b : Number} (ha : a.IsShown) (hb : b.IsShown) :
    a.label? = b.label? ↔ a.value? = b.value? := by
  cases whole : a.whole? with
  | some n =>
    rw [label?_of_whole? ha whole, whole?_eq_some_iff.mp whole]
    cases whole' : b.whole? with
    | some k =>
      rw [label?_of_whole? hb whole', whole?_eq_some_iff.mp whole', Option.some_inj,
        Option.some_inj, integerText_inj, Int.cast_inj]
    | none =>
      obtain ⟨negative, m, -, label⟩ := exists_finite_of_whole? hb whole'
      refine iff_of_false ?_ fun same => ?_
      · rw [label, Option.some_inj]
        exact integerText_ne_finite n plainLayout negative m
      · rw [whole?_eq_some_iff.mpr same.symm] at whole'
        cases whole'
  | none =>
    obtain ⟨negative, m, rfl, label⟩ := exists_finite_of_whole? ha whole
    rw [label]
    cases whole' : b.whole? with
    | some k =>
      rw [label?_of_whole? hb whole', whole?_eq_some_iff.mp whole']
      refine iff_of_false ?_ fun same => ?_
      · rw [Option.some_inj]
        exact (integerText_ne_finite k plainLayout negative m).symm
      · rw [whole?_eq_some_iff.mpr same] at whole
        cases whole
    | none =>
      obtain ⟨negative', n, rfl, label'⟩ := exists_finite_of_whole? hb whole'
      have nonzero : ¬ (Binary64.finite negative m).isZero = true := fun zero => by
        have whole : (Binary64.finite negative m).whole? = none := whole
        rw [(Binary64.isZero_iff_whole? _).mp zero] at whole
        cases whole
      rw [label', Option.some_inj, String.ofList_inj, value?, value?, Binary64.value?_eq_iff rfl,
        or_iff_left fun zeros => nonzero zeros.1]
      constructor
      · exact Layout.finite_injective (by decide)
      · rintro ⟨⟩
        rfl

end Number

namespace Quantity

/-- Quantities measure the same exactly if their numbers are equal. -/
theorem reduce_eq_iff (q r : Quantity) : q.reduce = r.reduce ↔ q.number.Equals r.number := by
  have zero (x : Binary64) :
      Quantity.unset = (given x).reduce ↔ (Number.int 0).Equals (.float x) := by
    rw [equals_int_float_iff, ← Binary64.isZero_iff_whole?, reduce]
    cases x.isZero <;> simp
  cases q with
  | unset =>
    cases r with
    | unset => exact iff_of_true rfl (equals_int_iff.mpr rfl)
    | given x => exact zero x
  | given x =>
    cases r with
    | unset => exact eq_comm.trans ((zero x).trans equals_comm)
    | given y =>
      rw [number, number, equals_float_iff, reduce, reduce]
      by_cases same : x = y
      · subst same
        exact iff_of_true rfl (.inl rfl)
      · cases x.isZero <;> cases y.isZero <;> simp [same]

/-- The label is that of the number. -/
theorem label?_number (q : Quantity) : q.number.label? = some q.label := by
  cases q with
  | unset => decide +kernel
  | given x => rfl

theorem isShown_number {q : Quantity} (h : q.isFinite = true) : q.number.IsShown := by
  cases q with
  | unset => decide +kernel
  | given x => exact h

/-- Finite quantities are labelled alike exactly if they measure the same. -/
theorem label_eq_iff {q r : Quantity} (hq : q.isFinite = true) (hr : r.isFinite = true) :
    q.label = r.label ↔ q.reduce = r.reduce := by
  have labels := label?_eq_iff (isShown_number hq) (isShown_number hr)
  rw [label?_number, label?_number, Option.some_inj] at labels
  rw [labels, reduce_eq_iff, (isShown_number hq).equals_iff]

/-- Only what measures zero shows as zero. -/
theorem label_eq_zero_iff (q : Quantity) : q.label = "0" ↔ q.reduce = .unset := by
  cases q with
  | unset => exact iff_of_true rfl rfl
  | given x =>
    rw [label, Binary64.label_eq_zero_iff, reduce]
    cases x.isZero <;> simp

theorem space_not_mem_label (q : Quantity) : ' ' ∉ q.label.toList := by
  cases q with
  | unset => decide
  | given x => exact x.space_not_mem_label

end Quantity

/-- The label of a position tells its coordinates apart. -/
theorem Position.label_inj (p q : Position) :
    p.label = q.label ↔ p.x.label = q.x.label ∧ p.y.label = q.y.label := by
  have chars (p : Position) : p.label.toList = p.x.label.toList ++ ' ' :: p.y.label.toList := by
    simp [label]
  rw [← String.toList_inj, chars, chars, List.append_cons_inj_of_notMem p.x.space_not_mem_label
    p.y.space_not_mem_label, String.toList_inj, String.toList_inj, eq_self, true_and]

namespace Position

/-- Both coordinates are finite. -/
def isFinite (p : Position) : Bool := p.x.isFinite && p.y.isFinite

/-- Two finite numbers have labels, and these are the same exactly if the numbers have one value,
whether they are integers or binary values. So two positions with finite coordinates are labelled
alike exactly if they are equal. -/
theorem labelled_alike_iff_equal :
    (∀ a b : Number, a.IsShown → b.IsShown → ∃ s t, a.label? = some s ∧ b.label? = some t ∧
      (s = t ↔ a.value? = b.value?)) ∧
    ∀ p q : Position, p.isFinite = true → q.isFinite = true →
      (p.label = q.label ↔ p.reduce = q.reduce) := by
  constructor
  · intro a b ha hb
    obtain ⟨s, hs⟩ := ha.exists_label
    obtain ⟨t, ht⟩ := hb.exists_label
    refine ⟨s, t, hs, ht, ?_⟩
    rw [← label?_eq_iff ha hb, hs, ht, Option.some_inj]
  · intro p q hp hq
    obtain ⟨px, py⟩ := Bool.and_eq_true_iff.mp hp
    obtain ⟨qx, qy⟩ := Bool.and_eq_true_iff.mp hq
    rw [label_inj, Quantity.label_eq_iff px qx, Quantity.label_eq_iff py qy, reduce, reduce,
      mk.injEq]

/-- The binary value nearest to an integer. -/
def nearest (n : Int) : Number := .float ((Binary64.ofInt? n).getD .zero)

/-- Five is labelled alike as an integer and as a binary value. The least integer that no binary
value is has another label than the one nearest to it. A negative zero is labelled like the
default. -/
theorem labelled_alike_iff_equal_nearest :
    (Number.int 5).IsShown ∧ (nearest 5).IsShown ∧ (Number.int 5).value? = (nearest 5).value? ∧
    (Number.int 9007199254740993).IsShown ∧ (nearest 9007199254740993).IsShown ∧
    (Number.int 9007199254740993).value? ≠ (nearest 9007199254740993).value? ∧
    (⟨.unset, .given .zero⟩ : Position).isFinite = true ∧
    (⟨.given (.finite true .zero), .unset⟩ : Position).isFinite = true ∧
    (⟨.unset, .given .zero⟩ : Position).label =
      (⟨.given (.finite true .zero), .unset⟩ : Position).label := by
  obtain ⟨numbers, positions⟩ := labelled_alike_iff_equal
  have five : (Number.int 5).IsShown := by decide +kernel
  have binaryFive : (nearest 5).IsShown := by decide +kernel
  have odd : (Number.int 9007199254740993).IsShown := by decide +kernel
  have even : (nearest 9007199254740993).IsShown := by decide +kernel
  refine ⟨five, binaryFive, ?_, odd, even, ?_, rfl, rfl, (positions _ _ rfl rfl).mpr (by decide)⟩
  · obtain ⟨s, t, hs, ht, alike⟩ := numbers _ _ five binaryFive
    have labels : (Number.int 5).label? = (nearest 5).label? := by decide +kernel
    rw [hs, ht, Option.some_inj] at labels
    exact alike.mp labels
  · obtain ⟨s, t, hs, ht, alike⟩ := numbers _ _ odd even
    have labels : (Number.int 9007199254740993).label? ≠ (nearest 9007199254740993).label? := by
      decide +kernel
    rw [hs, ht, ne_eq, Option.some_inj] at labels
    exact fun same => labels (alike.mpr same)

end Position
end Topograph
