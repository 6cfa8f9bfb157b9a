import Mathlib.Data.String.Basic
import Topograph.Proofs.Time.WrittenTime

/-!
# The order of written times

The texts that a clock gives are in the order of the times they tell, character by character: each
number has its full width, a greater part decides before a lesser one, and a plus sign, which
follows a full second, comes before the point of a fraction.
-/
namespace Topograph.Time

/-! ## The calendar -/

theorem isLeap_iff (year : Nat) : isLeap year = true ↔ 4 ∣ year ∧ (100 ∣ year → 400 ∣ year) := by
  rw [isLeap, Bool.and_eq_true, Bool.or_eq_true, beq_iff_eq, bne_iff_ne, beq_iff_eq,
    ← Nat.dvd_iff_mod_eq_zero, ← Nat.dvd_iff_mod_eq_zero, ← imp_iff_not_or,
    ← Nat.dvd_iff_mod_eq_zero]

namespace Date

theorem daysBeforeMonth_succ (year : Nat) {month : Nat} (h : 1 ≤ month) :
    daysBeforeMonth year (month + 1) = daysBeforeMonth year month + daysInMonth year month := by
  obtain ⟨m, rfl⟩ := Nat.exists_eq_add_of_le' h
  rw [daysBeforeMonth, Nat.add_sub_cancel, List.range_succ, List.foldl_append]
  rfl

theorem daysBeforeMonth_le (year : Nat) {month later : Nat} (h : 1 ≤ month)
    (le : month ≤ later) : daysBeforeMonth year month ≤ daysBeforeMonth year later := by
  induction later, le using Nat.le_induction with
  | base => exact Nat.le_refl _
  | succ later le ih =>
    rw [daysBeforeMonth_succ year (Nat.le_trans h le)]
    exact Nat.le_add_right_of_le ih

theorem daysBeforeMonth_end (year : Nat) :
    daysBeforeMonth year 13 = if isLeap year then 366 else 365 := by
  have february : daysInMonth year 2 = if isLeap year then 29 else 28 := rfl
  have others : daysBeforeMonth year 13 = 337 + daysInMonth year 2 := by
    change 0 + 31 + daysInMonth year 2 + 31 + 30 + 31 + 30 + 31 + 31 + 30 + 31 + 30 + 31 = _
    omega
  rw [others, february]
  split <;> rfl

/-- A leap day comes every fourth year, but not in a hundredth one that is no four hundredth. -/
theorem daysBeforeYear_succ {year : Nat} (h : 1 ≤ year) :
    daysBeforeYear (year + 1) = daysBeforeYear year + daysBeforeMonth year 13 := by
  obtain ⟨y, rfl⟩ := Nat.exists_eq_add_of_le' h
  have fewer : y / 100 ≤ y / 4 := Nat.div_le_div_left (by decide) (by decide)
  rw [daysBeforeMonth_end, daysBeforeYear, daysBeforeYear, Nat.add_sub_cancel, Nat.add_sub_cancel]
  simp only [Nat.succ_div]
  by_cases fourHundred : 400 ∣ y + 1
  · have hundred : 100 ∣ y + 1 := Nat.dvd_trans (by decide) fourHundred
    have four : 4 ∣ y + 1 := Nat.dvd_trans (by decide) hundred
    simp only [isLeap_iff, four, hundred, fourHundred, implies_true, and_self, if_true]
    omega
  · by_cases hundred : 100 ∣ y + 1
    · have four : 4 ∣ y + 1 := Nat.dvd_trans (by decide) hundred
      simp only [isLeap_iff, four, hundred, fourHundred, forall_const, and_false, if_true, if_false]
      omega
    · by_cases four : 4 ∣ y + 1
      · simp only [isLeap_iff, four, hundred, fourHundred, false_implies, and_self, if_true,
          if_false]
        omega
      · simp only [isLeap_iff, four, hundred, fourHundred, false_and, if_false]
        omega

theorem daysBeforeYear_le {year later : Nat} (h : 1 ≤ year) (le : year ≤ later) :
    daysBeforeYear year ≤ daysBeforeYear later := by
  induction later, le using Nat.le_induction with
  | base => exact Nat.le_refl _
  | succ later le ih =>
    rw [daysBeforeYear_succ (Nat.le_trans h le)]
    exact Nat.le_add_right_of_le ih

/-- The parts of the first date come before those of the second one. -/
def IsBefore (d e : Date) : Prop :=
  d.year < e.year ∨ d.year = e.year ∧ (d.month < e.month ∨ d.month = e.month ∧ d.day < e.day)

theorem dayNumber_lt_month (d : Date) : d.dayNumber <
    daysBeforeYear d.year + daysBeforeMonth d.year (d.month + 1) := by
  have valid := d.valid
  rw [dayNumber, daysBeforeMonth_succ d.year (by omega)]
  omega

theorem dayNumber_lt_of_isBefore {d e : Date} (h : d.IsBefore e) : d.dayNumber < e.dayNumber := by
  have dvalid := d.valid
  have evalid := e.valid
  have month := dayNumber_lt_month d
  rcases h with year | ⟨year, earlier | ⟨same, day⟩⟩
  · have within : daysBeforeMonth d.year (d.month + 1) ≤ daysBeforeMonth d.year 13 :=
      daysBeforeMonth_le d.year (by omega) (by omega)
    have after : daysBeforeYear (d.year + 1) = daysBeforeYear d.year + daysBeforeMonth d.year 13 :=
      daysBeforeYear_succ (by omega)
    have later : daysBeforeYear (d.year + 1) ≤ daysBeforeYear e.year :=
      daysBeforeYear_le (by omega) year
    rw [dayNumber.eq_def e]
    omega
  · have later : daysBeforeMonth d.year (d.month + 1) ≤ daysBeforeMonth d.year e.month :=
      daysBeforeMonth_le d.year (by omega) earlier
    rw [dayNumber.eq_def e, ← year]
    omega
  · rw [dayNumber, dayNumber, ← year, ← same]
    omega

theorem isBefore_or (d e : Date) : d.IsBefore e ∨ d = e ∨ e.IsBefore d := by
  unfold IsBefore
  obtain ⟨y, m, n, hd⟩ := d
  obtain ⟨y', m', n', he⟩ := e
  simp only [Date.mk.injEq]
  omega

theorem isBefore_of_dayNumber_lt {d e : Date} (h : d.dayNumber < e.dayNumber) : d.IsBefore e := by
  rcases isBefore_or d e with before | rfl | after
  · exact before
  · exact absurd h (Nat.lt_irrefl _)
  · exact absurd (dayNumber_lt_of_isBefore after) (Nat.lt_asymm h)

theorem dayNumber_injective {d e : Date} (h : d.dayNumber = e.dayNumber) : d = e := by
  rcases isBefore_or d e with before | same | after
  · exact absurd h (Nat.ne_of_lt (dayNumber_lt_of_isBefore before))
  · exact same
  · exact absurd h.symm (Nat.ne_of_lt (dayNumber_lt_of_isBefore after))

end Date

/-! ## The time of day -/

namespace Clock

/-- The parts of the first time of day come before those of the second one. -/
def IsBefore (c d : Clock) : Prop :=
  c.hour < d.hour ∨ c.hour = d.hour ∧ (c.minute < d.minute ∨ c.minute = d.minute ∧
    (c.second < d.second ∨ c.second = d.second ∧ c.micro < d.micro))

theorem micros_lt (c : Clock) : c.micros < 86400000000 := by
  have valid := c.valid
  unfold micros
  omega

theorem isBefore_of_micros_lt {c d : Clock} (h : c.micros < d.micros) : c.IsBefore d := by
  have cvalid := c.valid
  have dvalid := d.valid
  unfold micros at h
  unfold IsBefore
  omega

theorem micros_injective {c d : Clock} (h : c.micros = d.micros) : c = d := by
  obtain ⟨hour, minute, second, micro, cvalid⟩ := c
  obtain ⟨hour', minute', second', micro', dvalid⟩ := d
  simp only [micros] at h
  simp only [Clock.mk.injEq]
  omega

end Clock
end Topograph.Time

namespace Topograph.Timestamp
open Topograph.Number

/-! ## Characters in order -/

theorem digitChar_lt_all : ∀ e < 10, ∀ d < e, Numeral.digitChar d < Numeral.digitChar e := by
  decide

/-- A padded number decides, or what follows it does. -/
theorem padded_append_lt {width m n : Nat} {a b : List Char} (bound : n < 10 ^ width)
    (h : m < n ∨ m = n ∧ a < b) : padded width m ++ a < padded width n ++ b := by
  rcases h with lt | ⟨rfl, lt⟩
  · induction width generalizing m n a b with
    | zero =>
      rw [Nat.pow_zero] at bound
      omega
    | succ width ih =>
      rw [padded, padded, List.append_assoc, List.append_assoc, List.singleton_append,
        List.singleton_append]
      -- All digits but the last make the number divided by ten.
      by_cases front : m / 10 < n / 10
      · apply ih _ front
        rw [Nat.pow_succ] at bound
        omega
      · have same : m / 10 = n / 10 := by omega
        rw [same]
        apply List.append_left_lt
        rw [List.cons_lt_cons_iff]
        exact .inl (digitChar_lt_all _ (by omega) _ (by omega))
  · exact List.append_left_lt lt

theorem cons_lt_cons {c : Char} {a b : List Char} (h : a < b) : c :: a < c :: b :=
  List.cons_lt_cons_iff.mpr (.inr ⟨rfl, h⟩)

/-- The fraction decides; a full second comes first. -/
theorem fractionChars_append_lt {m n : Nat} (bound : n < 1000000) (h : m < n) (rest : List Char) :
    fractionChars m ++ '+' :: rest < fractionChars n ++ '+' :: rest := by
  have positive : n ≠ 0 := by omega
  rw [fractionChars, fractionChars, if_neg positive]
  by_cases zero : m = 0
  · rw [if_pos zero, List.nil_append, List.cons_append, List.cons_lt_cons_iff]
    exact .inl (by decide)
  · rw [if_neg zero, List.cons_append, List.cons_append]
    exact cons_lt_cons (padded_append_lt bound (.inl h))

theorem localChars_eq (t : Timestamp) (zone : List Char) : t.localChars ++ zone =
    padded 4 t.date.year ++ '-' :: (padded 2 t.date.month ++ '-' :: (padded 2 t.date.day ++
      'T' :: (padded 2 t.clock.hour ++ ':' :: (padded 2 t.clock.minute ++ ':' ::
      (padded 2 t.clock.second ++ (fractionChars t.clock.micro ++ zone)))))) := by
  simp [localChars, fractionChars]

theorem localChars_lt_of_date {t u : Timestamp} (h : t.date.IsBefore u.date) (zone : List Char) :
    t.localChars ++ zone < u.localChars ++ zone := by
  have valid := u.date.valid
  have days := daysInMonth_le u.date.year u.date.month
  rw [localChars_eq, localChars_eq]
  apply padded_append_lt (by omega)
  rcases h with year | ⟨year, rest⟩
  · exact .inl year
  · refine .inr ⟨year, cons_lt_cons (padded_append_lt (by omega) ?_)⟩
    rcases rest with month | ⟨month, day⟩
    · exact .inl month
    · exact .inr ⟨month, cons_lt_cons (padded_append_lt (by omega) (.inl day))⟩

theorem localChars_lt_of_clock {t u : Timestamp} (date : t.date = u.date)
    (h : t.clock.IsBefore u.clock) (rest : List Char) :
    t.localChars ++ '+' :: rest < u.localChars ++ '+' :: rest := by
  have valid := u.clock.valid
  rw [localChars_eq, localChars_eq, date]
  apply List.append_left_lt
  apply cons_lt_cons
  apply List.append_left_lt
  apply cons_lt_cons
  apply List.append_left_lt
  apply cons_lt_cons
  apply padded_append_lt (by omega)
  rcases h with hour | ⟨hour, rest⟩
  · exact .inl hour
  · refine .inr ⟨hour, cons_lt_cons (padded_append_lt (by omega) ?_)⟩
    rcases rest with minute | ⟨minute, rest⟩
    · exact .inl minute
    · refine .inr ⟨minute, cons_lt_cons (padded_append_lt (by omega) ?_)⟩
      rcases rest with second | ⟨second, micro⟩
      · exact .inl second
      · exact .inr ⟨second, fractionChars_append_lt valid.2.2.2 micro _⟩

/-! ## Texts in order -/

theorem instant_universal (t : Timestamp) :
    t.universal.instant = (t.date.dayNumber : Int) * 86400000000 + t.clock.micros := by
  simp [instant, universal]

theorem stamp_lt {t u : Timestamp} (h : t.universal.instant < u.universal.instant) :
    t.stamp < u.stamp := by
  have tclock := t.clock.micros_lt
  have uclock := u.clock.micros_lt
  rw [instant_universal, instant_universal] at h
  rw [String.lt_iff_toList_lt]
  simp only [stamp, String.toList_ofList]
  by_cases day : t.date.dayNumber < u.date.dayNumber
  · exact localChars_lt_of_date (Time.Date.isBefore_of_dayNumber_lt day) _
  · have same : t.date = u.date := Time.Date.dayNumber_injective (by omega)
    rw [same] at h
    exact localChars_lt_of_clock same (Time.Clock.isBefore_of_micros_lt (by omega)) _

/-- Times of one instant have one text. -/
theorem stamp_eq {t u : Timestamp} (h : t.universal.instant = u.universal.instant) :
    t.stamp = u.stamp := by
  have tclock := t.clock.micros_lt
  have uclock := u.clock.micros_lt
  rw [instant_universal, instant_universal] at h
  have date : t.date = u.date := Time.Date.dayNumber_injective (by omega)
  rw [date] at h
  have clock : t.clock = u.clock := Time.Clock.micros_injective (by omega)
  rw [stamp, stamp, localChars, localChars, date, clock]

theorem stamp_le {t u : Timestamp} (h : t.universal.instant ≤ u.universal.instant) :
    t.stamp < u.stamp ∨ t.stamp = u.stamp := by
  rcases Int.lt_or_eq_of_le h with lt | eq
  · exact .inl (stamp_lt lt)
  · exact .inr (stamp_eq eq)

/-- The texts are ordered as the instants are. -/
theorem stamp_lt_iff {t u : Timestamp} :
    t.stamp < u.stamp ↔ t.universal.instant < u.universal.instant := by
  refine ⟨fun lt => ?_, stamp_lt⟩
  by_contra late
  rcases stamp_le (not_lt.mp late) with gt | eq
  · exact lt_asymm lt gt
  · exact ne_of_lt lt eq.symm

theorem stamp_inj {t u : Timestamp} :
    t.stamp = u.stamp ↔ t.universal.instant = u.universal.instant := by
  refine ⟨fun same => ?_, stamp_eq⟩
  have notBefore : ¬ t.stamp < u.stamp := same ▸ lt_irrefl _
  have notAfter : ¬ u.stamp < t.stamp := same ▸ lt_irrefl _
  rw [stamp_lt_iff] at notBefore notAfter
  exact le_antisymm (not_lt.mp notAfter) (not_lt.mp notBefore)

end Topograph.Timestamp
