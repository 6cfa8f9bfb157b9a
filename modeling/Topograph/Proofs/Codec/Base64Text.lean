import Mathlib.Data.List.Basic
import Topograph.Codec.Base64

/-!
# Base64 read and written

The strict form of base64 as a relation between letters and octets, told by the numbers that both
stand for. What is written has that form, and what is read has it too, but for equals signs after a
last group that is full already.
-/
namespace Topograph.Codec.Base64

/-! ## Letters -/

theorem value?_letter : ∀ n < 64, value? (letter n) = some n := by decide

theorem value?_lt {c : Char} {n : Nat} (h : value? c = some n) : n < 64 := by
  unfold value? at h
  simp only at h
  repeat' split at h
  all_goals cases h
  all_goals omega

theorem ne_pad_of_value? {c : Char} {n : Nat} (h : value? c = some n) : c ≠ '=' := by
  rintro rfl
  cases h

/-! ## Octets of letters -/

/-- An octet put together from a part of each letter, where the parts leave room for each other. -/
theorem octet_eq_some_iff (p q : Nat → Nat) (unit : UInt8)
    (room : ∀ m < 64, ∀ n < 64, p m * unit.toNat + q n < 256) {a b : Char} {x : UInt8} :
    (do return UInt8.ofNat (p (← value? a)) * unit + UInt8.ofNat (q (← value? b))) = some x ↔
      ∃ m n, value? a = some m ∧ value? b = some n ∧ x.toNat = p m * unit.toNat + q n := by
  have value {m n : Nat} (hm : value? a = some m) (hn : value? b = some n) :
      (UInt8.ofNat (p m) * unit + UInt8.ofNat (q n)).toNat = p m * unit.toNat + q n := by
    simp only [UInt8.toNat_add, UInt8.toNat_mul, UInt8.toNat_ofNat', Nat.mod_mul_mod,
      Nat.add_mod_mod, Nat.mod_add_mod]
    exact Nat.mod_eq_of_lt (room m (value?_lt hm) n (value?_lt hn))
  simp only [Option.bind_eq_bind, Option.bind_eq_some_iff, pure, Option.some.injEq]
  constructor
  · rintro ⟨m, hm, n, hn, rfl⟩
    exact ⟨m, n, hm, hn, value hm hn⟩
  · rintro ⟨m, n, hm, hn, octet⟩
    exact ⟨m, hm, n, hn, UInt8.toNat_inj.mp ((value hm hn).trans octet.symm)⟩

theorem first?_eq_some_iff {a b : Char} {x : UInt8} : first? a b = some x ↔
    ∃ m n, value? a = some m ∧ value? b = some n ∧ x.toNat = m * 4 + n / 16 :=
  octet_eq_some_iff (fun m => m) (fun n => n / 16) 4 fun m _ n _ => by
    change m * 4 + n / 16 < 256
    omega

theorem second?_eq_some_iff {b c : Char} {y : UInt8} : second? b c = some y ↔
    ∃ n k, value? b = some n ∧ value? c = some k ∧ y.toNat = n % 16 * 16 + k / 4 :=
  octet_eq_some_iff (fun n => n % 16) (fun k => k / 4) 16 fun n _ k _ => by
    change n % 16 * 16 + k / 4 < 256
    omega

theorem third?_eq_some_iff {c d : Char} {z : UInt8} : third? c d = some z ↔
    ∃ k l, value? c = some k ∧ value? d = some l ∧ z.toNat = k % 4 * 64 + l :=
  octet_eq_some_iff (fun k => k % 4) (fun l => l) 64 fun k _ l _ => by
    change k % 4 * 64 + l < 256
    omega

/-! ## The strict form -/

/-- Letters in groups of four, which tell three octets; the last group may have two or three
letters, which tell one octet or two, and is then filled up with equals signs. The bits to spare in
such a group do not count. -/
inductive Spells : List Char → Bytes → Prop where
  | done : Spells [] []
  | one {a b : Char} {m n : Nat} {x : UInt8} : value? a = some m → value? b = some n →
    x.toNat = (m * 64 + n) / 16 → Spells [a, b, '=', '='] [x]
  | two {a b c : Char} {m n k : Nat} {x y : UInt8} : value? a = some m → value? b = some n →
    value? c = some k → x.toNat * 256 + y.toNat = ((m * 64 + n) * 64 + k) / 4 →
    Spells [a, b, c, '='] [x, y]
  | three {a b c d : Char} {m n k l : Nat} {x y z : UInt8} {rest : List Char} {bs : Bytes} :
    value? a = some m → value? b = some n → value? c = some k → value? d = some l →
    (x.toNat * 256 + y.toNat) * 256 + z.toNat = ((m * 64 + n) * 64 + k) * 64 + l →
    Spells rest bs → Spells (a :: b :: c :: d :: rest) (x :: y :: z :: bs)

/-- The octets of a text are written as that text. -/
theorem spells_encode (bs : Bytes) : Spells (encode bs) bs := by
  induction bs using encode.induct with
  | case1 => exact .done
  | case2 a =>
    have := a.toNat_lt
    rw [encode]
    exact .one (value?_letter _ (by omega)) (value?_letter _ (by omega)) (by omega)
  | case3 a b =>
    have := a.toNat_lt
    have := b.toNat_lt
    rw [encode]
    exact .two (value?_letter _ (by omega)) (value?_letter _ (by omega))
      (value?_letter _ (by omega)) (by omega)
  | case4 a b c rest ih =>
    have := a.toNat_lt
    have := b.toNat_lt
    have := c.toNat_lt
    rw [encode]
    exact .three (value?_letter _ (by omega)) (value?_letter _ (by omega))
      (value?_letter _ (by omega)) (value?_letter _ (by omega)) (by omega) ih

theorem Spells.four_dvd_length {cs : List Char} {bs : Bytes} (h : Spells cs bs) :
    4 ∣ cs.length := by
  induction h with
  | three _ _ _ _ _ _ ih =>
    simp only [List.length_cons]
    omega
  | _ => simp

/-- The last group of a text is full. -/
def EndsFull (cs : List Char) : Prop := ∃ c ∈ cs.getLast?, c ≠ '='

/-- A text is read as octets: it spells them, but for equals signs after a full last group. -/
def Reads (cs : List Char) (bs : Bytes) : Prop :=
  ∃ front extra, cs = front ++ List.replicate extra '=' ∧ Spells front bs ∧
    (extra = 0 ∨ EndsFull front)

/-! ## Reading -/

theorem decode?_group {a b c d : Char} {m n k l : Nat} {x y z : UInt8}
    (ha : value? a = some m) (hb : value? b = some n) (hc : value? c = some k)
    (hd : value? d = some l)
    (octets : (x.toNat * 256 + y.toNat) * 256 + z.toNat = ((m * 64 + n) * 64 + k) * 64 + l)
    (rest : List Char) : decode? (a :: b :: c :: d :: rest) =
      if rest.all (· == '=') then some [x, y, z]
      else (decode? rest).map fun bs => x :: y :: z :: bs := by
  have := value?_lt ha
  have := value?_lt hb
  have := value?_lt hc
  have := value?_lt hd
  have := x.toNat_lt
  have := y.toNat_lt
  have := z.toNat_lt
  have first : first? a b = some x := first?_eq_some_iff.mpr ⟨m, n, ha, hb, by omega⟩
  have second : second? b c = some y := second?_eq_some_iff.mpr ⟨n, k, hb, hc, by omega⟩
  have third : third? c d = some z := third?_eq_some_iff.mpr ⟨k, l, hc, hd, by omega⟩
  have pad : d ≠ '=' := ne_pad_of_value? hd
  rw [decode?.eq_4 _ _ _ _ _ (fun _ h _ => pad h) (fun h _ => pad h), first, second, third]
  simp only [Option.bind_eq_bind, Option.bind_some, pure]
  split
  · rfl
  · cases decode? rest <;> rfl

theorem head_ne_pad {c : Char} {cs : List Char} {bs : Bytes} (h : Spells (c :: cs) bs) :
    c ≠ '=' := by
  cases h with
  | one ha | two ha | three ha => exact ne_pad_of_value? ha

theorem not_endsFull_pad (cs : List Char) : ¬ EndsFull (cs ++ ['=']) := by
  simp [EndsFull]

theorem EndsFull.append_left {cs : List Char} (h : EndsFull cs) (front : List Char) :
    EndsFull (front ++ cs) := by
  obtain ⟨c, last, letter⟩ := h
  refine ⟨c, ?_, letter⟩
  rw [List.getLast?_append, Option.mem_def.mp last]
  rfl

/-- What is spelled is read, also with equals signs after a full last group. -/
theorem Spells.decode?_append {front : List Char} {bs : Bytes} (h : Spells front bs) (extra : Nat)
    (full : extra = 0 ∨ EndsFull front) :
    decode? (front ++ List.replicate extra '=') = some bs := by
  induction h with
  | done =>
    obtain rfl : extra = 0 := full.resolve_right (by simp [EndsFull])
    rfl
  | @one a b m n x ha hb octets =>
    obtain rfl : extra = 0 := full.resolve_right (not_endsFull_pad [a, b, '='])
    have := value?_lt ha
    have := value?_lt hb
    have first : first? a b = some x := first?_eq_some_iff.mpr ⟨m, n, ha, hb, by omega⟩
    rw [List.replicate_zero, List.append_nil, decode?, first]
    rfl
  | @two a b c m n k x y ha hb hc octets =>
    obtain rfl : extra = 0 := full.resolve_right (not_endsFull_pad [a, b, c])
    have := value?_lt ha
    have := value?_lt hb
    have := value?_lt hc
    have := x.toNat_lt
    have := y.toNat_lt
    have first : first? a b = some x := first?_eq_some_iff.mpr ⟨m, n, ha, hb, by omega⟩
    have second : second? b c = some y := second?_eq_some_iff.mpr ⟨n, k, hb, hc, by omega⟩
    rw [List.replicate_zero, List.append_nil, decode?.eq_3 _ _ _ (ne_pad_of_value? hc), first,
      second]
    rfl
  | @three a b c d m n k l x y z rest bs ha hb hc hd octets spells ih =>
    rw [List.cons_append, List.cons_append, List.cons_append, List.cons_append,
      decode?_group ha hb hc hd octets]
    cases rest with
    | nil =>
      cases spells
      simp
    | cons e rest =>
      have more : ¬ (e :: rest ++ List.replicate extra '=').all (· == '=') = true := by
        simp [head_ne_pad spells]
      have last : EndsFull (a :: b :: c :: d :: e :: rest) → EndsFull (e :: rest) :=
        fun ⟨q, last, letter⟩ => ⟨q, by simpa using last, letter⟩
      rw [if_neg more, ih (full.imp_right last)]
      rfl

/-- What is read is spelled, but for equals signs after a full last group. -/
theorem reads_of_decode? {cs : List Char} {bs : Bytes} (h : decode? cs = some bs) :
    Reads cs bs := by
  induction cs using decode?.induct generalizing bs with
  | case1 =>
    obtain rfl : [] = bs := by simpa [decode?] using h
    exact ⟨[], 0, rfl, .done, .inl rfl⟩
  | case2 a b =>
    simp only [decode?, Option.bind_eq_bind, Option.bind_eq_some_iff, pure, Option.some.injEq] at h
    obtain ⟨x, first, rfl⟩ := h
    obtain ⟨m, n, ha, hb, octet⟩ := first?_eq_some_iff.mp first
    exact ⟨_, 0, (List.append_nil _).symm, .one ha hb (by omega), .inl rfl⟩
  | case3 a b c pad =>
    rw [decode?.eq_3 a b c pad] at h
    simp only [Option.bind_eq_bind, Option.bind_eq_some_iff, pure, Option.some.injEq] at h
    obtain ⟨x, first, y, second, rfl⟩ := h
    obtain ⟨m, n, ha, hb, octet⟩ := first?_eq_some_iff.mp first
    obtain ⟨n', k, hb', hc, octet'⟩ := second?_eq_some_iff.mp second
    obtain rfl := Option.some.inj (hb.symm.trans hb')
    have := value?_lt hb
    have := value?_lt hc
    exact ⟨_, 0, (List.append_nil _).symm, .two ha hb hc (by omega), .inl rfl⟩
  | case4 a b c d rest one two ih =>
    rw [decode?.eq_4 a b c d rest one two] at h
    simp only [Option.bind_eq_bind, Option.bind_eq_some_iff] at h
    obtain ⟨x, first, y, second, z, third, h⟩ := h
    obtain ⟨m, n, ha, hb, octet⟩ := first?_eq_some_iff.mp first
    obtain ⟨n', k, hb', hc, octet'⟩ := second?_eq_some_iff.mp second
    obtain rfl := Option.some.inj (hb.symm.trans hb')
    obtain ⟨k', l, hc', hd, octet''⟩ := third?_eq_some_iff.mp third
    obtain rfl := Option.some.inj (hc.symm.trans hc')
    have := value?_lt hb
    have := value?_lt hc
    have := value?_lt hd
    have group {cs : List Char} {bs : Bytes} (spells : Spells cs bs) :
        Spells ([a, b, c, d] ++ cs) (x :: y :: z :: bs) := .three ha hb hc hd (by omega) spells
    split at h
    · rename_i pads
      obtain rfl := Option.some.inj h
      have pads : rest = List.replicate rest.length '=' := by
        rw [List.eq_replicate_iff]
        exact ⟨rfl, by simpa using pads⟩
      refine ⟨[a, b, c, d], rest.length, ?_, group .done, .inr ⟨d, rfl, ne_pad_of_value? hd⟩⟩
      exact congrArg ([a, b, c, d] ++ ·) pads
    · simp only [Option.bind_eq_some_iff, pure, Option.some.injEq] at h
      obtain ⟨more, read, rfl⟩ := h
      obtain ⟨front, extra, rfl, spells, full⟩ := ih read
      refine ⟨[a, b, c, d] ++ front, extra, rfl, group spells, ?_⟩
      exact full.imp_right fun full => full.append_left _
  | case5 cs none one two three =>
    rw [decode?.eq_5 cs none one two three] at h
    cases h

theorem decode?_eq_some_iff {cs : List Char} {bs : Bytes} :
    decode? cs = some bs ↔ Reads cs bs := by
  constructor
  · exact reads_of_decode?
  · rintro ⟨front, extra, rfl, spells, full⟩
    exact spells.decode?_append extra full

/-- Octets are read back from their text. -/
theorem decode?_encode (bs : Bytes) : decode? (encode bs) = some bs := by
  have read := (spells_encode bs).decode?_append 0 (.inl rfl)
  rwa [List.replicate_zero, List.append_nil] at read

end Topograph.Codec.Base64
