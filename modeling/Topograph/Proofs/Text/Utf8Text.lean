import Topograph.Text.Utf8

/-!
# Texts through UTF-8

The octets of a text are read back as the text, by the strict reading, by the loose one and by the
one that replaces gaps.
-/
namespace Topograph.Text.Utf8

/-! ## One character -/

theorem isValid (c : Char) : c.toNat < 0xD800 ∨ 0xDFFF < c.toNat ∧ c.toNat < 0x110000 := c.valid

theorem ofCode?_toNat (c : Char) : Letter.ofCode? c.toNat = some (.char c) := by
  have valid := isValid c
  have apart : ¬ (0xD800 ≤ c.toNat ∧ c.toNat < 0xE000) := by omega
  have char : c.toNat.isValidChar := c.valid
  rw [Letter.ofCode?, dif_neg apart, if_pos char, Char.ofNat_toNat]

theorem toNat_ofNat {n : Nat} (h : n < 256) : (UInt8.ofNat n).toNat = n := by
  simp [Nat.mod_eq_of_lt h]

/-- An octet that continues a code point brings six more bits. -/
theorem readTail_cons {count low high code v : Nat} (bits : v < 0x40) (least : low ≤ 0x80 + v)
    (most : 0x80 + v ≤ high) (rest : Bytes) :
    readTail (count + 1) (low, high) code (UInt8.ofNat (0x80 + v) :: rest) =
      readTail count (0x80, 0xBF) (code * 64 + v) rest := by
  rw [readTail, toNat_ofNat (by omega), if_pos ⟨least, most⟩, Nat.add_sub_cancel_left]

theorem readLetter_lead {surrogates : Bool} {b count code : Nat} {range : Nat × Nat}
    (above : 0x80 ≤ b) (octet : b < 256) (h : lead? surrogates b = some (count, range, code))
    (rest : Bytes) :
    readLetter surrogates (UInt8.ofNat b) rest = readTail count range code rest := by
  rw [readLetter, toNat_ofNat octet, if_neg (by omega), h]

theorem readLetter_two (surrogates : Bool) {n : Nat} (least : 0x80 ≤ n) (most : n < 0x800)
    (rest : Bytes) : readLetter surrogates (UInt8.ofNat (0xC0 + n / 0x40))
      (UInt8.ofNat (0x80 + n % 0x40) :: rest) = (Letter.ofCode? n, rest) := by
  have lead : lead? surrogates (0xC0 + n / 0x40) = some (1, (0x80, 0xBF), n / 0x40) := by
    rw [lead?, if_neg (by omega), if_pos (by omega), Nat.add_sub_cancel_left]
  have whole : n / 0x40 * 64 + n % 0x40 = n := by omega
  rw [readLetter_lead (by omega) (by omega) lead, readTail_cons (by omega) (by omega) (by omega),
    readTail, whole]

theorem readLetter_three (surrogates : Bool) {n : Nat} (least : 0x800 ≤ n) (most : n < 0x10000)
    (single : n < 0xD800 ∨ 0xDFFF < n) (rest : Bytes) :
    readLetter surrogates (UInt8.ofNat (0xE0 + n / 0x1000))
      (UInt8.ofNat (0x80 + n / 0x40 % 0x40) :: UInt8.ofNat (0x80 + n % 0x40) :: rest) =
      (Letter.ofCode? n, rest) := by
  have lead : lead? surrogates (0xE0 + n / 0x1000) =
      some (2, (if n / 0x1000 = 0 then 0xA0 else 0x80,
        if n / 0x1000 = 0xD ∧ surrogates = false then 0x9F else 0xBF), n / 0x1000) := by
    have surrogate : 0xE0 + n / 0x1000 = 0xED ↔ n / 0x1000 = 0xD := by omega
    rw [lead?, if_neg (by omega), if_neg (by omega), if_pos (by omega), Nat.add_sub_cancel_left]
    simp [surrogate]
  have whole : (n / 0x1000 * 64 + n / 0x40 % 0x40) * 64 + n % 0x40 = n := by omega
  -- The second octet keeps out what fewer octets can tell, and the halves of pairs.
  have low : (if n / 0x1000 = 0 then 0xA0 else 0x80) ≤ 0x80 + n / 0x40 % 0x40 := by
    split <;> omega
  have high : 0x80 + n / 0x40 % 0x40 ≤
      if n / 0x1000 = 0xD ∧ surrogates = false then 0x9F else 0xBF := by
    split <;> omega
  rw [readLetter_lead (by omega) (by omega) lead, readTail_cons (by omega) low high,
    readTail_cons (by omega) (by omega) (by omega), readTail, whole]

theorem readLetter_four (surrogates : Bool) {n : Nat} (least : 0x10000 ≤ n) (most : n < 0x110000)
    (rest : Bytes) : readLetter surrogates (UInt8.ofNat (0xF0 + n / 0x40000))
      (UInt8.ofNat (0x80 + n / 0x1000 % 0x40) :: UInt8.ofNat (0x80 + n / 0x40 % 0x40) ::
        UInt8.ofNat (0x80 + n % 0x40) :: rest) = (Letter.ofCode? n, rest) := by
  have lead : lead? surrogates (0xF0 + n / 0x40000) =
      some (3, (if n / 0x40000 = 0 then 0x90 else 0x80,
        if n / 0x40000 = 4 then 0x8F else 0xBF), n / 0x40000) := by
    have last : 0xF0 + n / 0x40000 = 0xF4 ↔ n / 0x40000 = 4 := by omega
    rw [lead?, if_neg (by omega), if_neg (by omega), if_neg (by omega), if_pos (by omega),
      Nat.add_sub_cancel_left]
    simp [last]
  have whole : ((n / 0x40000 * 64 + n / 0x1000 % 0x40) * 64 + n / 0x40 % 0x40) * 64 + n % 0x40 =
      n := by omega
  have low : (if n / 0x40000 = 0 then 0x90 else 0x80) ≤ 0x80 + n / 0x1000 % 0x40 := by
    split <;> omega
  have high : 0x80 + n / 0x1000 % 0x40 ≤ if n / 0x40000 = 4 then 0x8F else 0xBF := by
    split <;> omega
  rw [readLetter_lead (by omega) (by omega) lead, readTail_cons (by omega) low high,
    readTail_cons (by omega) (by omega) (by omega), readTail_cons (by omega) (by omega) (by omega),
    readTail, whole]

theorem exists_encodeChar (surrogates : Bool) (c : Char) : ∃ b tail, encodeChar c = b :: tail ∧
    ∀ rest, readLetter surrogates b (tail ++ rest) = (some (.char c), rest) := by
  have valid := isValid c
  have code := ofCode?_toNat c
  unfold encodeChar
  simp only [Nat.div_one]
  split
  · refine ⟨_, [], rfl, fun rest => ?_⟩
    rw [readLetter, toNat_ofNat (by omega), if_pos ‹_›, Char.ofNat_toNat]
    rfl
  · split
    · refine ⟨_, _, rfl, fun rest => ?_⟩
      rw [← code]
      exact readLetter_two surrogates (by omega) (by omega) rest
    · split
      · refine ⟨_, _, rfl, fun rest => ?_⟩
        rw [← code]
        exact readLetter_three surrogates (by omega) (by omega) (by omega) rest
      · refine ⟨_, _, rfl, fun rest => ?_⟩
        rw [← code]
        exact readLetter_four surrogates (by omega) (by omega) rest

/-! ## Whole texts -/

theorem letters_append (surrogates : Bool) (c : Char) (rest : Bytes) :
    letters surrogates (encodeChar c ++ rest) = some (.char c) :: letters surrogates rest := by
  obtain ⟨b, tail, octets, read⟩ := exists_encodeChar surrogates c
  rw [octets, List.cons_append, letters, read]

theorem letters_flatMap (surrogates : Bool) (cs : List Char) :
    letters surrogates (cs.flatMap encodeChar) = cs.map fun c => some (.char c) := by
  induction cs with
  | nil => rw [List.flatMap_nil, letters, List.map_nil]
  | cons c cs ih => rw [List.flatMap_cons, letters_append, ih, List.map_cons]

theorem letters_encode (surrogates : Bool) (s : String) :
    letters surrogates (encode s) = s.toList.map fun c => some (.char c) :=
  letters_flatMap surrogates s.toList

theorem decode?_encode (s : String) : decode? (encode s) = some s := by
  rw [decode?, letters_encode]
  have chars : ∀ cs : List Char, (cs.map fun c => some (Letter.char c)).mapM
      (fun l : Option Letter => l.bind Letter.char?) = some cs := by
    intro cs
    induction cs with
    | nil => rfl
    | cons c cs ih => simp [ih, Letter.char?]
  rw [chars, Option.map_some, String.ofList_toList]

theorem decodeLoose?_encode (s : String) : decodeLoose? (encode s) = some (.ofString s) := by
  rw [decodeLoose?, letters_encode]
  have chars : ∀ cs : List Char, (cs.map fun c => some (Letter.char c)).mapM id =
      some (cs.map Letter.char) := by
    intro cs
    induction cs with
    | nil => rfl
    | cons c cs ih => simp [ih]
  rw [chars, Option.map_some]
  rfl

theorem decode_encode (s : String) : decode (encode s) = s := by
  rw [decode, letters_encode, List.map_map]
  have shown : ((fun l : Option Letter => (l.map Letter.shown).getD '\uFFFD') ∘
      fun c => some (Letter.char c)) = id := rfl
  rw [shown, List.map_id, String.ofList_toList]

end Topograph.Text.Utf8
