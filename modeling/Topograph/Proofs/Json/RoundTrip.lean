import Topograph.Proofs.Json.NumberText

/-!
# Reading a written document

The compact text of a document is read back as the document that it settles to: a number that is
not finite is null, and of the values that arrive under one key the last one stays. Every integer
has to be within the digit limit. The fuel that a text of some length has is enough, since each
step of the reader takes at least one character.
-/
namespace Topograph.Json

/-! ## Settled documents -/

mutual

/-- Every integer of the document has a text. -/
def IsWritable : Json → Prop
  | .number (.int n) => Number.IsWritable n
  | .array items => AreWritable items
  | .object fields => FieldsAreWritable fields
  | _ => True

def AreWritable : List Json → Prop
  | [] => True
  | v :: rest => IsWritable v ∧ AreWritable rest

def FieldsAreWritable : List (RawText × Json) → Prop
  | [] => True
  | f :: rest => IsWritable f.2 ∧ FieldsAreWritable rest

end

/-- A number as its text tells it. -/
def ofNumber : Number → Json
  | .int n => .number (.int n)
  | .float (.finite negative m) => .number (.float (.finite negative m))
  | .float _ => .null

/-- A text with the replacement character for each half that stands alone. -/
def shownText (s : RawText) : RawText := .ofChars s.shownChars

mutual

/-- The document that the written text stands for. -/
def settled : Json → Json
  | .number n => ofNumber n
  | .string s => .string (shownText s)
  | .array items => .array (settledItems items)
  | .object fields => ofArrivals (settledFields fields)
  | v => v

def settledItems : List Json → List Json
  | [] => []
  | v :: rest => settled v :: settledItems rest

def settledFields : List (RawText × Json) → List (RawText × Json)
  | [] => []
  | f :: rest => (shownText f.1, settled f.2) :: settledFields rest

end

theorem shownText_of_isOrdinary {s : RawText} (h : s.isOrdinary = true) : shownText s = s := by
  obtain ⟨letters⟩ := s
  have ordinary : ∀ l ∈ letters, l.char?.isSome = true := List.all_eq_true.mp h
  have same : ∀ l ∈ letters, Letter.char l.shown = l := by
    intro l hl
    have char := ordinary l hl
    cases l with
    | char c => rfl
    | half n => simp [Letter.char?] at char
  have letters_eq : (letters.map Letter.shown).map Letter.char = letters := by
    rw [List.map_map]
    exact (List.map_congr_left same).trans (List.map_id letters)
  exact congrArg RawText.mk letters_eq

namespace Reader
open Topograph.Number

/-! ## Strings -/

theorem hexFour?_hex {n : Nat} (h : n < 0xD800) (next : Letter) (rest : List Letter) :
    hexFour? ((Text.Quoted.hex 4 n).map .char ++ next :: rest) =
      some (.char (Char.ofNat n), next :: rest) := by
  have digit (d : Nat) (hd : d < 16) :
      Text.Hexadecimal.value? (Text.Hexadecimal.small d) = some d :=
    Text.Hexadecimal.value?_small ⟨d, hd⟩
  have valid : n.isValidChar := .inl h
  have sum :
      ((n / 16 / 16 / 16 % 16 * 16 + n / 16 / 16 % 16) * 16 + n / 16 % 16) * 16 + n % 16 = n := by
    omega
  have letter : Letter.ofCode? n = some (.char (Char.ofNat n)) := by
    rw [Letter.ofCode?, dif_neg (by omega), if_pos valid]
  simp only [Text.Quoted.hex, List.nil_append, List.cons_append, List.map_cons, List.map_nil,
    hexFour?, digit _ (Nat.mod_lt _ (by decide : 0 < 16)), Option.bind_eq_bind, Option.bind_some,
    sum, letter]

theorem readCode_hex {n : Nat} (h : n < 0xD800) (next : Letter) (rest : List Letter) :
    readCode (.char 'u' :: ((Text.Quoted.hex 4 n).map .char ++ next :: rest)) =
      .ok (.char (Char.ofNat n), next :: rest) := by
  have low : (Letter.char (Char.ofNat n)).isHigh = false := rfl
  simp only [readCode, hexFour?_hex h next rest, low, Bool.false_and, Bool.false_eq_true, if_false]
  split <;> rfl

/-- A backslash and a letter that names a character. -/
theorem readString_named (strict : Bool) (start : List Letter) (fuel : Nat) {name c : Char}
    (h : named? (.char name) = some c) (rest done : List Letter) :
    readString strict start (fuel + 1) (.char '\\' :: .char name :: rest) done =
      readString strict start fuel rest (.char c :: done) := by
  have notCode : name ≠ 'u' := by
    rintro rfl
    exact absurd h (by simp [named?])
  simp [readString, notCode, h]

/-- One character of a string takes one step, as long as the string goes on after it. -/
theorem readString_escape (strict : Bool) (start : List Letter) (fuel : Nat) (c : Char)
    (next : Letter) (rest done : List Letter) :
    readString strict start (fuel + 1) ((escape c).map .char ++ next :: rest) done =
      readString strict start fuel (next :: rest) (.char c :: done) := by
  by_cases quote : c = '"'
  · subst quote
    exact readString_named strict start fuel rfl _ _
  by_cases backslash : c = '\\'
  · subst backslash
    exact readString_named strict start fuel rfl _ _
  unfold escape
  rw [if_neg quote, if_neg backslash]
  split
  · subst_vars
    exact readString_named strict start fuel rfl _ _
  split
  · subst_vars
    exact readString_named strict start fuel rfl _ _
  split
  · subst_vars
    exact readString_named strict start fuel rfl _ _
  split
  · subst_vars
    exact readString_named strict start fuel rfl _ _
  split
  · subst_vars
    exact readString_named strict start fuel rfl _ _
  split
  · rename_i control
    have code := readCode_hex (by omega : c.toNat < 0xD800) next rest
    simp [readString, code, Letter.char?]
  · rename_i control
    simp [readString, quote, backslash, Letter.code, control]

theorem length_escape_pos (c : Char) : 0 < (escape c).length := by
  unfold escape
  repeat' split
  all_goals exact Nat.succ_pos _

theorem readString_flatMap_escape (strict : Bool) (start : List Letter) (cs : List Char)
    (rest done : List Letter) {fuel : Nat} (hfuel : (cs.flatMap escape).length < fuel) :
    readString strict start fuel ((cs.flatMap escape).map .char ++ .char '"' :: rest) done =
      .ok (⟨done.reverse ++ cs.map .char⟩, rest) := by
  induction cs generalizing fuel done with
  | nil =>
    obtain ⟨fuel, rfl⟩ : ∃ k, fuel = k + 1 := ⟨fuel - 1, by omega⟩
    simp [readString]
  | cons c cs ih =>
    obtain ⟨fuel, rfl⟩ : ∃ k, fuel = k + 1 := ⟨fuel - 1, by omega⟩
    have more : (cs.flatMap escape).length < fuel := by
      have := length_escape_pos c
      rw [List.flatMap_cons, List.length_append] at hfuel
      omega
    obtain ⟨next, others, tail⟩ : ∃ next others,
        (cs.flatMap escape).map .char ++ .char '"' :: rest = next :: others :=
      List.exists_cons_of_ne_nil (by simp)
    rw [List.flatMap_cons, List.map_append, List.append_assoc, tail, readString_escape, ← tail,
      ih (.char c :: done) more]
    simp

theorem readString_quoted (strict : Bool) (start : List Letter) (s : RawText) (cs : List Char)
    {fuel : Nat} (hfuel : (quoted s).length ≤ fuel + 1) :
    readString strict start fuel (((quoted s).tail ++ cs).map .char) [] =
      .ok (shownText s, cs.map .char) := by
  have length : (s.shownChars.flatMap escape).length < fuel := by
    rw [quoted, List.length_cons, List.length_append] at hfuel
    simp only [List.length_singleton] at hfuel
    omega
  have read := readString_flatMap_escape strict start s.shownChars (cs.map .char) [] length
  rw [quoted, List.tail_cons, List.append_assoc, List.map_append]
  exact read

/-! ## Words and numbers -/

/-- The characters of a finite number: perhaps a minus sign, and a digit. -/
def BeginsNumber (cs : List Char) : Prop :=
  ∃ (negative : Bool) (d : Char) (rest : List Char), Numeral.isDigit d = true ∧
    cs = (if negative then ['-'] else []) ++ d :: rest

theorem BeginsNumber.append {cs : List Char} (h : BeginsNumber cs) (rest : List Char) :
    BeginsNumber (cs ++ rest) := by
  obtain ⟨negative, d, more, hd, rfl⟩ := h
  exact ⟨negative, d, more ++ rest, hd, by simp⟩

theorem beginsNumber_integer (n : Int) : BeginsNumber (numberChars (.int n)) := by
  obtain ⟨d, rest, digits⟩ := List.exists_cons_of_ne_nil (Numeral.digits_ne_nil n.natAbs)
  refine ⟨decide (n < 0), d, rest, ?_, ?_⟩
  · exact Numeral.isDigit_of_mem_digits (by rw [digits]; simp)
  · rw [numberChars, toList_integerText, digits]
    simp only [decide_eq_true_eq]

theorem beginsNumber_finite (negative : Bool) (m : Magnitude) :
    BeginsNumber (numberChars (.float (.finite negative m))) := by
  have wf := Layout.wellFormed_parts numberLayout (d := m.shortest) Magnitude.exponent_shortest
  obtain ⟨d, rest, whole⟩ := List.exists_cons_of_ne_nil wf.whole_ne_nil
  refine ⟨negative, d, rest ++ ((numberLayout.parts m.shortest).fractionChars ++
    (numberLayout.parts m.shortest).powerChars), wf.whole_digits d (by rw [whole]; simp), ?_⟩
  rw [numberChars, Layout.finite, ← Layout.chars_parts, DecimalText.chars, whole]
  simp only [List.cons_append, List.append_assoc]

theorem word?_of_beginsNumber {cs : List Char} (h : BeginsNumber cs) :
    word? (cs.map .char) = none := by
  obtain ⟨negative, d, rest, hd, rfl⟩ := h
  have letters : (['n', 't', 'f', 'N', 'I', '-'].all fun c => !Numeral.isDigit c) = true := rfl
  have ne : ∀ c ∈ ['n', 't', 'f', 'N', 'I', '-'], c ≠ d := by
    rintro c hc rfl
    simpa [hd] using List.all_eq_true.mp letters c hc
  cases negative <;> simp [word?, words, RawText.ofString, RawText.ofChars, ne]

/-- What is neither a string nor a bracket nor a word is read as a number. -/
theorem readValue_of_beginsNumber (strict : Bool) (levels fuel : Nat) {cs : List Char}
    (h : BeginsNumber cs) {n : Number} {rest : List Letter}
    (hread : readNumber strict (cs.map .char) = .ok (n, rest)) :
    readValue strict levels (fuel + 1) (cs.map .char) = .ok (.number n, rest) := by
  have word := word?_of_beginsNumber h
  obtain ⟨c, more, begins, quote, bracket, brace⟩ : ∃ c more, cs.map Letter.char = .char c :: more ∧
      c ≠ '"' ∧ c ≠ '[' ∧ c ≠ '{' := by
    obtain ⟨negative, d, rest, hd, rfl⟩ := h
    cases negative with
    | true => exact ⟨'-', _, rfl, by decide, by decide, by decide⟩
    | false =>
      refine ⟨d, _, rfl, ?_, ?_, ?_⟩ <;> (rintro rfl; exact absurd hd (by decide))
  rw [begins] at hread word ⊢
  simp [readValue, quote, bracket, brace, word, hread]

/-! ## Values -/

/-- A written document begins neither with white space nor with a closing bracket. -/
def BeginsValue (cs : List Char) : Prop :=
  ∃ c rest, cs = c :: rest ∧ isSpace (.char c) = false ∧ c ≠ ']' ∧ c ≠ '\x7d'

theorem BeginsNumber.beginsValue {cs : List Char} (h : BeginsNumber cs) : BeginsValue cs := by
  obtain ⟨negative, d, rest, hd, rfl⟩ := h
  cases negative with
  | true => exact ⟨'-', _, rfl, by decide, by decide, by decide⟩
  | false =>
    have others : ([' ', '\t', '\n', '\r', ']', '\x7d'].all fun c => !Numeral.isDigit c) = true :=
      rfl
    have ne : ∀ c ∈ [' ', '\t', '\n', '\r', ']', '\x7d'], c ≠ d := by
      rintro c hc rfl
      simpa [hd] using List.all_eq_true.mp others c hc
    refine ⟨d, rest, rfl, ?_, (ne _ (by simp)).symm, (ne _ (by simp)).symm⟩
    simp [isSpace, Letter.isIn, (ne _ _).symm]

theorem beginsValue_chars (v : Json) : BeginsValue (chars v) := by
  cases v with
  | null => exact ⟨'n', _, rfl, by decide, by decide, by decide⟩
  | bool b =>
    cases b with
    | true => exact ⟨'t', _, rfl, by decide, by decide, by decide⟩
    | false => exact ⟨'f', _, rfl, by decide, by decide, by decide⟩
  | number n =>
    cases n with
    | int n => exact (beginsNumber_integer n).beginsValue
    | float x =>
      cases x with
      | finite negative m => exact (beginsNumber_finite negative m).beginsValue
      | nan | infinite negative => exact ⟨'n', _, rfl, by decide, by decide, by decide⟩
  | string s => exact ⟨'"', _, rfl, by decide, by decide, by decide⟩
  | array items =>
    cases items <;> exact ⟨'[', _, rfl, by decide, by decide, by decide⟩
  | object fields =>
    cases fields <;> exact ⟨'{', _, rfl, by decide, by decide, by decide⟩

theorem exists_fuel (v : Json) {fuel : Nat} (h : (chars v).length ≤ fuel) :
    ∃ k, fuel = k + 1 := by
  obtain ⟨c, rest, begins, -⟩ := beginsValue_chars v
  rw [begins, List.length_cons] at h
  exact ⟨fuel - 1, by omega⟩

theorem exists_levels {depth levels : Nat} (deep : 0 < depth) (h : depth ≤ levels) :
    ∃ k, levels = k + 1 := Nat.exists_eq_add_one.mpr (deep.trans_le h)

theorem skipSpace_of_beginsValue {cs : List Char} (h : BeginsValue cs) (rest : List Char) :
    skipSpace ((cs ++ rest).map .char) = (cs ++ rest).map .char := by
  obtain ⟨c, more, rfl, space, -, -⟩ := h
  rw [List.cons_append, List.map_cons, skipSpace, List.dropWhile_cons_of_neg (by simp [space])]

theorem endsNumber_charsItems (items : List Json) (cs : List Char) :
    EndsNumber (charsItems items ++ cs) := by
  cases items <;> exact endsNumber_cons _ (by decide)

theorem endsNumber_charsFields (fields : List (RawText × Json)) (cs : List Char) :
    EndsNumber (charsFields fields ++ cs) := by
  cases fields <;> exact endsNumber_cons _ (by decide)

theorem readValue_number (strict : Bool) {n : Number} (h : (Json.number n).IsWritable)
    (levels fuel : Nat) {cs : List Char} (hcs : EndsNumber cs) :
    readValue strict levels (fuel + 1) ((numberChars n ++ cs).map .char) =
      .ok (ofNumber n, cs.map .char) := by
  cases n with
  | int n =>
    exact readValue_of_beginsNumber strict levels fuel ((beginsNumber_integer n).append cs)
      (readNumber_integer strict h hcs)
  | float x =>
    cases x with
    | finite negative m =>
      have begins := (beginsNumber_finite negative m).append cs
      exact readValue_of_beginsNumber strict levels fuel begins
        (readNumber_finite strict negative m hcs)
    | nan => rfl
    | infinite negative => rfl

theorem readValue_string (strict : Bool) (levels : Nat) (s : RawText) {fuel : Nat}
    (hfuel : (quoted s).length ≤ fuel + 1) (cs : List Char) :
    readValue strict levels (fuel + 1) ((quoted s ++ cs).map .char) =
      .ok (.string (shownText s), cs.map .char) := by
  have begins : (quoted s ++ cs).map Letter.char =
      .char '"' :: ((quoted s).tail ++ cs).map .char := rfl
  have read := readString_quoted strict ((quoted s ++ cs).map .char) s cs hfuel
  rw [begins] at read ⊢
  simp only [readValue, read]

/-- An opening bracket and the elements from the first one on. -/
theorem readValue_array (strict : Bool) (v : Json) (rest : List Json) (levels fuel : Nat)
    (cs : List Char) :
    readValue strict (levels + 1) (fuel + 1) ((chars (.array (v :: rest)) ++ cs).map .char) =
      readItems strict levels fuel (((charsItems (v :: rest)).tail ++ cs).map .char) [] := by
  have skip := skipSpace_of_beginsValue (beginsValue_chars v) (charsItems rest ++ cs)
  have text : chars (.array (v :: rest)) ++ cs = '[' :: (chars v ++ (charsItems rest ++ cs)) := by
    rw [← List.append_assoc]
    rfl
  have inner : (charsItems (v :: rest)).tail ++ cs = chars v ++ (charsItems rest ++ cs) :=
    List.append_assoc _ _ _
  obtain ⟨c, more, begins, -, bracket, -⟩ := beginsValue_chars v
  rw [text, inner, List.map_cons, readValue, skip, begins, List.cons_append, List.map_cons]
  split
  · rename_i closes
    exact absurd (Letter.char.inj (List.cons.inj closes).1) bracket
  · rfl

/-- An opening brace and the fields from the first one on. -/
theorem readValue_object (strict : Bool) (f : RawText × Json) (rest : List (RawText × Json))
    (levels fuel : Nat) (cs : List Char) :
    readValue strict (levels + 1) (fuel + 1) ((chars (.object (f :: rest)) ++ cs).map .char) =
      readFields strict levels fuel (((charsFields (f :: rest)).tail ++ cs).map .char) [] := by
  rfl

theorem readItems_cons (strict : Bool) {v : Json} {rest : List Json} {levels fuel : Nat}
    {cs : List Char} {done : List Json} (hvalue : readValue strict levels fuel
      ((chars v ++ (charsItems rest ++ cs)).map .char) =
        .ok (v.settled, (charsItems rest ++ cs).map .char)) :
    readItems strict levels (fuel + 1) (((charsItems (v :: rest)).tail ++ cs).map .char) done =
      match rest with
      | [] => .ok (.array (v.settled :: done).reverse, cs.map .char)
      | _ => readItems strict levels fuel (((charsItems rest).tail ++ cs).map .char)
        (v.settled :: done) := by
  rw [charsItems, List.tail_cons, List.append_assoc, readItems, hvalue]
  cases rest with
  | nil => rfl
  | cons w rest =>
    have skip := skipSpace_of_beginsValue (beginsValue_chars w) (charsItems rest ++ cs)
    rw [← List.append_assoc] at skip
    exact congrArg (readItems strict levels fuel · (v.settled :: done)) skip

theorem readFields_cons (strict : Bool) {f : RawText × Json} {rest : List (RawText × Json)}
    {levels fuel : Nat} {cs : List Char} {done : List (RawText × Json)}
    (hkey : (quoted f.1).length ≤ fuel + 1) (hvalue : readValue strict levels fuel
      ((chars f.2 ++ (charsFields rest ++ cs)).map .char) =
        .ok (f.2.settled, (charsFields rest ++ cs).map .char)) :
    readFields strict levels (fuel + 1) (((charsFields (f :: rest)).tail ++ cs).map .char) done =
      match rest with
      | [] => .ok (ofArrivals ((shownText f.1, f.2.settled) :: done).reverse, cs.map .char)
      | _ => readFields strict levels fuel (((charsFields rest).tail ++ cs).map .char)
        ((shownText f.1, f.2.settled) :: done) := by
  have begins : ((charsFields (f :: rest)).tail ++ cs).map Letter.char = .char '"' ::
      ((quoted f.1).tail ++ ':' :: (chars f.2 ++ (charsFields rest ++ cs))).map .char := by
    simp [charsFields, quoted]
  have key := readString_quoted strict (((charsFields (f :: rest)).tail ++ cs).map .char) f.1
    (':' :: (chars f.2 ++ (charsFields rest ++ cs))) hkey
  have beforeValue := skipSpace_of_beginsValue (beginsValue_chars f.2) (charsFields rest ++ cs)
  have colon : skipSpace ((':' :: (chars f.2 ++ (charsFields rest ++ cs))).map .char) =
    .char ':' :: (chars f.2 ++ (charsFields rest ++ cs)).map .char := rfl
  rw [begins] at key ⊢
  simp only [readFields, key, colon, beforeValue, hvalue]
  cases rest with
  | nil => rfl
  | cons g rest => rfl

mutual

/-- The text of a document is read back as the settled document, whatever follows it, if the
document nests no deeper than the levels admit. -/
theorem readValue_chars (strict : Bool) : ∀ (v : Json) (levels fuel : Nat) (cs : List Char),
    v.IsWritable → v.depth ≤ levels → (chars v).length ≤ fuel → EndsNumber cs →
    readValue strict levels fuel ((chars v ++ cs).map .char) = .ok (v.settled, cs.map .char)
  | .null, levels, fuel, cs, _, _, hfuel, _ => by
    obtain ⟨fuel, rfl⟩ := exists_fuel _ hfuel
    rfl
  | .bool b, levels, fuel, cs, _, _, hfuel, _ => by
    obtain ⟨fuel, rfl⟩ := exists_fuel _ hfuel
    cases b <;> rfl
  | .number n, levels, fuel, cs, h, _, hfuel, hcs => by
    obtain ⟨fuel, rfl⟩ := exists_fuel _ hfuel
    exact readValue_number strict h levels fuel hcs
  | .string s, levels, fuel, cs, _, _, hfuel, _ => by
    obtain ⟨fuel, rfl⟩ := exists_fuel _ hfuel
    exact readValue_string strict levels s hfuel cs
  | .array [], levels, fuel, cs, _, hdepth, hfuel, _ => by
    obtain ⟨fuel, rfl⟩ := exists_fuel _ hfuel
    obtain ⟨levels, rfl⟩ := exists_levels Nat.zero_lt_one hdepth
    rfl
  | .array (v :: rest), levels, fuel, cs, h, hdepth, hfuel, hcs => by
    obtain ⟨fuel, rfl⟩ := exists_fuel _ hfuel
    obtain ⟨levels, rfl⟩ := exists_levels (Nat.succ_pos _) hdepth
    rw [readValue_array]
    exact readItems_chars strict (v :: rest) levels fuel cs [] (List.cons_ne_nil _ _) h
      (Nat.le_of_succ_le_succ hdepth) hfuel
  | .object [], levels, fuel, cs, _, hdepth, hfuel, _ => by
    obtain ⟨fuel, rfl⟩ := exists_fuel _ hfuel
    obtain ⟨levels, rfl⟩ := exists_levels Nat.zero_lt_one hdepth
    rfl
  | .object (f :: rest), levels, fuel, cs, h, hdepth, hfuel, hcs => by
    obtain ⟨fuel, rfl⟩ := exists_fuel _ hfuel
    obtain ⟨levels, rfl⟩ := exists_levels (Nat.succ_pos _) hdepth
    rw [readValue_object]
    exact readFields_chars strict (f :: rest) levels fuel cs [] (List.cons_ne_nil _ _) h
      (Nat.le_of_succ_le_succ hdepth) hfuel

/-- The elements up to the closing bracket, after those that are done. -/
theorem readItems_chars (strict : Bool) : ∀ (items : List Json) (levels fuel : Nat)
    (cs : List Char) (done : List Json), items ≠ [] → AreWritable items →
    depthOfItems items ≤ levels → (charsItems items).length ≤ fuel + 1 →
    readItems strict levels fuel (((charsItems items).tail ++ cs).map .char) done =
      .ok (.array (done.reverse ++ settledItems items), cs.map .char)
  | [], _, _, _, _, nonempty, _, _, _ => absurd rfl nonempty
  | v :: rest, levels, fuel, cs, done, _, ⟨hvalue, hrest⟩, hdepth, hfuel => by
    have lengths : (charsItems (v :: rest)).length =
        (chars v).length + (charsItems rest).length + 1 := by
      simp [charsItems]
    have closing : 0 < (charsItems rest).length := by cases rest <;> simp [charsItems]
    obtain ⟨first, others⟩ : v.depth ≤ levels ∧ depthOfItems rest ≤ levels := max_le_iff.mp hdepth
    obtain ⟨fuel, rfl⟩ : ∃ k, fuel = k + 1 := exists_fuel v (by omega)
    have value := readValue_chars strict v levels fuel (charsItems rest ++ cs) hvalue first
      (by omega) (endsNumber_charsItems rest cs)
    rw [readItems_cons strict value]
    cases rest with
    | nil => simp [settledItems]
    | cons w rest =>
      have items := readItems_chars strict (w :: rest) levels fuel cs (v.settled :: done)
        (List.cons_ne_nil _ _) hrest others (by omega)
      exact items.trans (by simp [settledItems])

/-- The fields up to the closing brace, after those that are done. -/
theorem readFields_chars (strict : Bool) : ∀ (fields : List (RawText × Json)) (levels fuel : Nat)
    (cs : List Char) (done : List (RawText × Json)), fields ≠ [] → FieldsAreWritable fields →
    depthOfFields fields ≤ levels → (charsFields fields).length ≤ fuel + 1 →
    readFields strict levels fuel (((charsFields fields).tail ++ cs).map .char) done =
      .ok (ofArrivals (done.reverse ++ settledFields fields), cs.map .char)
  | [], _, _, _, _, nonempty, _, _, _ => absurd rfl nonempty
  | (key, v) :: rest, levels, fuel, cs, done, _, ⟨hvalue, hrest⟩, hdepth, hfuel => by
    have lengths : (charsFields ((key, v) :: rest)).length =
        (quoted key).length + (chars v).length + (charsFields rest).length + 2 := by
      simp only [charsFields, List.length_cons, List.length_append]
      omega
    have closing : 0 < (charsFields rest).length := by cases rest <;> simp [charsFields]
    obtain ⟨first, others⟩ : v.depth ≤ levels ∧ depthOfFields rest ≤ levels :=
      max_le_iff.mp hdepth
    obtain ⟨fuel, rfl⟩ : ∃ k, fuel = k + 1 := exists_fuel v (by omega)
    have keyFits : (quoted key).length ≤ fuel + 1 := by omega
    have value := readValue_chars strict v levels fuel (charsFields rest ++ cs) hvalue first
      (by omega) (endsNumber_charsFields rest cs)
    rw [readFields_cons strict keyFits value]
    cases rest with
    | nil => simp [settledFields]
    | cons g rest =>
      have fields := readFields_chars strict (g :: rest) levels fuel cs
        ((shownText key, v.settled) :: done) (List.cons_ne_nil _ _) hrest others (by omega)
      exact fields.trans (by simp [settledFields])

end

theorem readAll_chars (strict : Bool) {v : Json} (h : v.IsWritable) {levels : Nat}
    (fits : v.depth ≤ levels) : readAll strict levels ((chars v).map .char) = .ok v.settled := by
  have enough : (chars v).length ≤ 2 * ((chars v).map Letter.char).length + 2 := by
    rw [List.length_map]
    omega
  have skip := skipSpace_of_beginsValue (beginsValue_chars v) []
  have value := readValue_chars strict v levels _ [] h fits enough endsNumber_nil
  simp only [List.append_nil] at skip value
  rw [readAll, skip, value]
  rfl

end Reader

/-- Reading the text of a document gives the settled document, if there is headroom for it. -/
theorem read_write {v : Json} (h : v.IsWritable) {headroom : Headroom}
    (fits : v.depth ≤ headroom.levels) :
    read headroom (RawText.ofString v.write) = .ok v.settled := by
  simp only [read, write, RawText.ofString, RawText.ofChars, String.toList_ofList,
    Reader.readAll_chars false h fits]

/-- The strict rules read a written document as any others do. -/
theorem readStrict?_write {v : Json} (h : v.IsWritable) (fits : v.depth ≤ strictLevels) :
    readStrict? v.write = some v.settled := by
  simp only [readStrict?, write, RawText.ofString, RawText.ofChars, String.toList_ofList,
    Reader.readAll_chars true h fits]
  rfl

end Topograph.Json
