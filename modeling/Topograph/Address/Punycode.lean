/-!
# Punycode

A label with letters beyond the ASCII range as letters, digits and hyphens. Its ASCII characters
come first; the others are inserted in ascending order of their code points, and each insertion is
told by the number of places passed over since the last one. Such a number is written in base 36
with a threshold for each digit, and the thresholds adapt to the numbers seen so far. Digits that
stop short or insert what is no character stand for no label.
-/
namespace Topograph.Punycode

/-- The character of a digit below 36: letters first. -/
def digitChar (d : Nat) : Char := if d < 26 then Char.ofNat (97 + d) else Char.ofNat (22 + d)

/-- The digit of a small letter or a digit. -/
def digit? (c : Char) : Option Nat :=
  let n := c.toNat
  if 97 ≤ n ∧ n ≤ 122 then some (n - 97) else if 48 ≤ n ∧ n ≤ 57 then some (n - 22) else none

theorem digit?_digitChar : ∀ d : Fin 36, digit? (digitChar d) = some d.val := by decide

/-- The threshold of the digit at a position, which counts up by 36. -/
def threshold (position bias : Nat) : Nat :=
  if position ≤ bias then 1 else if bias + 26 ≤ position then 26 else position - bias

theorem threshold_bounds (position bias : Nat) :
    1 ≤ threshold position bias ∧ threshold position bias ≤ 26 := by
  unfold threshold
  split
  · omega
  · split <;> omega

/-- A number in digits of rising weight; a digit below its threshold is the last one. -/
def digits (bias position n : Nat) : List Char :=
  let t := threshold position bias
  if n < t then [digitChar n]
  else digitChar (t + (n - t) % (36 - t)) :: digits bias (position + 36) ((n - t) / (36 - t))
termination_by n
decreasing_by
  have bounds := threshold_bounds position bias
  have quotient := Nat.div_le_self (n - threshold position bias) (36 - threshold position bias)
  omega

/-- How often a number can be divided by 35 until it is at most 455, in steps of 36, and what is
left of it. -/
def reduce (steps n : Nat) : Nat × Nat :=
  if 455 < n then reduce (steps + 36) (n / 35) else (steps, n)
termination_by n
decreasing_by omega

/-- The bias after a number, when so many characters have been placed. The first number counts
less. -/
def adapt (first : Bool) (placed n : Nat) : Nat :=
  let damped := if first then n / 700 else n / 2
  let (steps, rest) := reduce 0 (damped + damped / placed)
  steps + 36 * rest / (rest + 38)

/-- What has been written, the places passed over since the last insertion, the bias, and the
number of characters placed, of which `basic` were placed at the start. -/
structure State where
  written : List Char
  passed : Nat
  bias : Nat
  placed : Nat
  basic : Nat
  deriving DecidableEq, Repr

/-- Pass one character of the label while the code point `next` is inserted. -/
def step (next : Nat) (s : State) (c : Char) : State :=
  if c.toNat < next then { s with passed := s.passed + 1 }
  else if c.toNat = next then
    { s with
      written := s.written ++ digits s.bias 36 s.passed
      passed := 0
      bias := adapt (s.placed == s.basic) (s.placed + 1) s.passed
      placed := s.placed + 1 }
  else s

/-- Insert the code points in order; all below `least` have been inserted. -/
def insertAll (label : List Char) : List Nat → Nat → State → State
  | [], _, s => s
  | next :: rest, least, s =>
    let reached := { s with passed := s.passed + (next - least) * (s.placed + 1) }
    let s := label.foldl (step next) reached
    insertAll label rest (next + 1) { s with passed := s.passed + 1 }

/-- The code points beyond the ASCII range, ascending and without repetition. -/
def others (label : List Char) : List Nat :=
  ((label.map Char.toNat).filter (128 ≤ ·)).mergeSort.eraseDups

/-- The label in letters, digits and hyphens. -/
def encode (label : List Char) : List Char :=
  let basic := label.filter (·.toNat < 128)
  let start : State := ⟨[], 0, 72, basic.length, basic.length⟩
  basic ++ (if basic.isEmpty then [] else ['-'])
    ++ (insertAll label (others label) 128 start).written

/-! ## Reading -/

/-- The number that the digits begin with, each digit having its weight, and the digits after it. -/
def number? (bias : Nat) : Nat → Nat → List Char → Option (Nat × List Char)
  | _, _, [] => none
  | position, weight, c :: rest => do
    let d ← digit? c
    let t := threshold position bias
    if d < t then return (d * weight, rest)
    else do
      let (n, rest) ← number? bias (position + 36) (weight * (36 - t)) rest
      return (d * weight + n, rest)

theorem length_lt_of_number? {bias position weight n : Nat} {cs rest : List Char}
    (h : number? bias position weight cs = some (n, rest)) : rest.length < cs.length := by
  induction cs generalizing position weight n with
  | nil => simp [number?] at h
  | cons c cs ih =>
    simp only [number?, Option.bind_eq_bind, Option.bind_eq_some_iff] at h
    obtain ⟨d, -, h⟩ := h
    split at h
    · simp only [Option.pure_def, Option.some.injEq, Prod.mk.injEq] at h
      simp [← h.2]
    · rw [Option.bind_eq_some_iff] at h
      obtain ⟨⟨m, after⟩, hm, h⟩ := h
      simp only [Option.pure_def, Option.some.injEq, Prod.mk.injEq] at h
      obtain ⟨-, rfl⟩ := h
      exact Nat.lt_succ_of_lt (ih hm)

/-- Insert the code points that the digits tell of. The next one is at least `code`, and if it is
`code`, it comes at `place` or after. -/
def insertions? (code place bias : Nat) (first : Bool) (label : List Nat) (ds : List Char) :
    Option (List Nat) :=
  if ds.isEmpty then some label
  else match h : number? bias 36 1 ds with
    | none => none
    | some (passed, rest) =>
      let next := code + (place + passed) / (label.length + 1)
      let index := (place + passed) % (label.length + 1)
      if 0x10FFFF < next then none
      else
        let label := label.take index ++ next :: label.drop index
        insertions? next (index + 1) (adapt first label.length passed) false label rest
termination_by ds.length
decreasing_by exact length_lt_of_number? h

/-- The label that letters, digits and hyphens stand for: what is before the last hyphen is as it
is. -/
def decode? (cs : List Char) : Option (List Char) :=
  let ds := (cs.reverse.takeWhile (· != '-')).reverse
  let basic := cs.take (cs.length - ds.length - 1)
  (insertions? 128 0 72 true (basic.map Char.toNat) ds).bind fun codes =>
    codes.mapM fun n => if n.isValidChar then some (Char.ofNat n) else none

end Topograph.Punycode
