import Topograph.Text.Utf8

/-!
# Inflating

A deflated stream is a sequence of blocks: stored octets, or symbols of two prefix codes that are
either fixed or sent in front of the block. A symbol is an octet, a length of octets to repeat from
some distance back, or the end of the block. Bits are read from the lowest of each octet. The reader
gives the octets and the place after the stream, or nothing if the stream is malformed or ends too
early.
-/
namespace Topograph.Codec.Inflate

/-! ## Bits -/

/-- The bit at a place, counted from the lowest bit of the first octet. -/
def bit? (data : ByteArray) (pos : Nat) : Option Nat :=
  (data[pos / 8]?).map fun b => (b.toNat >>> (pos % 8)) % 2

/-- A number of `count` bits, lowest bit first, and the place after it. -/
def bits? (data : ByteArray) : Nat → Nat → Option (Nat × Nat)
  | 0, pos => some (0, pos)
  | count + 1, pos => do
    let low ← bit? data pos
    let (high, pos) ← bits? data count (pos + 1)
    return (low + 2 * high, pos)

/-! ## Codes -/

/-- A code in canonical form: how many symbols have each length from 1 to 15, and the symbols in
order of their codes. -/
structure Code where
  counts : Array Nat
  symbols : Array Nat
  deriving Repr, Inhabited

/-- The number of codes that are left over when each length up to 15 is served; none if the
lengths ask for more than there are. -/
def unused? (counts : Array Nat) : Option Nat :=
  (List.range 15).foldlM (fun left i =>
    let left := 2 * left
    let used := counts.getD (i + 1) 0
    if used ≤ left then some (left - used) else none) 1

/-- The code of the symbols with these lengths, where length zero means that the symbol is not
used. A code that leaves something over is accepted only if it has no symbol longer than one bit,
and only where `partialOk` allows it. -/
def Code.ofLengths? (partialOk : Bool) (lengths : List Nat) : Option Code := do
  let counts := lengths.foldl (fun (cs : Array Nat) l => cs.modify l (· + 1)) (Array.replicate 16 0)
  let left ← unused? counts
  let longest := lengths.foldl max 0
  if left = 0 ∨ (partialOk ∧ longest ≤ 1) then
    let ofLength (l : Nat) : List Nat := (lengths.zipIdx.filter fun p => p.1 == l).map Prod.snd
    return ⟨counts, ((List.range 15).flatMap fun l => ofLength (l + 1)).toArray⟩
  else none

/-- The next symbol: the bits so far are `code`, the first code of this length is `first`, and its
symbol stands at `index`. -/
def symbolFrom? (c : Code) (data : ByteArray) :
    Nat → Nat → Nat → Nat → Nat → Nat → Option (Nat × Nat)
  | 0, _, _, _, _, _ => none
  | fuel + 1, length, code, first, index, pos => do
    let b ← bit? data pos
    let code := code + b
    let count := c.counts.getD length 0
    if code < first + count then
      return (← c.symbols[index + (code - first)]?, pos + 1)
    else
      symbolFrom? c data fuel (length + 1) (2 * code) (2 * (first + count)) (index + count)
        (pos + 1)

/-- The next symbol of a code, of at most 15 bits, and the place after it. -/
def symbol? (c : Code) (data : ByteArray) (pos : Nat) : Option (Nat × Nat) :=
  symbolFrom? c data 15 1 0 0 0 pos

/-! ## Blocks -/

/-- The least length of a length symbol and its extra bits. -/
def lengthBase : Array (Nat × Nat) :=
  #[(3, 0), (4, 0), (5, 0), (6, 0), (7, 0), (8, 0), (9, 0), (10, 0), (11, 1), (13, 1), (15, 1),
    (17, 1), (19, 2), (23, 2), (27, 2), (31, 2), (35, 3), (43, 3), (51, 3), (59, 3), (67, 4),
    (83, 4), (99, 4), (115, 4), (131, 5), (163, 5), (195, 5), (227, 5), (258, 0)]

/-- The least distance of a distance symbol and its extra bits. -/
def distanceBase : Array (Nat × Nat) :=
  #[(1, 0), (2, 0), (3, 0), (4, 0), (5, 1), (7, 1), (9, 2), (13, 2), (17, 3), (25, 3), (33, 4),
    (49, 4), (65, 5), (97, 5), (129, 6), (193, 6), (257, 7), (385, 7), (513, 8), (769, 8),
    (1025, 9), (1537, 9), (2049, 10), (3073, 10), (4097, 11), (6145, 11), (8193, 12), (12289, 12),
    (16385, 13), (24577, 13)]

/-- A number from its symbol and the extra bits after it. -/
def extended? (base : Array (Nat × Nat)) (data : ByteArray) (symbol pos : Nat) :
    Option (Nat × Nat) := do
  let (least, extra) ← base[symbol]?
  let (more, pos) ← bits? data extra pos
  return (least + more, pos)

/-- Repeat octets from a distance back. -/
def repeated (distance : Nat) : Nat → ByteArray → ByteArray
  | 0, out => out
  | count + 1, out => repeated distance count (out.push ((out[out.size - distance]?).getD 0))

/-- The symbols of a block up to its end. -/
def symbols? (literals distances : Code) (data : ByteArray) :
    Nat → Nat → ByteArray → Option (ByteArray × Nat)
  | 0, _, _ => none
  | fuel + 1, pos, out => do
    let (s, pos) ← symbol? literals data pos
    if s < 256 then symbols? literals distances data fuel pos (out.push (UInt8.ofNat s))
    else if s = 256 then return (out, pos)
    else
      let (length, pos) ← extended? lengthBase data (s - 257) pos
      let (d, pos) ← symbol? distances data pos
      let (distance, pos) ← extended? distanceBase data d pos
      if out.size < distance then none
      else symbols? literals distances data fuel pos (repeated distance length out)

/-- Octets that are stored as they are. -/
def copied? (data : ByteArray) : Nat → Nat → ByteArray → Option ByteArray
  | 0, _, out => some out
  | count + 1, place, out => do
    let b ← data[place]?
    copied? data count (place + 1) (out.push b)

/-- A stored block: at the next whole octet its size, the size inverted, and its octets. -/
def stored? (data : ByteArray) (pos : Nat) (out : ByteArray) : Option (ByteArray × Nat) := do
  let start := (pos + 7) / 8 * 8
  let (size, pos) ← bits? data 16 start
  let (inverted, pos) ← bits? data 16 pos
  if size + inverted ≠ 65535 then none
  else
    let out ← copied? data size (pos / 8) out
    return (out, pos + 8 * size)

/-- The fixed code of octets and lengths. -/
def fixedLiterals : Code :=
  (Code.ofLengths? false (List.replicate 144 8 ++ List.replicate 112 9 ++ List.replicate 24 7
    ++ List.replicate 8 8)).getD default

/-- The fixed code of distances. -/
def fixedDistances : Code := (Code.ofLengths? false (List.replicate 32 5)).getD default

/-- The order in which the lengths of the code for lengths are sent. -/
def sentOrder : List Nat := [16, 17, 18, 0, 8, 7, 9, 6, 10, 5, 11, 4, 12, 3, 13, 2, 14, 1, 15]

/-- The lengths of the code for lengths, three bits each. -/
def sentLengths? (data : ByteArray) : List Nat → Nat → Array Nat → Option (Array Nat × Nat)
  | [], pos, lengths => some (lengths, pos)
  | i :: rest, pos, lengths => do
    let (l, pos) ← bits? data 3 pos
    sentLengths? data rest pos (lengths.setIfInBounds i l)

/-- The code lengths of `total` symbols, with runs of one length written short; the lengths so far
are in reverse. -/
def lengths? (c : Code) (data : ByteArray) (total : Nat) :
    Nat → Nat → List Nat → Option (List Nat × Nat)
  | 0, _, _ => none
  | fuel + 1, pos, done =>
    if done.length = total then some (done.reverse, pos)
    else do
      let (s, pos) ← symbol? c data pos
      let (length, count, pos) ←
        if s < 16 then some (s, 1, pos)
        else if s = 16 then do
          let previous ← done.head?
          let (more, pos) ← bits? data 2 pos
          pure (previous, 3 + more, pos)
        else if s = 17 then do
          let (more, pos) ← bits? data 3 pos
          pure (0, 3 + more, pos)
        else do
          let (more, pos) ← bits? data 7 pos
          pure (0, 11 + more, pos)
      if total < done.length + count then none
      else lengths? c data total fuel pos (List.replicate count length ++ done)

/-- The two codes that are sent in front of a block. -/
def sentCodes? (data : ByteArray) (pos : Nat) : Option (Code × Code × Nat) := do
  let (literals, pos) ← bits? data 5 pos
  let (distances, pos) ← bits? data 5 pos
  let (sent, pos) ← bits? data 4 pos
  let literals := literals + 257
  let distances := distances + 1
  if 286 < literals ∨ 30 < distances then none
  else do
    let (lengths, pos) ← sentLengths? data (sentOrder.take (sent + 4)) pos (Array.replicate 19 0)
    let c ← Code.ofLengths? false lengths.toList
    let total := literals + distances
    let (lengths, pos) ← lengths? c data total (total + 1) pos []
    if (lengths[256]?).getD 0 = 0 then none
    else do
      let l ← Code.ofLengths? true (lengths.take literals)
      let d ← Code.ofLengths? true (lengths.drop literals)
      return (l, d, pos)

/-- The blocks from a place on, up to the last one. -/
def blocks? (data : ByteArray) : Nat → Nat → ByteArray → Option (ByteArray × Nat)
  | 0, _, _ => none
  | fuel + 1, pos, out => do
    let (last, pos) ← bits? data 1 pos
    let (kind, pos) ← bits? data 2 pos
    let (out, pos) ←
      if kind = 0 then stored? data pos out
      else if kind = 1 then
        symbols? fixedLiterals fixedDistances data (8 * data.size + 1) pos out
      else if kind = 2 then do
        let (literals, distances, pos) ← sentCodes? data pos
        symbols? literals distances data (8 * data.size + 1) pos out
      else none
    if last = 1 then return (out, pos) else blocks? data fuel pos out

/-- The octets of a deflated stream that begins at a place, and the place of the first whole octet
after it. -/
def inflate? (data : ByteArray) (start : Nat) : Option (ByteArray × Nat) := do
  let (out, pos) ← blocks? data (8 * data.size + 1) (8 * start) .empty
  return (out, (pos + 7) / 8)

end Topograph.Codec.Inflate
