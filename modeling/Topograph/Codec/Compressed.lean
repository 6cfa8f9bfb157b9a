import Topograph.Codec.Checksum
import Topograph.Codec.Inflate

/-!
# Compressed payloads

A payload is a deflated stream in one of two frames, told apart by its first two octets. One has a
header of two octets and ends with the running sums; the other has a longer header with optional
fields and ends with the remainder and the size. The checksums must agree. Octets after the end of
the frame do not count.
-/
namespace Topograph.Codec.Compressed

/-- The number of octets lowest first, `count` of them at a place. -/
def little? (data : ByteArray) : Nat → Nat → Option Nat
  | 0, _ => some 0
  | count + 1, pos => do
    let b ← data[pos]?
    let high ← little? data count (pos + 1)
    return b.toNat + 256 * high

/-- The number of octets highest first, `count` of them at a place. -/
def big? (data : ByteArray) (count pos : Nat) : Option Nat :=
  (List.range count).foldlM (fun n i => do
    let b ← data[pos + i]?
    return n * 256 + b.toNat) 0

/-- The place after a text that ends with a zero octet. -/
def afterZero? (data : ByteArray) (pos : Nat) : Option Nat :=
  let n := ((data.data.toList.drop pos).takeWhile (· != 0)).length
  if pos + n < data.size then some (pos + n + 1) else none

/-- A place that the data reaches. -/
def reach? (data : ByteArray) (pos : Nat) : Option Nat := if pos ≤ data.size then some pos else none

/-- The place after the header of the longer frame. Its flags announce extra octets, a name, a
comment and a checksum of the header itself. -/
def longHeader? (data : ByteArray) : Option Nat := do
  let method ← data[2]?
  let flags ← (data[3]?).map UInt8.toNat
  if method ≠ 8 ∨ 32 ≤ flags then none
  else do
    let pos ← reach? data 10
    let pos ← if flags / 4 % 2 = 1 then do
        let size ← little? data 2 pos
        reach? data (pos + 2 + size)
      else some pos
    let pos ← if flags / 8 % 2 = 1 then afterZero? data pos else some pos
    let pos ← if flags / 16 % 2 = 1 then afterZero? data pos else some pos
    if flags / 2 % 2 = 1 then do
      let sum ← little? data 2 pos
      if sum = crc32 (data.data.toList.take pos) % 65536 then return pos + 2 else none
    else return pos

/-- The payload of the longer frame. -/
def long? (data : ByteArray) : Option Bytes := do
  let start ← longHeader? data
  let (out, stop) ← Inflate.inflate? data start
  let sum ← little? data 4 stop
  let size ← little? data 4 (stop + 4)
  let bs := out.data.toList
  if sum = crc32 bs ∧ size = out.size % 4294967296 then return bs else none

/-- The payload of the shorter frame: the header is a multiple of 31, names the method and a window
of at most 32768 octets, and asks for no dictionary. -/
def short? (data : ByteArray) : Option Bytes := do
  let head ← big? data 2 0
  if head % 31 ≠ 0 ∨ head / 256 % 16 ≠ 8 ∨ 7 < head / 4096 ∨ head / 32 % 2 = 1 then none
  else do
    let (out, stop) ← Inflate.inflate? data 2
    let sum ← big? data 4 stop
    let bs := out.data.toList
    if sum = adler32 bs then return bs else none

/-- The octets that were compressed into a payload. -/
def decompress? (bs : Bytes) : Option Bytes :=
  let data := ByteArray.mk bs.toArray
  if bs.take 2 = [0x1F, 0x8B] then long? data else short? data

end Topograph.Codec.Compressed
