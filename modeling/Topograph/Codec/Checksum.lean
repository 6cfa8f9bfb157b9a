import Topograph.Text.Utf8

/-!
# Checksums

The two checksums of compressed streams: the running sums modulo 65521, and the remainder of the
octets as a polynomial over two elements, with all bits inverted at both ends.
-/
namespace Topograph.Codec

/-- The sums of the octets and of the sums, as one number of 32 bits. -/
def adler32 (bs : Bytes) : Nat :=
  let (a, b) := bs.foldl (fun ((a, b) : Nat × Nat) x =>
    let a := (a + x.toNat) % 65521
    (a, (b + a) % 65521)) (1, 0)
  b * 65536 + a

/-- One bit of the division by the polynomial, lowest bit first. -/
def crcBit (r : UInt32) : UInt32 := if r &&& 1 = 1 then (r >>> 1) ^^^ 0xEDB88320 else r >>> 1

/-- The remainder after one more octet. -/
def crcByte (r : UInt32) (x : UInt8) : UInt32 :=
  let r := r ^^^ x.toUInt32
  crcBit (crcBit (crcBit (crcBit (crcBit (crcBit (crcBit (crcBit r)))))))

/-- The inverted remainder of the octets. -/
def crc32 (bs : Bytes) : Nat := (bs.foldl crcByte 0xFFFFFFFF ^^^ 0xFFFFFFFF).toNat

end Topograph.Codec
