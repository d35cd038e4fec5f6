import JsonApi.Encoding

/-!
# Checksums

The remainder `Checksum.crc32` takes the bits of some bytes as a polynomial and divides it by a
fixed one; `Checksum.adler32` joins two sums of the bytes modulo a prime.
-/

namespace JsonApi.Checksum

/-- The remainder after one more bit, the lowest bit being that of the highest power. -/
def crcBit (c : UInt32) : UInt32 := if c &&& 1 = 1 then (c >>> 1) ^^^ 0xEDB88320 else c >>> 1

/-- The remainder after one more byte. -/
def crcByte (c : UInt32) (b : UInt8) : UInt32 := Nat.repeat crcBit 8 (c ^^^ b.toUInt32)

/-- The remainder of some bytes. -/
def crc32 (bs : Bytes) : Nat := (bs.foldl crcByte 0xFFFFFFFF ^^^ 0xFFFFFFFF).toNat

/-- The two sums of some bytes: of the bytes and one, and of these sums after each byte. -/
def adler32 (bs : Bytes) : Nat :=
  let (a, b) := bs.foldl (fun (a, b) x =>
    let a := (a + x.toNat) % 65521
    (a, (b + a) % 65521)) (1, 0)
  b * 65536 + a

end JsonApi.Checksum
