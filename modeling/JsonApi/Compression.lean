import JsonApi.Compression.Checksum
import JsonApi.Compression.Inflate

/-!
# Compression

Compressed data stands on its own or in a frame, which has a header in front and checks behind it.
`Compression.inflate` gives what some data holds, as far as it goes, or the first fault of it.
-/

namespace JsonApi.Compression

/-- The frames of compressed data. -/
inductive Frame
  | none
  | zlib
  | gzip
  deriving DecidableEq

/-- Reads blocks to their end, and goes on with the next byte. -/
def body : Reader Unit := do
  blocks ((← get).bits.length + 1)
  align

/-- Reads data in the frame with a short header. -/
def zlib : Reader Unit := do
  let first ← number 8
  let second ← number 8
  if (first * 256 + second) % 31 ≠ 0 then fail .header
  if first % 16 ≠ 8 then fail .method
  if 7 < first / 16 then fail .window
  if second.testBit 5 then
    let _ ← number 32
    fail .dictionary
  body
  let sum := (← numbers 8 4).foldl (fun n b => n * 256 + b) 0
  if sum ≠ Checksum.adler32 (← get).written.toList then fail .dataSum

/-- Skips bytes up to a zero. -/
def skipText : (fuel : Nat) → Reader Unit
  | 0 => throw .short
  | fuel + 1 => do
    if (← number 8) = 0 then return () else skipText fuel

/-- Reads data in the frame with a long header; all of it is given once more for the checksum of
the header. -/
def gzip (bs : Bytes) : Reader Unit := do
  let fuel := bs.length + 1
  if (← number 16) ≠ 0x8B1F then fail .header
  let flags ← number 16
  if flags % 256 ≠ 8 then fail .method
  if 0x2000 ≤ flags then fail .flags
  let _ ← number 48
  if flags.testBit 10 then
    let _ ← numbers 8 (← number 16)
  if flags.testBit 11 then skipText fuel
  if flags.testBit 12 then skipText fuel
  if flags.testBit 9 then
    let header := bs.take (bs.length - (← get).bits.length / 8)
    if (← number 16) ≠ Checksum.crc32 header % 0x10000 then fail .headerSum
  body
  let written := (← get).written
  if (← number 32) ≠ Checksum.crc32 written.toList then fail .dataSum
  if (← number 32) ≠ written.size % 0x100000000 then fail .dataLength

/-- What compressed data holds, as far as it goes. -/
def inflate (frame : Frame) (bs : Bytes) : Except Fault Bytes :=
  let reader := match frame with
    | .none => body
    | .zlib => zlib
    | .gzip => gzip bs
  match reader.run ⟨bitsOf bs, #[]⟩ with
  | (.error (.fault f), _) => .error f
  | (_, s) => .ok s.written.toList

end JsonApi.Compression
