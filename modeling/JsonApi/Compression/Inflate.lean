import JsonApi.Encoding

/-!
# Inflating

Compressed data is a sequence of blocks.  A block holds bytes as they are, or codes for bytes and
for copies of what has been written before; the codes are fixed or stand in front of the block.
Data may end anywhere: what could be read until then has been written.
-/

namespace JsonApi

/-- What can be wrong with compressed data. -/
inductive Compression.Fault
  | header
  | method
  | window
  /-- The data was compressed with a dictionary that is not at hand. -/
  | dictionary
  | flags
  | headerSum
  | blockType
  | storedLengths
  | tooManySymbols
  | codeLengths
  | lengthRepeat
  | missingEnd
  | literalCodes
  | distanceCodes
  | literal
  | distance
  | tooFar
  | dataSum
  | dataLength
  deriving DecidableEq

namespace Compression

/-- The wording of a fault. -/
def Fault.message : Fault → Text
  | .dictionary => "Error 2 while decompressing data"
  | f => ("Error -3 while decompressing data: " : Text) ++
    match f with
    | .header => "incorrect header check"
    | .method => "unknown compression method"
    | .window => "invalid window size"
    | .flags => "unknown header flags set"
    | .headerSum => "header crc mismatch"
    | .blockType => "invalid block type"
    | .storedLengths => "invalid stored block lengths"
    | .tooManySymbols => "too many length or distance symbols"
    | .codeLengths => "invalid code lengths set"
    | .lengthRepeat => "invalid bit length repeat"
    | .missingEnd => "invalid code -- missing end-of-block"
    | .literalCodes => "invalid literal/lengths set"
    | .distanceCodes => "invalid distances set"
    | .literal => "invalid literal/length code"
    | .distance => "invalid distance code"
    | .tooFar => "invalid distance too far back"
    | .dataSum => "incorrect data check"
    | .dataLength => "incorrect length check"
    | .dictionary => []

/-! ### Reading bits -/

/-- The bits that are left of compressed data, and what has been written. -/
structure State where
  bits : List Bool
  written : Array UInt8

/-- Why reading stops before its end. -/
inductive Stop
  /-- The data ends. -/
  | short
  | fault (f : Fault)

/-- A reader of compressed data; it keeps what was written before it stops. -/
abbrev Reader (α : Type) := ExceptT Stop (StateM State) α

/-- The bits of bytes, the lowest one of each byte first. -/
def bitsOf (bs : Bytes) : List Bool := bs.flatMap fun b => (List.range 8).map b.toNat.testBit

/-- Stops with a fault. -/
def fail {α : Type} (f : Fault) : Reader α := throw (.fault f)

/-- The next bit. -/
def bit : Reader Nat := do
  let s ← get
  match s.bits with
  | [] => throw .short
  | b :: bits =>
    set { s with bits }
    return b.toNat

/-- The number of so many bits, the lowest one first. -/
def number : Nat → Reader Nat
  | 0 => return 0
  | n + 1 => do
    let low ← bit
    return low + 2 * (← number n)

/-- Drops the bits in front of the next byte. -/
def align : Reader Unit := modify fun s => { s with bits := s.bits.drop (s.bits.length % 8) }

/-- Writes a byte. -/
def write (b : UInt8) : Reader Unit := modify fun s => { s with written := s.written.push b }

/-- Writes so many bytes, each a copy of that which was written so far back. -/
def copy (distance : Nat) : Nat → Reader Unit
  | 0 => return ()
  | n + 1 => do
    let w := (← get).written
    write (w[w.size - distance]?.getD 0)
    copy distance n

/-! ### Codes -/

/-- A code that gives symbols sequences of bits: shorter ones come first, and those of one length
are in the order of their symbols. -/
structure Code where
  /-- The number of sequences of each length from one bit on. -/
  counts : List Nat
  /-- The symbols in the order of their sequences. -/
  symbols : List Nat

namespace Code

/-- The longest of some lengths. -/
def longest (lengths : List Nat) : Nat := lengths.foldl max 0

/-- The code in which the symbols from zero on have sequences of the given lengths; those of the
length zero have none. -/
def ofLengths (lengths : List Nat) : Code :=
  let sizes := List.range' 1 (max 1 (longest lengths))
  ⟨sizes.map lengths.count,
    sizes.flatMap fun size => (lengths.zipIdx.filter (·.1 = size)).map (·.2)⟩

/-- Whether lengths are those of a code: sequences of bits are neither missing nor left over.  A
code without any symbol is one, and a code with one sequence of one bit may be. -/
def isCode (mayBeSingle : Bool) (lengths : List Nat) : Bool :=
  let used := ((lengths.filter (· ≠ 0)).map fun n => 1 <<< (15 - n)).foldl (· + ·) 0
  used = 0 || used = 0x8000 || (used < 0x8000 && mayBeSingle && longest lengths = 1)

/-- The symbol whose sequence comes next, if there is one.  The bits read so far make the number
`code`, and the sequences of their length start at `first`. -/
def symbolFrom? (code first : Nat) : List Nat → List Nat → Reader (Option Nat)
  | [], _ => return none
  | count :: counts, symbols => do
    let code := 2 * code + (← bit)
    let first := 2 * first
    if code < first + count then return symbols[code - first]?
    else symbolFrom? code (first + count) counts (symbols.drop count)

/-- The symbol whose sequence comes next, if there is one. -/
def symbol? (c : Code) : Reader (Option Nat) := symbolFrom? 0 0 c.counts c.symbols

end Code

/-! ### Blocks -/

/-- The least length of each symbol for a copy, and how many bits follow that tell how much is
added. -/
def lengthSteps : List (Nat × Nat) := [
  (3, 0), (4, 0), (5, 0), (6, 0), (7, 0), (8, 0), (9, 0), (10, 0), (11, 1), (13, 1), (15, 1),
  (17, 1), (19, 2), (23, 2), (27, 2), (31, 2), (35, 3), (43, 3), (51, 3), (59, 3), (67, 4), (83, 4),
  (99, 4), (115, 4), (131, 5), (163, 5), (195, 5), (227, 5), (258, 0)]

/-- The least distance of each symbol for one, and how many bits follow that tell how much is
added. -/
def distanceSteps : List (Nat × Nat) := [
  (1, 0), (2, 0), (3, 0), (4, 0), (5, 1), (7, 1), (9, 2), (13, 2), (17, 3), (25, 3), (33, 4),
  (49, 4), (65, 5), (97, 5), (129, 6), (193, 6), (257, 7), (385, 7), (513, 8), (769, 8), (1025, 9),
  (1537, 9), (2049, 10), (3073, 10), (4097, 11), (6145, 11), (8193, 12), (12289, 12), (16385, 13),
  (24577, 13)]

/-- The lengths of the fixed codes. -/
def fixedLengths : List Nat :=
  List.replicate 144 8 ++ List.replicate 112 9 ++ List.replicate 24 7 ++ List.replicate 8 8

/-- The order in which the lengths of the code for lengths are given. -/
def lengthOrder : List Nat := [16, 17, 18, 0, 8, 7, 9, 6, 10, 5, 11, 4, 12, 3, 13, 2, 14, 1, 15]

/-- Writes what the codes of a block stand for, up to the symbol for its end.  Each symbol takes a
bit at least, so there are at most `fuel` of them. -/
def coded (literals distances : Code) : (fuel : Nat) → Reader Unit
  | 0 => throw .short
  | fuel + 1 => do
    match ← literals.symbol? with
    | none => fail .literal
    | some symbol =>
      if symbol < 256 then
        write (.ofNat symbol)
        coded literals distances fuel
      else if symbol = 256 then return ()
      else match lengthSteps[symbol - 257]? with
        | none => fail .literal
        | some (least, extra) =>
          let length := least + (← number extra)
          match (← distances.symbol?).bind (distanceSteps[·]?) with
          | none => fail .distance
          | some (least, extra) =>
            let distance := least + (← number extra)
            if (← get).written.size < distance then fail .tooFar
            else
              copy distance length
              coded literals distances fuel

/-- The next lengths of codes behind those that are known, up to a total; each step adds one at
least. -/
def lengths (code : Code) (total : Nat) (known : List Nat) : (fuel : Nat) → Reader (List Nat)
  | 0 => return known
  | fuel + 1 => do
    if total ≤ known.length then return known
    else
      let symbol := (← code.symbol?).getD 0
      -- from sixteen on a symbol repeats the last length or zero
      if symbol < 16 then lengths code total (known ++ [symbol]) fuel
      else
        let count ←
          if symbol = 16 then (3 + ·) <$> number 2
          else if symbol = 17 then (3 + ·) <$> number 3
          else (11 + ·) <$> number 7
        match if symbol = 16 then known.getLast? else some 0 with
        | none => fail .lengthRepeat
        | some length =>
          if total < known.length + count then fail .lengthRepeat
          else lengths code total (known ++ List.replicate count length) fuel

/-- So many numbers of so many bits each. -/
def numbers (width : Nat) : Nat → Reader (List Nat)
  | 0 => return []
  | n + 1 => do
    let first ← number width
    return first :: (← numbers width n)

/-- The codes in front of a block. -/
def codes : Reader (Code × Code) := do
  let literalCount := 257 + (← number 5)
  let distanceCount := 1 + (← number 5)
  let lengthCount := 4 + (← number 4)
  if 286 < literalCount ∨ 30 < distanceCount then fail .tooManySymbols
  let given := lengthOrder.zip (← numbers 3 lengthCount)
  let codeLengths := (List.range 19).map fun symbol => (given.lookup symbol).getD 0
  if !Code.isCode false codeLengths then fail .codeLengths
  -- one list for both codes: a repeat may go on from the first to the second
  let total := literalCount + distanceCount
  let all ← lengths (.ofLengths codeLengths) total [] total
  if all[256]? = some 0 then fail .missingEnd
  let literalLengths := all.take literalCount
  if !Code.isCode true literalLengths then fail .literalCodes
  let distanceLengths := all.drop literalCount
  if !Code.isCode true distanceLengths then fail .distanceCodes
  return (.ofLengths literalLengths, .ofLengths distanceLengths)

/-- Writes so many bytes as they stand. -/
def stored : Nat → Reader Unit
  | 0 => return ()
  | n + 1 => do
    write (.ofNat (← number 8))
    stored n

/-- Writes what a block holds, and tells whether it is the last one. -/
def block : Reader Bool := do
  let last ← bit
  let kind ← number 2
  let fuel := (← get).bits.length + 1
  if kind = 0 then
    align
    -- the length is given twice, the second time with every bit inverted
    let length ← number 16
    let complement ← number 16
    if length + complement ≠ 0xFFFF then fail .storedLengths
    stored length
  else if kind = 1 then
    coded (.ofLengths fixedLengths) (.ofLengths (List.replicate 32 5)) fuel
  else if kind = 2 then
    let (literals, distances) ← codes
    coded literals distances fuel
  else fail .blockType
  return last = 1

/-- Writes what some blocks hold, up to the last one.  Each block takes a bit at least, so there are
at most `fuel` of them. -/
def blocks : (fuel : Nat) → Reader Unit
  | 0 => throw .short
  | fuel + 1 => do
    if ← block then return () else blocks fuel

end Compression

end JsonApi
