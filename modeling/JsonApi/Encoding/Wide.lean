import JsonApi.Encoding

/-!
# UTF-16 and UTF-32

Code units of two or four bytes in either order.  Halves of surrogate pairs are code points of
their own where they do not form a pair, so the faults left are a rest too short for a unit and,
in UTF-32, a code that is no code point.
-/

namespace JsonApi.Wide

/-- The value of two bytes. -/
def unit16 : ByteOrder → UInt8 → UInt8 → Nat
  | .little, a, b => a.toNat + b.toNat * 0x100
  | .big, a, b => a.toNat * 0x100 + b.toNat

/-- The value of four bytes. -/
def unit32 : ByteOrder → UInt8 → UInt8 → UInt8 → UInt8 → Nat
  | .little, a, b, c, d => unit16 .little a b + unit16 .little c d * 0x10000
  | .big, a, b, c, d => unit16 .big a b * 0x10000 + unit16 .big c d

/-- Whether a code unit is the first half of a surrogate pair. -/
def isHigh (n : Nat) : Bool := 0xD800 ≤ n && n < 0xDC00

/-- Whether a code unit is the second half of a surrogate pair. -/
def isLow (n : Nat) : Bool := 0xDC00 ≤ n && n < 0xE000

/-- The code that a surrogate pair stands for. -/
def pair (high low : Nat) : Nat := 0x10000 + (high - 0xD800) * 0x400 + (low - 0xDC00)

/-- The pieces of UTF-16 bytes. -/
def pieces16 (order : ByteOrder) : Bytes → List Piece
  | [] => []
  | [a] => [.fault .truncated [a]]
  | a :: b :: c :: d :: rest =>
    let first := unit16 order a b
    let second := unit16 order c d
    if isHigh first && isLow second then
      .point (.ofNat (pair first second)) 4 :: pieces16 order rest
    else .point (.ofNat first) 2 :: pieces16 order (c :: d :: rest)
  | a :: b :: rest => .point (.ofNat (unit16 order a b)) 2 :: pieces16 order rest
  termination_by bs => bs.length

/-- The pieces of UTF-32 bytes. -/
def pieces32 (order : ByteOrder) : Bytes → List Piece
  | [] => []
  | a :: b :: c :: d :: rest =>
    let n := unit32 order a b c d
    (if n < 0x110000 then .point (.ofNat n) 4 else .fault .codeRange [a, b, c, d]) ::
      pieces32 order rest
  | rest => [.fault .truncated rest]

end JsonApi.Wide
