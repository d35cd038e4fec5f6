import JsonApi.Encoding

/-!
# UTF-8

`Utf8.encode` writes a text and refuses halves of surrogate pairs.  `Utf8.pieces` reads bytes: a
fault takes the longest start of a well-formed sequence, and at least one byte.  Readers of
documents also admit the three-byte form of a half of a surrogate pair.
-/

namespace JsonApi.Utf8

/-- The UTF-8 form of a code below `0x110000`. -/
def encodeCode (n : Nat) : Bytes :=
  if n < 0x80 then [.ofNat n]
  else if n < 0x800 then [.ofNat (0xC0 + n / 0x40), .ofNat (0x80 + n % 0x40)]
  else if n < 0x10000 then
    [.ofNat (0xE0 + n / 0x1000), .ofNat (0x80 + n / 0x40 % 0x40), .ofNat (0x80 + n % 0x40)]
  else
    [.ofNat (0xF0 + n / 0x40000), .ofNat (0x80 + n / 0x1000 % 0x40),
      .ofNat (0x80 + n / 0x40 % 0x40), .ofNat (0x80 + n % 0x40)]

/-- The UTF-8 form of the scalar values of a text. -/
def encodeScalars (t : Text) : Bytes := t.flatMap fun c => encodeCode c.toNat

/-- The UTF-8 form of a text, unless it holds half of a surrogate pair. -/
def encode (t : Text) : Except EncodingError Bytes :=
  match t.firstRun? CodePoint.isSurrogate 0 with
  | some (position, offending) => .error ⟨.utf8, offending, position⟩
  | none => .ok (encodeScalars t)

/-- Whether a byte continues a sequence. -/
def isTail (b : UInt8) : Bool := 0x80 ≤ b.toNat && b.toNat < 0xC0

/-- Whether the second byte may follow the first in a sequence of three. -/
def secondOfThree (a b : UInt8) : Bool :=
  isTail b && (a.toNat != 0xE0 || 0xA0 ≤ b.toNat) && (a.toNat != 0xED || b.toNat < 0xA0)

/-- Whether the second byte may follow the first in a sequence of four. -/
def secondOfFour (a b : UInt8) : Bool :=
  isTail b && (a.toNat != 0xF0 || 0x90 ≤ b.toNat) && (a.toNat != 0xF4 || b.toNat < 0x90)

/-- The code of two bytes. -/
def code2 (a b : UInt8) : Nat := (a.toNat - 0xC0) * 0x40 + (b.toNat - 0x80)

/-- The code of three bytes. -/
def code3 (a b c : UInt8) : Nat :=
  (a.toNat - 0xE0) * 0x1000 + (b.toNat - 0x80) * 0x40 + (c.toNat - 0x80)

/-- The code of four bytes. -/
def code4 (a b c d : UInt8) : Nat :=
  (a.toNat - 0xF0) * 0x40000 + (b.toNat - 0x80) * 0x1000 + (c.toNat - 0x80) * 0x40 +
    (d.toNat - 0x80)

/-- The pieces of a byte sequence.  With `halves`, the three-byte form of half of a surrogate pair
is a piece and not a fault. -/
def pieces (halves : Bool) : Bytes → List Piece
  | [] => []
  | a :: r =>
    if a.toNat < 0x80 then .point (.ofNat a.toNat) 1 :: pieces halves r
    else if a.toNat < 0xC2 then .fault .startByte [a] :: pieces halves r
    else if a.toNat < 0xE0 then
      match r with
      | [] => [.fault .unexpectedEnd [a]]
      | b :: r₂ =>
        if isTail b then .point (.ofNat (code2 a b)) 2 :: pieces halves r₂
        else .fault .continuationByte [a] :: pieces halves (b :: r₂)
    else if a.toNat < 0xF0 then
      match r with
      | [] => [.fault .unexpectedEnd [a]]
      | b :: r₂ =>
        if secondOfThree a b then
          match r₂ with
          | [] => [.fault .unexpectedEnd [a, b]]
          | c :: r₃ =>
            if isTail c then .point (.ofNat (code3 a b c)) 3 :: pieces halves r₃
            else .fault .continuationByte [a, b] :: pieces halves (c :: r₃)
        else if halves && a.toNat == 0xED && isTail b then
          match r₂ with
          | [] => .fault .continuationByte [a] :: pieces halves [b]
          | c :: r₃ =>
            if isTail c then .point (.ofNat (code3 a b c)) 3 :: pieces halves r₃
            else .fault .continuationByte [a] :: pieces halves (b :: c :: r₃)
        else .fault .continuationByte [a] :: pieces halves (b :: r₂)
    else if a.toNat < 0xF5 then
      match r with
      | [] => [.fault .unexpectedEnd [a]]
      | b :: r₂ =>
        if secondOfFour a b then
          match r₂ with
          | [] => [.fault .unexpectedEnd [a, b]]
          | c :: r₃ =>
            if isTail c then
              match r₃ with
              | [] => [.fault .unexpectedEnd [a, b, c]]
              | d :: r₄ =>
                if isTail d then .point (.ofNat (code4 a b c d)) 4 :: pieces halves r₄
                else .fault .continuationByte [a, b, c] :: pieces halves (d :: r₄)
            else .fault .continuationByte [a, b] :: pieces halves (c :: r₃)
        else .fault .continuationByte [a] :: pieces halves (b :: r₂)
    else .fault .startByte [a] :: pieces halves r
  termination_by bs => bs.length

/-- The text of UTF-8 bytes; halves of surrogate pairs are refused. -/
def decode (bs : Bytes) : Except DecodingError Text := Piece.text? .utf8 0 (pieces false bs)

/-- The text of UTF-8 bytes with the replacement character for each fault. -/
def decodeLenient (bs : Bytes) : Text := Piece.lenient (pieces false bs)

end JsonApi.Utf8
