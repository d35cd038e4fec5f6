import JsonApi.Text

/-!
# Character encodings

Bytes are read as text, and text is written as bytes, in one of a few encodings.  A reader cuts
the bytes into `Piece`s: code points, and faults that name the offending bytes.  `Piece.text?`
accepts a sequence without faults and otherwise reports the first fault with its position;
`Piece.lenient` puts the replacement character in the place of each fault.
-/

namespace JsonApi

/-- A sequence of bytes. -/
abbrev Bytes := List UInt8

/-- The order in which the bytes of a wide code unit stand. -/
inductive ByteOrder
  | little
  | big
  deriving DecidableEq

/-- A character encoding. -/
inductive Encoding
  | ascii
  | latin1
  | utf8
  | utf16 (order : ByteOrder)
  | utf32 (order : ByteOrder)
  deriving DecidableEq

namespace Encoding

/-- The name of an encoding in messages. -/
def name : Encoding → Text
  | .ascii => "ascii"
  | .latin1 => "latin-1"
  | .utf8 => "utf-8"
  | .utf16 .little => "utf-16-le"
  | .utf16 .big => "utf-16-be"
  | .utf32 .little => "utf-32-le"
  | .utf32 .big => "utf-32-be"

/-- Why bytes stand for no text. -/
inductive Fault
  | startByte
  | continuationByte
  | unexpectedEnd
  | truncated
  | codeRange
  | ordinalRange
  deriving DecidableEq

/-- The wording of a fault. -/
def Fault.reason : Fault → Text
  | .startByte => "invalid start byte"
  | .continuationByte => "invalid continuation byte"
  | .unexpectedEnd => "unexpected end of data"
  | .truncated => "truncated data"
  | .codeRange => "code point not in range(0x110000)"
  | .ordinalRange => "ordinal not in range(128)"

end Encoding

/-- Bytes that could not be read in an encoding: the first offending ones and where they stand. -/
structure DecodingError where
  encoding : Encoding
  fault : Encoding.Fault
  offending : Bytes
  position : Nat
  deriving DecidableEq

/-- The wording of a decoding error. -/
def DecodingError.message (e : DecodingError) : Text :=
  let place : Text := match e.offending with
    | [b] =>
      ("byte 0x" : Text) ++ Text.hex 2 b.toNat ++ (" in position " : Text) ++ Text.ofNat e.position
    | bs => ("bytes in position " : Text) ++ Text.ofNat e.position ++ ("-" : Text) ++
        Text.ofNat (e.position + bs.length - 1)
  ("'" : Text) ++ e.encoding.name ++ ("' codec can't decode " : Text) ++ place ++
    (": " : Text) ++ e.fault.reason

/-- Text that could not be written in an encoding: the first run of offending code points and
where it starts. -/
structure EncodingError where
  encoding : Encoding
  offending : Text
  position : Nat
  deriving DecidableEq

/-- The escape that stands for a code point in messages. -/
def CodePoint.escape (c : CodePoint) : Text :=
  let n := c.toNat
  if n < 0x100 then ("\\x" : Text) ++ Text.hex 2 n
  else if n < 0x10000 then ("\\u" : Text) ++ Text.hex 4 n
  else ("\\U" : Text) ++ Text.hex 8 n

/-- The wording of an encoding error. -/
def EncodingError.message (e : EncodingError) : Text :=
  let place : Text := match e.offending with
    | [c] =>
      ("character '" : Text) ++ c.escape ++ ("' in position " : Text) ++ Text.ofNat e.position
    | cs => ("characters in position " : Text) ++ Text.ofNat e.position ++ ("-" : Text) ++
        Text.ofNat (e.position + cs.length - 1)
  let reason : Text := match e.encoding with
    | .ascii => "ordinal not in range(128)"
    | .latin1 => "ordinal not in range(256)"
    | _ => "surrogates not allowed"
  ("'" : Text) ++ e.encoding.name ++ ("' codec can't encode " : Text) ++ place ++
    (": " : Text) ++ reason

/-- A stretch of bytes as a reader sees it: a code point, or a fault with the offending bytes. -/
inductive Piece
  | point (c : CodePoint) (width : Nat)
  | fault (f : Encoding.Fault) (offending : Bytes)
  deriving DecidableEq

namespace Piece

/-- The text of pieces without faults; otherwise the first fault, with positions counted from
`position`. -/
def text? (encoding : Encoding) (position : Nat) : List Piece → Except DecodingError Text
  | [] => .ok []
  | .fault f offending :: _ => .error ⟨encoding, f, offending, position⟩
  | .point c width :: rest => (text? encoding (position + width) rest).map (c :: ·)

/-- The text of pieces with the replacement character in the place of each fault. -/
def lenient (pieces : List Piece) : Text :=
  pieces.map fun
    | .point c _ => c
    | .fault .. => .scalar '\uFFFD'

end Piece

/-- The first run of neighbouring code points with a property, and where it starts. -/
def Text.firstRun? (p : CodePoint → Bool) : Nat → Text → Option (Nat × Text)
  | _, [] => none
  | position, c :: cs =>
    if p c then some (position, (c :: cs).takeWhile p) else firstRun? p (position + 1) cs

end JsonApi
