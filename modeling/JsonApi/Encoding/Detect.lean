import JsonApi.Encoding.Utf8
import JsonApi.Encoding.Wide

/-!
# The encoding of a document

A document may come in UTF-8, UTF-16 or UTF-32.  A byte order mark decides; without one the place
of zero bytes among the first four does, because a document starts with ASCII characters.
-/

namespace JsonApi.Encoding

/-- How the bytes of a document are to be read: the encoding, the bytes behind the byte order
mark, and the position that the first of them has in error messages. -/
structure Detected where
  encoding : Encoding
  payload : Bytes
  origin : Nat
  deriving DecidableEq

/-- The encoding that the zero bytes among the first bytes speak for. -/
def ofZeros : Bytes → Encoding
  | a :: b :: c :: d :: _ =>
    if a = 0 then if b = 0 then .utf32 .big else .utf16 .big
    else if b = 0 then if c = 0 ∧ d = 0 then .utf32 .little else .utf16 .little
    else .utf8
  | [a, b] =>
    if a = 0 then .utf16 .big
    else if b = 0 then .utf16 .little
    else .utf8
  | _ => .utf8

/-- How to read the bytes of a document.  Positions count the mark of UTF-16 and UTF-32 but not
that of UTF-8. -/
def detect (bs : Bytes) : Detected :=
  match bs with
  | 0x00 :: 0x00 :: 0xFE :: 0xFF :: rest => ⟨.utf32 .big, rest, 4⟩
  | 0xFF :: 0xFE :: 0x00 :: 0x00 :: rest => ⟨.utf32 .little, rest, 4⟩
  | 0xFE :: 0xFF :: rest => ⟨.utf16 .big, rest, 2⟩
  | 0xFF :: 0xFE :: rest => ⟨.utf16 .little, rest, 2⟩
  | 0xEF :: 0xBB :: 0xBF :: rest => ⟨.utf8, rest, 0⟩
  | _ => ⟨ofZeros bs, bs, 0⟩

/-- The text of the bytes of a document. -/
def documentText (bs : Bytes) : Except DecodingError Text :=
  let r := detect bs
  let pieces := match r.encoding with
    | .utf16 order => Wide.pieces16 order r.payload
    | .utf32 order => Wide.pieces32 order r.payload
    | _ => Utf8.pieces true r.payload
  Piece.text? r.encoding r.origin pieces

end JsonApi.Encoding
