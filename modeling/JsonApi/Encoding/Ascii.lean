import JsonApi.Encoding.Utf8

/-!
# ASCII and Latin-1

The encodings of header fields.  Text goes out in ASCII; bytes come in through the first of
ASCII, UTF-8 and Latin-1 that fits, and Latin-1 fits all.
-/

namespace JsonApi

namespace Ascii

/-- The ASCII form of a text. -/
def encode (t : Text) : Except EncodingError Bytes :=
  match t.firstRun? (! ·.isAscii) 0 with
  | some (position, offending) => .error ⟨.ascii, offending, position⟩
  | none => .ok (t.map fun c => .ofNat c.toNat)

/-- Whether every byte is ASCII. -/
def fits (bs : Bytes) : Bool := bs.all (·.toNat < 0x80)

end Ascii

namespace Latin1

/-- The text whose codes are the bytes. -/
def decode (bs : Bytes) : Text := bs.map fun b => .ofNat b.toNat

end Latin1

namespace Utf8

/-- Whether bytes are the UTF-8 form of a text. -/
def fits (bs : Bytes) : Bool := (decode bs).isOk

end Utf8

end JsonApi
