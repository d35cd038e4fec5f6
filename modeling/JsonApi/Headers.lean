import JsonApi.Encoding.Ascii
import JsonApi.Json

/-!
# Header fields

Fields are bytes, in order, and a name may occur several times.  Names compare without regard to
case.  All names and values are read in one encoding, the first of ASCII, UTF-8 and Latin-1 that
fits every one of them.
-/

namespace JsonApi

/-- A header field. -/
structure Field where
  name : Bytes
  value : Bytes
  deriving DecidableEq

/-- Header fields in order. -/
abbrev Headers := List Field

/-- A name or a value as it is given: text, which has to be ASCII, or bytes. -/
inductive FieldText
  | text (t : Text)
  | bytes (bs : Bytes)
  deriving DecidableEq

/-- The bytes of a name or a value. -/
def FieldText.encode : FieldText → Except EncodingError Bytes
  | .text t => Ascii.encode t
  | .bytes bs => .ok bs

/-- Headers as they are given, before it is known that they have a form in bytes. -/
abbrev GivenHeaders := List (FieldText × FieldText)

/-- Headers that hold a name once: a later value of a name is put in the place of an earlier
one. -/
def GivenHeaders.once (headers : GivenHeaders) : GivenHeaders := Entries.ofPairs (· == ·) headers

namespace Headers

/-- A byte with its ASCII letter in lower case. -/
def lowerByte (b : UInt8) : UInt8 := if 65 ≤ b.toNat ∧ b.toNat ≤ 90 then b + 32 else b

/-- The name of a field in lower case. -/
def fold (name : Bytes) : Bytes := name.map lowerByte

/-- The bytes of an ASCII text. -/
def ascii (t : Text) : Bytes := t.map fun c => .ofNat c.toNat

/-- The fields with the given names and values. -/
def ofPairs (pairs : GivenHeaders) : Except EncodingError Headers :=
  pairs.mapM fun (name, value) => do
    let name ← name.encode
    return ⟨name, ← value.encode⟩

/-- The encoding in which all fields are read. -/
def encoding (h : Headers) : Encoding :=
  if h.all fun f => Ascii.fits f.name && Ascii.fits f.value then .ascii
  else if h.all fun f => Utf8.fits f.name && Utf8.fits f.value then .utf8
  else .latin1

/-- The text of bytes in the encoding of the fields. -/
def decode (h : Headers) (bs : Bytes) : Text :=
  match h.encoding with
  | .utf8 => Utf8.decodeLenient bs
  | _ => Latin1.decode bs

/-- The names and values of all fields, names in lower case. -/
def toList (h : Headers) : List (Text × Text) :=
  h.map fun f => (h.decode (fold f.name), h.decode f.value)

/-- The values under a name, which is given in lower case. -/
def values (h : Headers) (name : Text) : List Text :=
  (h.filter fun f => fold f.name = ascii name).map fun f => h.decode f.value

/-- The value under a name, which is given in lower case; several values are joined. -/
def get? (h : Headers) (name : Text) : Option Text :=
  match h.values name with
  | [] => none
  | vs => some (Text.join ", " vs)

/-- Whether a name occurs. -/
def has (h : Headers) (name : Text) : Bool := (h.values name) != []

/-- The headers as they can be given again. -/
def given (h : Headers) : GivenHeaders := h.map fun f => (.bytes f.name, .bytes f.value)

/-- The fields with a value under a name, which is given in lower case: in the place of the first
field of that name, which remains the only one, or at the end. -/
def put (h : Headers) (name value : Text) : Headers :=
  let isNamed (f : Field) : Bool := fold f.name = ascii name
  let rest := h.dropWhile (! isNamed ·)
  h.takeWhile (! isNamed ·) ++ ⟨ascii name, ascii value⟩ :: rest.filter (! isNamed ·)

/-- The fields with one more at the end, unless its name occurs; the name is given in lower
case. -/
def setDefault (h : Headers) (name value : Text) : Headers :=
  if h.has name then h else h ++ [⟨ascii name, ascii value⟩]

end Headers

end JsonApi
