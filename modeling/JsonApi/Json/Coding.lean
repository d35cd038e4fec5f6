import JsonApi.Encoding.Detect
import JsonApi.Json.Writer

/-!
# JSON documents as bytes

`Json.ofBytes` reads a document in whatever encoding its bytes are in; `Json.toBytes` writes one in
UTF-8.  A document that comes as text must not start with a byte order mark.
-/

namespace JsonApi

/-- Why a JSON document was not read or not written. -/
inductive CodingError
  /-- The bytes stand for no text. -/
  | undecodable (e : DecodingError)
  /-- The text holds no JSON value. -/
  | unreadable (e : Json.ReadError)
  /-- The value has no JSON text. -/
  | unwritable (e : Json.WriteError)
  /-- The text has no bytes. -/
  | unencodable (e : EncodingError)
  deriving DecidableEq

/-- The wording of a coding error. -/
def CodingError.message : CodingError → Text
  | .undecodable e => e.message
  | .unreadable e => e.message
  | .unwritable e => e.message
  | .unencodable e => e.message

namespace Json

/-- The value of a document that comes as text; constants for numbers that are not finite are
admitted or not. -/
def ofDocumentText (constants : Bool) (t : Text) : Except CodingError Json :=
  if t.head? = some (.scalar '\uFEFF') then .error (.unreadable (.malformed .byteOrderMark t 0))
  else (ofText constants t).mapError .unreadable

/-- The value of a document that comes as bytes. -/
def ofBytes (bs : Bytes) : Except CodingError Json := do
  let t ← (Encoding.documentText bs).mapError .undecodable
  (ofText false t).mapError .unreadable

/-- The bytes of a document. -/
def toBytes (l : Layout) (v : Json) : Except CodingError Bytes := do
  let t ← (render l v).mapError .unwritable
  (Utf8.encode t).mapError .unencodable

end Json

end JsonApi
