import JsonApi.Encoding.Ascii
import JsonApi.Error
import JsonApi.Headers
import JsonApi.Settings
import JsonApi.Text.Case
import JsonApi.Url

/-!
# Requests

A request has a method in capitals, a URL, headers and content.  It names its host and the length
of its content even if the headers it is made from do not.
-/

namespace JsonApi

/-- A request. -/
structure Request where
  method : Text
  url : Url
  headers : Headers
  content : Bytes

namespace Request

/-- The methods whose requests name the length of their content even if it is empty. -/
def announcesEmpty (method : Text) : Bool :=
  (["POST", "PUT", "PATCH"] : List Text).contains method

/-- The header that names the host, unless it is given or there is no host. -/
def hostHeader (url : Url) (given : Headers) : Except Fault Headers := do
  if given.has "host" then return []
  let host ← url.readableHost.mapError .host
  if host = [] then return []
  let value ← (Ascii.encode url.hostAndPort).mapError fun e => .coding (.unencodable e)
  return [⟨Headers.ascii "host", value⟩]

/-- The header that names the length of empty content where a method wants it. -/
def emptyHeader (method : Text) (given : Headers) : Headers :=
  if announcesEmpty method && !given.has "content-length" && !given.has "transfer-encoding" then
    [⟨Headers.ascii "content-length", Headers.ascii "0"⟩]
  else []

/-- Headers with the length of content that is not empty, unless a length is given. -/
def withLength (content : Bytes) (h : Headers) : Headers :=
  if content = [] then h else h.setDefault "content-length" (Text.ofNat content.length)

/-- The request with the given parts. -/
def make (method : Text) (url : Url) (headers : GivenHeaders) (content : Bytes) :
    Except Fault Request := do
  let method := method.upper
  let given ← (Headers.ofPairs headers).mapError fun e => .coding (.unencodable e)
  let given := withLength content given
  let host ← hostHeader url given
  return ⟨method, url, host ++ emptyHeader method given ++ given, content⟩

end Request

/-- A request together with the settings that it was made under. -/
structure PreparedRequest where
  request : Request
  settings : Settings

namespace PreparedRequest

/-- A short description of a request. -/
def description (p : PreparedRequest) : Text :=
  ("<JSONAPIRequest [" : Text) ++ p.request.method ++ (" " : Text) ++ p.request.url.text ++
    ("]>" : Text)

end PreparedRequest

end JsonApi
