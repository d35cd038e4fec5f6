import JsonApi.Body
import JsonApi.Document.Reading
import JsonApi.Request
import JsonApi.Response.Coding

/-!
# Responses

The content of a response is at hand, or waits in a stream that can be read once; what is at hand
has been decoded as the headers say.  Reading a reply closes the response, whatever came of it;
content that was read once stays at hand, and a stream that failed gives nothing any more.
-/

namespace JsonApi

/-- The content of a response. -/
inductive Response.Content
  /-- Content that is at hand. -/
  | held (bs : Bytes)
  /-- A stream that has not been read, and the failure behind its last chunk, if it fails. -/
  | waiting (chunks : List Chunk) (failure : Option Transport.Failure)
  /-- A stream that has been read in vain. -/
  | spent

/-- A response. -/
structure Response where
  status : Int
  headers : Headers
  /-- The method of the request that it answers, if there was one. -/
  requestMethod : Option Text
  content : Response.Content
  closed : Bool

namespace Response

/-- The content that chunks of coded content hold. -/
def decode (headers : Headers) (chunks : List Bytes) : Except Fault Bytes :=
  (Coding.decode (Coding.ofHeaders headers) chunks).mapError fun f =>
    .transport ⟨.decoding, f.message⟩

/-- The response with content at hand, which is given in coded form. -/
def ofBytes (status : Int) (headers : GivenHeaders) (requestMethod : Option Text)
    (content : Bytes) : Except Fault Response := do
  let given ← (Headers.ofPairs headers).mapError fun e => .coding (.unencodable e)
  let decoded ← decode given (if content = [] then [] else [content])
  return ⟨status, Request.withLength content given, requestMethod, .held decoded, true⟩

/-- The response whose content waits in a stream. -/
def ofStream (status : Int) (headers : GivenHeaders) (requestMethod : Option Text)
    (chunks : List Chunk) (failure : Option Transport.Failure) : Except Fault Response := do
  let given ← (Headers.ofPairs headers).mapError fun e => .coding (.unencodable e)
  return ⟨status, given, requestMethod, .waiting chunks failure, false⟩

/-- Whether a chunk holds nothing. -/
def isEmptyChunk : Chunk → Bool
  | .bytes bs => bs = []
  | .text t => t = []

/-- The bytes of a chunk that holds bytes. -/
def bytesOf? : Chunk → Option Bytes
  | .bytes bs => some bs
  | .text _ => none

/-- The content that a stream of coded content holds; nothing if its content is not coded.  Text
cannot be decoded. -/
def decodeStream (r : Response) (chunks : List Chunk) : Option (Except Fault Bytes) :=
  if Coding.ofHeaders r.headers = [] then none
  else
    let front := chunks.takeWhile fun c => (bytesOf? c).isSome
    some <| do
      let bs ← decode r.headers (front.filterMap bytesOf?)
      if front.length < chunks.length then .error .codedText else return bs

/-- The content of a response, and the response after it has been asked for. -/
def read (r : Response) : Except Fault Bytes × Response :=
  match r.content with
  | .held bs => (.ok bs, r)
  | .spent => (.error .streamConsumed, r)
  | .waiting chunks failure =>
    if r.closed then (.error .streamClosed, r)
    else
      let chunks := chunks.filter (! isEmptyChunk ·)
      match r.decodeStream chunks, failure with
      | some (.error f), _ => (.error f, { r with content := .spent })
      | _, some f => (.error (.transport f), { r with content := .spent })
      | decoded, none =>
        match decoded.getD (Body.join 0 chunks) with
        | .ok bs => (.ok bs, { r with content := .held bs, closed := true })
        | .error f => (.error f, { r with content := .spent, closed := true })

/-- A response that has been closed. -/
def close (r : Response) : Response := { r with closed := true }

/-- The method that decides about empty ids. -/
def effectiveMethod (r : Response) : Text := r.requestMethod.getD "GET"

end Response

/-- A response together with the settings that it is read under. -/
structure Reply where
  response : Response
  settings : Settings

namespace Reply

/-- A short description of a reply. -/
def description (r : Reply) : Text :=
  ("<ClientResponse [" : Text) ++ Text.ofInt r.response.status ++ ("]>" : Text)

/-- Whether a fault comes from the connection or the stream. -/
def isOfStream : Fault → Bool
  | .transport _ | .streamConsumed | .streamClosed => true
  | _ => false

/-- The failure to read the content of a response. -/
def readFailure (f : Fault) : Failure :=
  if isOfStream f then
    .api (.of .internal (("Unable to read response body: " : Text) ++ f.message) none (some f))
  else .fault f

/-- What a reply holds, and the reply after its response has been closed. -/
def readWith {α : Type}
    (parse : Text → Except ValidationError Settings → GivenHeaders → Body → Outcome α)
    (r : Reply) : Outcome α × Reply :=
  let (content, response) := r.response.read
  let after : Reply := { r with response := response.close }
  match content with
  | .error f => (⟨.error (readFailure f), []⟩, after)
  | .ok bs =>
    (parse r.response.effectiveMethod (.ok r.settings) r.response.headers.given (.bytes bs), after)

/-- The resource in a reply. -/
def single (r : Reply) : Outcome Resource × Reply := readWith Document.readSingle r

/-- The resources in a reply. -/
def many (r : Reply) : Outcome (List Resource) × Reply := readWith Document.readMany r

/-- The reply after its response has been closed. -/
def close (r : Reply) : Reply := { r with response := r.response.close }

end Reply

namespace Request

/-- The resource in the content of a request. -/
def single (r : Request) (settings : Except ValidationError Settings) : Outcome Resource :=
  Document.readSingle r.method settings r.headers.given (.bytes r.content)

/-- The resources in the content of a request. -/
def many (r : Request) (settings : Except ValidationError Settings) : Outcome (List Resource) :=
  Document.readMany r.method settings r.headers.given (.bytes r.content)

end Request

end JsonApi
