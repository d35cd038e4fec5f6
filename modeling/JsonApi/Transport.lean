import JsonApi.Encoding.Base64
import JsonApi.Response
import JsonApi.Url.Percent

/-!
# Sending requests

A request goes to the transport as it is, except that user information in its URL becomes an
authorization header.  The reply carries the method and the settings of the request, and its
content is read before it is handed on.
-/

namespace JsonApi

namespace Request

/-- The user name and the password in the URL of a request, if there is either. -/
def credentials? (r : Request) : Option (Text × Text) :=
  let (name, password) := (Text.cut? (.scalar ':') r.url.userInfo).getD (r.url.userInfo, [])
  let pair := (Percent.decode name, Percent.decode password)
  if pair = ([], []) then none else some pair

/-- The value of the authorization header for a user name and a password. -/
def authorization (name password : Text) : Text :=
  ("Basic " : Text) ++ Base64.encode (Utf8.encodeScalars (name ++ (":" : Text) ++ password))

/-- The request as it is sent. -/
def authorized (r : Request) : Request :=
  match r.credentials? with
  | none => r
  | some (name, password) =>
    { r with headers := r.headers.put "authorization" (authorization name password) }

end Request

namespace Transport

/-- What comes back for a request. -/
inductive Answer
  | failure (f : Transport.Failure)
  | response (r : Response)

/-- Checks that a URL names its scheme: something stands in front of its first colon, and no slash
does.  Its last fragment does not count. -/
def checkScheme (url : Url) : Except Fault Unit :=
  let (front, fragment) := (Url.cutLast? (.scalar '#') url.text).getD (url.text, [])
  let scheme := front.takeWhile fun c => c ≠ .scalar '/' && c ≠ .scalar ':'
  if scheme ≠ [] ∧ front[scheme.length]? = some (.scalar ':') then .ok ()
  else .error (.noScheme (if fragment = [] then front else front ++ ("#" : Text) ++ fragment))

/-- Whether a response sends the client elsewhere. -/
def isRedirect (r : Response) : Bool :=
  ([301, 302, 303, 307, 308] : List Int).contains r.status && r.headers.has "location"

/-- Checks the place that a response sends the client to. -/
def checkLocation (r : Response) : Except Fault Unit :=
  if isRedirect r then
    match Url.ofText ((r.headers.get? "location").getD []) with
    | .error (.faulty e) =>
      .error <| .transport
        ⟨.remoteProtocol,
          ("Invalid URL in location header: " : Text) ++ e.message ++ ("." : Text)⟩
    | .error (.unencodable e) => .error (.coding (.unencodable e))
    | .ok url =>
      match url.readableHost with
      | .error e => .error (.host e)
      | .ok host =>
        if url.scheme ≠ [] ∧ host = [] ∧ url.path ≠ [] ∧ url.path.head? ≠ some (.scalar '/') then
          .error (.url .pathStart)
        else .ok ()
  else .ok ()

/-- The response to a request, once its content has been read. -/
def receive (r : Request) : Answer → Except Fault Response
  | .failure f => .error (.transport f)
  | .response response => do
    let response := { response with requestMethod := some r.method }
    checkScheme r.url
    checkLocation response
    let (content, response) := response.read
    let _ ← content
    return response

end Transport

/-- What came of sending a request. -/
structure PreparedRequest.Sending where
  reply : Except Fault Reply
  /-- The request as the transport got it. -/
  sent : PreparedRequest

namespace PreparedRequest

/-- Sends a request to a transport that gives an answer. -/
def send (p : PreparedRequest) (answer : Request → Transport.Answer) : Sending :=
  let request := p.request.authorized
  ⟨(Transport.receive request (answer request)).map fun response => ⟨response, p.settings⟩,
    { p with request := request }⟩

end PreparedRequest

end JsonApi
