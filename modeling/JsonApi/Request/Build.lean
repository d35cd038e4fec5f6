import JsonApi.Document
import JsonApi.Request
import JsonApi.Resource.Path
import JsonApi.Violation

/-!
# Building requests

A request for a resource goes to the path of the resource below a base URL.  `build` checks what it
is given in a fixed order: the base URL, the method, that there is a resource, and the resource
itself; only then is the resource written.
-/

namespace JsonApi

/-- Why no request can be made from what was given. -/
inductive Request.Refusal
  /-- The base is no URL. -/
  | base (given : Text) (cause : Fault)
  /-- The base is a URL, but not one that requests can go to. -/
  | relative (given : Text)
  | missingType
  | path (type : Text) (e : Url.Error)
  | reserved
  | unsupported (method : Text)
  | missingResource (method : Text)

namespace Request

/-- The error of the API for a refusal. -/
def Refusal.error : Refusal → ApiError
  | .base given cause =>
    .of .request
      (("Invalid base URL '" : Text) ++ given ++ ("': " : Text) ++ cause.message) none (some cause)
  | .relative given =>
    .of .request
      (("Invalid base URL '" : Text) ++ given ++ ("': an absolute http(s) URL is required." : Text))
      none none
  | .missingType => .of .request "A resource type is required to build a GET request." none none
  | .path type e =>
    .of .request
      (("Unable to build a path for resource '" : Text) ++ type ++ ("': " : Text) ++ e.message)
      none (some (.url e))
  | .reserved =>
    .of .specification "Use build_get_request() for 'GET' method HTTP requests." none none
  | .unsupported method =>
    .of .specification
      (("Cannot use HTTP method '" : Text) ++ method ++ ("' for a JSON:API request." : Text))
      none none
  | .missingResource method =>
    .of .specification
      (("Resource object must be present for HTTP method '" : Text) ++ method ++ ("'." : Text))
      none none

/-- A refusal in place of a result. -/
def refuse {α : Type} (r : Refusal) : Except Failure α := .error (.api r.error)

/-- A fault in place of a result. -/
def faulted {α : Type} : Except Fault α → Except Failure α := Except.mapError .fault

/-- The refusal of a value that is no text for a base.  Its message shows the value, and fails where
the value cannot be shown. -/
def refuseValue {α : Type} (v : Json) : Except Failure α := do
  let quoted ← faulted (v.quoted.mapError fun e => .coding (.unwritable e))
  refuse (.base quoted (.notUrl v.kindWord quoted))

/-- The URL that a text given as a base spells. -/
def spelledBase (t : Text) : Except Failure Url :=
  match Url.ofText t with
  | .ok url => .ok url
  | .error (.faulty e) => refuse (.base t (.url e))
  | .error (.unencodable e) => .error (.fault (.coding (.unencodable e)))

/-- Whether requests can go to URLs of a scheme. -/
def isServed (scheme : Text) : Bool := (["http", "https"] : List Text).contains scheme

/-- The base URL that a text spells: absolute, with a scheme that requests can go to and a host. -/
def baseOfText (t : Text) : Except Failure Url := do
  let url ← spelledBase t
  if isServed url.scheme then
    let host ← faulted (url.readableHost.mapError .host)
    if host = [] then refuse (.relative t) else return url
  else refuse (.relative t)

/-- The base URL that a value is. -/
def baseUrl : Json → Except Failure Url
  | .string t => baseOfText t
  | v => refuseValue v

/-- The URL of a resource, or of its collection when there is no id, below a base. -/
def resourceUrl (base : Url) (type id : Text) : Except Failure Url :=
  match base.withPath (Resource.path base.readablePath type id) with
  | .ok url => .ok url
  | .error (.faulty e) => refuse (.path type e)
  | .error (.unencodable e) => .error (.fault (.coding (.unencodable e)))

/-- The line of the log for a request. -/
def entry (r : Request) : Text :=
  ("Built JSON:API request " : Text) ++ r.method ++ (" " : Text) ++ r.url.text

/-- What came of building a request under settings. -/
def outcome (settings : Except ValidationError Settings)
    (build : Settings → Except Failure Request) : Outcome PreparedRequest :=
  match settings with
  | .error e => ⟨.error (.fault (.validation e)), []⟩
  | .ok s =>
    match build s with
    | .error f => ⟨.error f, []⟩
    | .ok r => ⟨.ok ⟨r, s⟩, [r.entry]⟩

/-- The request that fetches a resource, or a collection when there is no id. -/
def get (base : Json) (type id : Text) (s : Settings) : Except Failure Request := do
  let url ← baseUrl base
  if type = [] then refuse .missingType
  let url ← resourceUrl url type id
  faulted (make "GET" url [(.text "Accept", .text s.mediaType)] [])

/-- The methods of requests for a resource. -/
def resourceMethods : List Text := ["PATCH", "POST", "DELETE"]

/-- Whether requests of a method carry the resource. -/
def carries (method : Text) : Bool := (["PATCH", "POST"] : List Text).contains method

/-- The content of a request for a resource. -/
def contentOf (method : Text) (r : Resource) (s : Settings) : Except Failure Bytes :=
  if carries method then
    faulted ((Document.render (some s.jsonIndent) (Document.single r)).mapError .coding)
  else .ok []

/-- The request that changes a resource. -/
def change (method : Text) (base : Json) (resource : Option Resource) (s : Settings) :
    Except Failure Request := do
  let url ← baseUrl base
  let method := method.upper
  if method = ("GET" : Text) then refuse .reserved
  if !resourceMethods.contains method then refuse (.unsupported method)
  match resource with
  | none => refuse (.missingResource method)
  | some r =>
    (r.validate method).mapError fun v => .api v.error
    let content ← contentOf method r s
    let url ← resourceUrl url r.type r.id
    -- the length of the content is given here, so none is added when the request is made
    let headers : GivenHeaders :=
      [(.text "Accept", .text s.mediaType), (.text "Content-Type", .text s.mediaType),
        (.text "Content-Length", .text (Text.ofNat content.length))]
    faulted (make method url headers content)

/-- Builds the request that fetches a resource. -/
def buildGet (settings : Except ValidationError Settings) (base : Json) (type id : Text) :
    Outcome PreparedRequest :=
  outcome settings (get base type id)

/-- Builds the request that changes a resource. -/
def build (settings : Except ValidationError Settings) (method : Text) (base : Json)
    (resource : Option Resource) : Outcome PreparedRequest :=
  outcome settings (change method base resource)

end Request

end JsonApi
