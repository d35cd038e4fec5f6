import JsonApi.Request.Build
import JsonApi.Transport

/-!
# The client

Every operation takes settings or does without.  Where none are named it uses those of its session,
which are read from the environment when they are first asked for.  What was made under settings
names them to whatever is made from it: a request to its reply, and a reply to the reading of its
document.
-/

namespace JsonApi

/-- The settings to use: those that are named, or else those of the session. -/
def Session.choose (named : Option Settings) :
    StateM Session (Except ValidationError Settings) :=
  match named with
  | some s => return .ok s
  | none => modifyGet Session.settings

namespace Client

/-- A request with the settings to use. -/
def prepare (named : Option Settings) (request : Request) :
    StateM Session (Except Fault PreparedRequest) := do
  return ((← Session.choose named).mapError .validation).map (⟨request, ·⟩)

/-- A response with the settings to use. -/
def wrap (named : Option Settings) (response : Response) :
    StateM Session (Except Fault Reply) := do
  return ((← Session.choose named).mapError .validation).map (⟨response, ·⟩)

/-- What comes of building a request. -/
def built (named : Option Settings) (build : Settings → Except Failure Request) :
    StateM Session (Outcome PreparedRequest) := do
  match ← Session.choose named with
  | .error e => return ⟨.error (.fault (.validation e)), []⟩
  | .ok s =>
    match build s with
    | .error f => return ⟨.error f, []⟩
    | .ok r => return ⟨(← prepare (some s) r).mapError .fault, [r.entry]⟩

/-- Builds the request that fetches a resource. -/
def buildGet (named : Option Settings) (base : Json) (type id : Text) :
    StateM Session (Outcome PreparedRequest) :=
  built named (Request.get base type id)

/-- Builds the request that changes a resource. -/
def build (named : Option Settings) (method : Text) (base : Json) (resource : Option Resource) :
    StateM Session (Outcome PreparedRequest) :=
  built named (Request.change method base resource)

/-- Sends a request to a transport that gives an answer.  Waiting for the answer and sending without
waiting go through the same steps, so this stands for the asynchronous way as well. -/
def send (p : PreparedRequest) (answer : Request → Transport.Answer) :
    StateM Session PreparedRequest.Sending := do
  let request := p.request.authorized
  let sent : PreparedRequest := { p with request := request }
  match Transport.receive request (answer request) with
  | .error f => return ⟨.error f, sent⟩
  | .ok response => return ⟨← wrap (some p.settings) response, sent⟩

/-- What a reply holds, and the reply after its response has been closed. -/
def readWith {α : Type}
    (parse : Text → Except ValidationError Settings → GivenHeaders → Body → Outcome α)
    (r : Reply) : StateM Session (Outcome α × Reply) := do
  let (content, response) := r.response.read
  let after : Reply := { r with response := response.close }
  match content with
  | .error f => return (⟨.error (Reply.readFailure f), []⟩, after)
  | .ok bs =>
    let settings ← Session.choose (some r.settings)
    return (parse r.response.effectiveMethod settings r.response.headers.given (.bytes bs), after)

/-- The resource in a reply. -/
def single (r : Reply) : StateM Session (Outcome Resource × Reply) :=
  readWith Document.readSingle r

/-- The resources in a reply. -/
def many (r : Reply) : StateM Session (Outcome (List Resource) × Reply) :=
  readWith Document.readMany r

end Client

end JsonApi
