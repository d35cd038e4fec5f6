import JsonApi.Body
import JsonApi.Document.Primary
import JsonApi.Negotiation

/-!
# Reading documents

A document is read from headers and a body.  The headers are checked first; a body whose headers
are refused is closed without being read.  `readSingle` wants one resource and `readMany` an array
of them, whose first invalid item fails the whole.  What happened is logged.
-/

namespace JsonApi

/-- The line of the log for a rejected document. -/
def ApiError.rejectionEntry (e : ApiError) : Text :=
  ("Rejected JSON:API document at " : Text) ++ Text.quoted? e.pointer ++ (": " : Text) ++ e.detail

/-- A result with the line that it leaves in the log: for a document that was read, or for one that
was rejected with an error of the API. -/
def Outcome.logged {α : Type} (entry : α → Text) : Except Failure α → Outcome α
  | .ok a => ⟨.ok a, [entry a]⟩
  | .error (.api e) => ⟨.error (.api e), [e.rejectionEntry]⟩
  | .error (.fault f) => ⟨.error (.fault f), []⟩

namespace Document

/-- The error of the API for bytes that hold no document. -/
def decodingError (e : CodingError) : ApiError :=
  .of .internal (("Unable to decode JSON:API document: " : Text) ++ e.message) none
    (some (.coding e))

/-- What bytes hold, read from the primary data. -/
def ofBytes {α : Type} (parse : Json → Except Rejection α) (bs : Bytes) : Except Failure α := do
  let document ← (Json.ofBytes bs).mapError fun e => .api (decodingError e)
  let data ← (primary document).mapError fun v => .api v.error
  (parse data).mapError Rejection.failure

/-- Closes a body if a failure says that the headers were refused. -/
def closeRefused (body : Body) : Failure → Body.Handling Unit
  | .api e => if e.errorClass = .headerNegotiation then body.close else pure ()
  | .fault _ => pure ()

/-- Takes the bytes out of a body whose headers are accepted; a body whose headers are refused is
closed. -/
def load (settings : Except ValidationError Settings) (headers : GivenHeaders) (body : Body) :
    Body.Handling Bytes := do
  try MonadExcept.ofExcept (Negotiation.checkGiven settings headers)
  catch f =>
    closeRefused body f
    throw f
  body.drain

/-- Reads what headers and a body hold from the primary data. -/
def handle {α : Type} (parse : Json → Except Rejection α)
    (settings : Except ValidationError Settings) (headers : GivenHeaders) (body : Body) :
    Body.Handling α := do
  let bs ← load settings headers body
  MonadExcept.ofExcept (ofBytes parse bs)

/-- What headers and a body hold, read from the primary data. -/
def read {α : Type} (parse : Json → Except Rejection α) (entry : α → Text)
    (settings : Except ValidationError Settings) (headers : GivenHeaders) (body : Body) :
    Outcome α :=
  .logged entry (handle parse settings headers body).result

/-- The line of the log for a resource. -/
def singleEntry (r : Resource) : Text :=
  ("Parsed JSON:API resource " : Text) ++ r.type ++ ("/" : Text) ++ r.id

/-- The line of the log for a list of resources. -/
def manyEntry (rs : List Resource) : Text :=
  ("Parsed JSON:API list of " : Text) ++ Text.ofNat rs.length ++ (" resources" : Text)

/-- The resource in a document that was sent with a method. -/
def readSingle (method : Text) (settings : Except ValidationError Settings)
    (headers : GivenHeaders) (body : Body) : Outcome Resource :=
  read (Resource.ofPrimary method) singleEntry settings headers body

/-- The resources in a document that was sent with a method. -/
def readMany (method : Text) (settings : Except ValidationError Settings)
    (headers : GivenHeaders) (body : Body) : Outcome (List Resource) :=
  read (Resource.listOfPrimary method) manyEntry settings headers body

/-- The steps that are taken with a body when one resource is read from it. -/
def eventsOfSingle (method : Text) (settings : Except ValidationError Settings)
    (headers : GivenHeaders) (body : Body) : List Body.Event :=
  (handle (Resource.ofPrimary method) settings headers body).events

/-- The steps that are taken with a body when a list of resources is read from it. -/
def eventsOfMany (method : Text) (settings : Except ValidationError Settings)
    (headers : GivenHeaders) (body : Body) : List Body.Event :=
  (handle (Resource.listOfPrimary method) settings headers body).events

end Document

end JsonApi
