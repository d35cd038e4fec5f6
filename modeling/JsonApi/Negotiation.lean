import JsonApi.Error
import JsonApi.Headers
import JsonApi.MediaType
import JsonApi.Settings

/-!
# Content negotiation

A document is accepted when its content type is the media type of the settings, in any case, and
carries no parameters; a `charset` may be tolerated.  Several content type fields count as one
value, joined by commas.
-/

namespace JsonApi

/-- Why headers are refused. -/
inductive Negotiation.Refusal
  | missing
  | mediaType (contentType : Text)
  | parameters (contentType : Text)
  deriving DecidableEq

namespace Negotiation

/-- The wording of a refusal, with the media type that was expected. -/
def Refusal.message (expected : Text) : Refusal → Text
  | .missing => ("Missing Content-Type header, expected '" : Text) ++ expected ++ ("'." : Text)
  | .mediaType contentType =>
    ("Invalid Content-Type header '" : Text) ++ contentType ++ ("', expected '" : Text) ++
      expected ++ ("'." : Text)
  | .parameters contentType =>
    ("Media type parameters are not allowed in Content-Type header '" : Text) ++ contentType ++
      ("'." : Text)

/-- The error of the API for a refusal. -/
def Refusal.error (s : Settings) (r : Refusal) : ApiError :=
  .of .headerNegotiation (r.message s.mediaType) none none

/-- The parameters that stand in the way: all but a `charset` that is tolerated. -/
def strangers (s : Settings) (others : List (Text × Text)) : List (Text × Text) :=
  if s.tolerateCharset then others.filter (·.1 ≠ ("charset" : Text)) else others

/-- Checks the value of a content type header. -/
def checkContentType (s : Settings) (contentType : Text) : Except Refusal Unit :=
  let m := MediaType.ofText contentType
  if contentType.strip = [] then .error .missing
  else if m.essence ≠ s.mediaType.lower then .error (.mediaType contentType)
  else if m.ext ≠ [] ∨ m.profile ≠ [] ∨ strangers s m.others ≠ [] then
    .error (.parameters contentType)
  else .ok ()

/-- Checks headers. -/
def check (s : Settings) (h : Headers) : Except Refusal Unit :=
  checkContentType s ((h.get? "content-type").getD [])

/-- Checks headers as they are given, under settings that may turn out to be invalid. -/
def checkGiven (settings : Except ValidationError Settings) (headers : GivenHeaders) :
    Except Failure Unit := do
  let s ← settings.mapError fun e => .fault (.validation e)
  let h ← (Headers.ofPairs headers).mapError fun e => .fault (.coding (.unencodable e))
  (check s h).mapError fun r => .api (r.error s)

end Negotiation

end JsonApi
