import JsonApi.Attributes
import JsonApi.Host.Label
import JsonApi.Linkage
import JsonApi.Section
import JsonApi.Url.Error
import JsonApi.Value.Spelling

/-!
# Errors

An `ApiError` is a failure that the client reports in the terms of the API: a class, which fixes
its kind, status and title, a detail, and perhaps a pointer into the offending document.  A
`Fault` is anything else that can go wrong; an API error may name one as its cause.  A `Failure` is
either.
-/

namespace JsonApi

/-! ### Faults -/

/-- What can go wrong between a client and a server. -/
inductive Transport.Kind
  | connect
  | read
  | write
  | close
  | network
  | connectTimeout
  | readTimeout
  | writeTimeout
  | poolTimeout
  | timeout
  | localProtocol
  | remoteProtocol
  | protocol
  | proxy
  | unsupportedProtocol
  | transport
  | decoding
  | tooManyRedirects
  | request
  | stream
  | general
  deriving DecidableEq

/-- A failure of the transport. -/
structure Transport.Failure where
  kind : Transport.Kind
  message : Text
  deriving DecidableEq

/-- A failure to read a body: of the device that it is on, or of its contents. -/
structure Body.Failure where
  ofDevice : Bool
  message : Text
  deriving DecidableEq

/-- A failure to find a part of a value. -/
inductive Lookup.Failure
  /-- A linkage has no identifier at an index. -/
  | identifier
  /-- A list has no item at an index. -/
  | item
  /-- There is no relationship of a name. -/
  | relationship (name : Text)
  /-- There are no relationships at all. -/
  | relationships
  deriving DecidableEq

/-- Anything that can go wrong outside the terms of the API. -/
inductive Fault
  | coding (e : CodingError)
  | attributes (e : Attributes.Error)
  | validation (e : ValidationError)
  | identifier (e : Identifier.Error)
  | url (e : Url.Error)
  /-- A value of some kind that is no text, where the text of a URL is wanted. -/
  | notUrl (kind quoted : Text)
  /-- The text of a URL that names no scheme, where one is needed. -/
  | noScheme (t : Text)
  | host (e : Host.Error)
  | transport (f : Transport.Failure)
  /-- A stream has been read already. -/
  | streamConsumed
  /-- A stream has been closed before it was read. -/
  | streamClosed
  | body (f : Body.Failure)
  /-- A chunk of a body that should be bytes is text. -/
  | textChunk (index : Nat)
  /-- A chunk of a body that should be text is bytes. -/
  | bytesChunk (index : Nat)
  /-- A chunk of coded content is text. -/
  | codedText
  | part (e : Section.Error)
  /-- An error object without any field. -/
  | emptyErrorObject
  | lookup (f : Lookup.Failure)
  /-- A text that spells no value of the kind that is wanted. -/
  | unreadable (e : Value.Unreadable)

/-- The wording of a fault. -/
def Fault.message : Fault → Text
  | .coding e => e.message
  | .attributes e => e.message
  | .validation e => e.message
  | .identifier e => e.message
  | .url e => e.message
  | .notUrl kind quoted =>
    ("Invalid type for url.  Expected str or httpx.URL, got <class '" : Text) ++ kind ++
      ("'>: " : Text) ++ quoted
  | .noScheme t => ("unknown url type: " : Text) ++ t.quoted
  | .host e => e.message
  | .transport f => f.message
  | .streamConsumed =>
    ("Attempted to read or stream some content, but the content has already been " : Text) ++
      ("streamed. For requests, this could be due to passing a generator as request " : Text) ++
      ("content, and then receiving a redirect response or a secondary request as part " : Text) ++
      ("of an authentication flow.For responses, this could be due to attempting to " : Text) ++
      ("stream the response content more than once." : Text)
  | .streamClosed => "Attempted to read or stream content, but the stream has been closed."
  | .body f => f.message
  | .textChunk index =>
    ("sequence item " : Text) ++ Text.ofNat index ++
      (": expected a bytes-like object, str found" : Text)
  | .bytesChunk index =>
    ("sequence item " : Text) ++ Text.ofNat index ++
      (": expected str instance, bytes found" : Text)
  | .codedText => "a bytes-like object is required, not 'str'"
  | .part e => e.message
  | .emptyErrorObject => "Error object must include at least one field."
  | .lookup .identifier => "tuple index out of range"
  | .lookup .item => "list index out of range"
  | .lookup (.relationship name) => name.quoted
  | .lookup .relationships => "'NoneType' object is not subscriptable"
  | .unreadable e => e.message

/-! ### Errors of the API -/

/-- The classes of errors. -/
inductive ErrorClass
  | general
  /-- A document is JSON but breaks a structural rule. -/
  | specification
  /-- A content type is not the one of the API. -/
  | headerNegotiation
  /-- A document could not be read, decoded or encoded. -/
  | internal
  /-- A request could not be built from what was given. -/
  | request
  deriving DecidableEq

namespace ErrorClass

/-- The name of a class. -/
def name : ErrorClass → Text
  | .general => "JSONAPIError"
  | .specification => "SpecificationError"
  | .headerNegotiation => "HeaderNegotiationError"
  | .internal => "InternalError"
  | .request => "RequestError"

/-- The class of a given name. -/
def ofName? (t : Text) : Option ErrorClass :=
  ([.general, .specification, .headerNegotiation, .internal, .request] : List ErrorClass).find?
    fun c => c.name = t

/-- The code of a class in error objects. -/
def kind : ErrorClass → Text
  | .general | .internal => "internal"
  | .specification => "specification"
  | .headerNegotiation => "header_negotiation"
  | .request => "request"

/-- The status of a class. -/
def status : ErrorClass → Int
  | .general | .internal => 500
  | .specification => 422
  | .headerNegotiation => 406
  | .request => 400

/-- The title of a class. -/
def title : ErrorClass → Text
  | .general | .internal => "Internal Server Error"
  | .specification => "JSON:API Specification Error"
  | .headerNegotiation => "Not Acceptable"
  | .request => "Bad Request"

end ErrorClass

/-- An error of the API. -/
structure ApiError where
  errorClass : ErrorClass
  detail : Text
  pointer : Option Text
  status : Int
  title : Text
  cause : Option Fault

namespace ApiError

/-- An error with the status and the title of its class. -/
def of (errorClass : ErrorClass) (detail : Text) (pointer : Option Text) (cause : Option Fault) :
    ApiError :=
  ⟨errorClass, detail, pointer, errorClass.status, errorClass.title, cause⟩

/-- An error with a status and a title of its own, where they are given. -/
def make (errorClass : ErrorClass) (detail : Text) (pointer : Option Text) (status : Option Int)
    (title : Option Text) : ApiError :=
  ⟨errorClass, detail, pointer, status.getD errorClass.status, title.getD errorClass.title, none⟩

/-- A short description of an error. -/
def description (e : ApiError) : Text :=
  e.errorClass.name ++ ("(status=" : Text) ++ Text.ofInt e.status ++ (", pointer=" : Text) ++
    Text.quoted? e.pointer ++ (", detail=" : Text) ++ e.detail.quoted ++ (")" : Text)

end ApiError

/-- What ends an operation without a result. -/
inductive Failure
  | api (e : ApiError)
  | fault (f : Fault)

/-- What came of an operation, and what was logged on the way. -/
structure Outcome (α : Type) where
  result : Except Failure α
  log : List Text

end JsonApi
