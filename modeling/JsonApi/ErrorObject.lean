import JsonApi.Error

/-!
# Error objects and error documents

An error object has at least one field, and its fields always stand in the same order.  An error
of the API is written as one with its status in digits; its pointer becomes the `source` member.
-/

namespace JsonApi

/-- The fields of an error object. -/
structure ErrorObject where
  status : Option Text
  code : Option Text
  title : Option Text
  detail : Option Text
  source : Option Json
  info : Option Json

namespace ErrorObject

/-- The members of an error object. -/
def members (e : ErrorObject) : List (Text × Json) :=
  let text (name : Text) (t : Option Text) : List (Text × Json) :=
    t.toList.map fun t => (name, .string t)
  let value (name : Text) (v : Option Json) : List (Text × Json) := v.toList.map fun v => (name, v)
  text "status" e.status ++ text "code" e.code ++ text "title" e.title ++ text "detail" e.detail ++
    value "source" e.source ++ value "meta" e.info

/-- The wire form of an error object, which needs a field. -/
def toJson (e : ErrorObject) : Except Fault Json :=
  if e.members = [] then .error .emptyErrorObject else .ok (.object e.members)

/-- The document of some error objects. -/
def document (objects : List Json) : Json := .object [("errors", .array objects)]

end ErrorObject

namespace ApiError

/-- The `source` member of an error that knows its place. -/
def source (e : ApiError) : Option Json :=
  e.pointer.map fun p => .object [("pointer", .string p)]

/-- The error object of an error. -/
def object (e : ApiError) : ErrorObject :=
  ⟨some (Text.ofInt e.status), some e.errorClass.kind, some e.title, some e.detail, e.source, none⟩

/-- The wire form of an error. -/
def toJson (e : ApiError) : Json := .object e.object.members

/-- The error document of an error. -/
def document (e : ApiError) : Json := ErrorObject.document [e.toJson]

end ApiError

end JsonApi
