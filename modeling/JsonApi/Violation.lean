import JsonApi.Error
import JsonApi.Pointer
import JsonApi.Resource
import JsonApi.Text.Case

/-!
# Violations

The structural rules of documents, and where a document breaks one.  A violation is reported as an
error of the API whose pointer leads to the place.
-/

namespace JsonApi

/-- The members that every identifier has. -/
inductive IdentifierMember
  | type
  | id
  deriving DecidableEq

/-- The name of a member. -/
def IdentifierMember.name : IdentifierMember → Text
  | .type => "type"
  | .id => "id"

/-- The rules of documents. -/
inductive Rule
  /-- A document is an object. -/
  | document
  /-- A document has primary data. -/
  | data
  /-- The primary data is a resource. -/
  | resource
  /-- The primary data is an array. -/
  | resources
  /-- A resource has a type that is a text and not empty. -/
  | type
  /-- The id of a resource is a text. -/
  | id
  /-- A resource has an id, unless it is being created. -/
  | presentId (method : Text)
  /-- The relationships of a resource are an object. -/
  | relationships
  /-- A relationship is an object with data. -/
  | relationship (name : Text)
  /-- The linkage of a relationship is null, an object or an array. -/
  | linkage
  /-- An identifier is an object. -/
  | identifier
  /-- An identifier has a member that is a text and not empty. -/
  | identifierMember (m : IdentifierMember)
  deriving DecidableEq

/-- The wording for a broken rule. -/
def Rule.message : Rule → Text
  | .document => "A JSON:API document must be a JSON object."
  | .data => "Document is missing the primary 'data' member."
  | .resource => "Primary data must be a resource object."
  | .resources => "Primary data must be an array of resource objects."
  | .type => "Resource object must have a non-empty 'type'."
  | .id => "Resource 'id' must be a string."
  | .presentId method =>
    ("Resource object must have an 'id' for HTTP method '" : Text) ++ method.upper ++ ("'." : Text)
  | .relationships => "Relationships must be an object."
  | .relationship name =>
    ("Relationship '" : Text) ++ name ++ ("' must be an object with a 'data' member." : Text)
  | .linkage => "Resource linkage must be null, an object or an array."
  | .identifier => "Resource identifier must be an object."
  | .identifierMember m =>
    ("Resource identifier must have a non-empty '" : Text) ++ m.name ++ ("'." : Text)

/-- A rule and the place where it is broken. -/
structure Violation where
  rule : Rule
  place : Pointer
  deriving DecidableEq

namespace Violation

/-- The error of the API for a violation. -/
def error (v : Violation) : ApiError := .of .specification v.rule.message (some v.place.text) none

/-- The place of the primary data. -/
def dataPlace : Pointer := ["data"]

/-- The place that is named when the type is at fault. -/
def typePlace : Pointer := ["data", "attributes", "type"]

/-- The place that is named when the id is at fault. -/
def idPlace : Pointer := ["data", "attributes", "id"]

/-- The place of the relationships. -/
def relationshipsPlace : Pointer := ["data", "relationships"]

/-- The place of the linkage of a relationship. -/
def linkagePlace (name : Text) : Pointer := relationshipsPlace ++ [name, "data"]

/-- Whether a method creates a resource, which may have no id then. -/
def creates (method : Text) : Bool := method.upper == ("POST" : Text)

/-- Checks a type and an id, and gives them as texts. -/
def checkIdentity (method : Text) (type id : Json) : Except Violation (Text × Text) :=
  match type with
  | .string (c :: t) =>
    match id with
    | .string id =>
      if id = [] ∧ !creates method then .error ⟨.presentId method, idPlace⟩
      else .ok (c :: t, id)
    | _ => .error ⟨.id, idPlace⟩
  | _ => .error ⟨.type, typePlace⟩

/-- Checks a member of an identifier, and gives it as a text. -/
def checkMember (place : Pointer) (m : IdentifierMember) (ms : Members) : Except Violation Text :=
  match Members.get? m.name ms with
  | some (.string (c :: t)) => .ok (c :: t)
  | _ => .error ⟨.identifierMember m, place ++ [m.name]⟩

/-- Checks the members of an identifier. -/
def checkIdentifier (place : Pointer) (ms : Members) : Except Violation Identifier := do
  let type ← checkMember place .type ms
  let id ← checkMember place .id ms
  return ⟨type, id⟩

end Violation

namespace Linkage

/-- The places of the identifiers of a linkage, from the place of the linkage. -/
def places (place : Pointer) : Linkage → List Pointer
  | .toOne i => i.toList.map fun _ => place
  | .toMany is => (List.range is.length).map fun n => place ++ [Text.ofNat n]

end Linkage

namespace Resource

/-- Checks the identifiers of a relationship. -/
def checkRelationship (name : Text) (r : Relationship) : Except Violation Unit :=
  (r.data.identifiers.zip (r.data.places (Violation.linkagePlace name))).forM fun (i, place) => do
    let _ ← Violation.checkIdentifier place [("type", .string i.type), ("id", .string i.id)]

/-- Checks that a resource may be sent with a method: it has a type, an id unless it is being
created, and its relationships hold complete identifiers only. -/
def validate (method : Text) (r : Resource) : Except Violation Unit := do
  let _ ← Violation.checkIdentity method (.string r.type) (.string r.id)
  (r.relationships.elim [] (·.entries)).forM fun (name, x) => checkRelationship name x

end Resource

end JsonApi
