import JsonApi.Document
import JsonApi.Violation

/-!
# Primary data

Reading resources from the primary data of a document.  Members are checked in a fixed order: type
and id, attributes, then the relationships in the order of the document.  The first rule that is
broken ends the reading, and its place is what the error points at.  Members that no rule names
are skipped.
-/

namespace JsonApi

/-- Why primary data was rejected: it breaks a rule, attributes have no wire form, or the fields
that were read make no resource. -/
inductive Rejection
  | violation (v : Violation)
  | attributes (e : CodingError)
  | resource (f : Fault)

/-- What a rejection ends the reading with. -/
def Rejection.failure : Rejection → Failure
  | .violation v => .api v.error
  | .attributes e =>
    .api <| .of .internal (("Unable to encode resource attributes: " : Text) ++ e.message)
      (some Resource.attributesPointer) (some (.coding e))
  | .resource f => .fault f

/-- The identifier that a value at a place is. -/
def Identifier.ofPrimary (place : Pointer) : Json → Except Violation Identifier
  | .object ms => Violation.checkIdentifier place ms
  | _ => .error ⟨.identifier, place⟩

namespace Linkage

/-- The identifiers that items are; the place of the array and the number of the first item are
given. -/
def itemsOfPrimary (place : Pointer) : Nat → List Json → Except Violation (List Identifier)
  | _, [] => .ok []
  | n, v :: vs => do
    let i ← Identifier.ofPrimary (place ++ [Text.ofNat n]) v
    return i :: (← itemsOfPrimary place (n + 1) vs)

/-- The linkage that a value at a place is. -/
def ofPrimary (place : Pointer) : Json → Except Violation Linkage
  | .null => .ok (.toOne none)
  | .object ms => (Violation.checkIdentifier place ms).map fun i => .toOne (some i)
  | .array vs => (itemsOfPrimary place 0 vs).map .toMany
  | _ => .error ⟨.linkage, place⟩

end Linkage

/-- The relationship of a name that a value is. -/
def Relationship.ofPrimary (name : Text) (v : Json) : Except Violation Relationship :=
  let data : Option Json := match v with
    | .object ms => Members.get? "data" ms
    | _ => none
  match data with
  | some v => (Linkage.ofPrimary (Violation.linkagePlace name) v).map Relationship.mk
  | none => .error ⟨.relationship name, Violation.relationshipsPlace ++ [name]⟩

/-- The relationships that a value is. -/
def Relationships.ofPrimary : Json → Except Violation Relationships
  | .object ms =>
    (ms.mapM fun (name, v) => (Relationship.ofPrimary name v).map fun r => (name, r)).map
      Relationships.ofPairs
  | _ => .error ⟨.relationships, Violation.relationshipsPlace⟩

namespace Resource

/-- The wire form of the attributes that a member may hold; a null is no attributes. -/
def attributesOfPrimary : Option Json → Except CodingError (Option Bytes)
  | none | some .null => .ok none
  | some v => (v.toBytes .compact).map some

/-- The id that a member may hold; a null is an empty id. -/
def idOfPrimary : Option Json → Json
  | none | some .null => .string []
  | some v => v

/-- The resource with the parts that were read; the wire form of its attributes is normalised like
any payload. -/
def ofParts (type id : Text) (attributes : Option Bytes) (relationships : Option Relationships) :
    Except Fault Resource :=
  ofFields ⟨some (.string type), some (.string id),
    Attributes.ofValue (attributes.elim .null .bytes), .ok relationships⟩

/-- The resource that the members of an object describe. -/
def ofPrimaryMembers (method : Text) (ms : Members) : Except Rejection Resource := do
  let type := (Members.get? "type" ms).getD .null
  let id := idOfPrimary (Members.get? "id" ms)
  let (type, id) ← (Violation.checkIdentity method type id).mapError .violation
  let attributes ← (attributesOfPrimary (Members.get? "attributes" ms)).mapError .attributes
  let relationships ←
    ((Members.get? "relationships" ms).mapM Relationships.ofPrimary).mapError .violation
  (ofParts type id attributes relationships).mapError .resource

/-- The resource that a value is, in a document that belongs to a method. -/
def ofPrimary (method : Text) : Json → Except Rejection Resource
  | .object ms => ofPrimaryMembers method ms
  | _ => .error (.violation ⟨.resource, Violation.dataPlace⟩)

/-- The resources that a value is. -/
def listOfPrimary (method : Text) : Json → Except Rejection (List Resource)
  | .array vs => vs.mapM (ofPrimary method)
  | _ => .error (.violation ⟨.resources, Violation.dataPlace⟩)

end Resource

namespace Document

/-- The primary data of a document. -/
def primary : Json → Except Violation Json
  | .object ms =>
    match Members.get? "data" ms with
    | some v => .ok v
    | none => .error ⟨.data, Violation.dataPlace⟩
  | _ => .error ⟨.document, []⟩

end Document

end JsonApi
