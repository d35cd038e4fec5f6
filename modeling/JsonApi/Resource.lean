import JsonApi.Coercion
import JsonApi.Error

/-!
# Resource objects

A resource has a type, an id that is empty until a server assigns one, attributes and
relationships.  A missing section of relationships differs from an empty one, and so does
missing attributes from a null.
-/

namespace JsonApi

/-- A resource object. -/
structure Resource where
  type : Text
  id : Text
  attributes : Option Attributes
  relationships : Option Relationships

namespace Resource

/-- The members of a resource in wire form. -/
def members (r : Resource) : Members :=
  let type : Members := [("type", .string r.type)]
  let id : Members := if r.id = [] then [] else [("id", .string r.id)]
  let attributes : Members := match r.attributes with
    | none => []
    | some a => [("attributes", a.value)]
  let relationships : Members := match r.relationships with
    | none => []
    | some rs => [("relationships", rs.toJson)]
  type ++ id ++ attributes ++ relationships

/-- The wire form of a resource. -/
def toJson (r : Resource) : Json := .object r.members

/-- Whether two resources are equal, whatever the order of their relationships. -/
def equals (a b : Resource) : Bool :=
  let sameRelationships : Bool := match a.relationships, b.relationships with
    | none, none => true
    | some x, some y =>
      x.entries.length == y.entries.length &&
        x.entries.all fun (name, r) => y.get? name == some r
    | _, _ => false
  a.type == b.type && a.id == b.id &&
    a.attributes.map (·.bytes) == b.attributes.map (·.bytes) && sameRelationships

/-- The fields that a resource is built from.  The type and the id are values that need not be
text; attributes may have been refused already. -/
structure Fields where
  type : Option Json
  id : Option Json
  attributes : Except Attributes.Error (Option Attributes)
  relationships : Checked (Option Relationships)

/-- The resource that fields describe, or what is wrong with them. -/
def Fields.check (f : Fields) : Checked Resource :=
  let type : Checked Text := match f.type with
    | none => Checked.fail .missing
    | some v => Coercion.text v
  let id : Checked Text := match f.id with
    | none => .ok []
    | some v => Coercion.text v
  let attributes : Checked (Option Attributes) :=
    f.attributes.mapError fun e => [⟨[], .refused e.message⟩]
  let fields :=
    (type.below (.member "type")).pair <| (id.below (.member "id")).pair <|
      (attributes.below (.member "attributes")).pair
        (f.relationships.below (.member "relationships"))
  fields.map fun (type, id, attributes, relationships) => ⟨type, id, attributes, relationships⟩

/-- The resource that fields describe.  Attributes that fail because of the kinds of their parts
end everything. -/
def ofFields (f : Fields) : Except Fault Resource :=
  let checked := (Checked.report "ResourceObject" f.check).mapError Fault.validation
  match f.attributes with
  | .error e => if e.isRefusal then checked else .error (.attributes e)
  | .ok _ => checked

/-- The fields that a record describes. -/
def Fields.ofRecord (ms : List (Text × Json)) : Fields where
  type := Members.get? "type" ms
  id := Members.get? "id" ms
  attributes := match Members.get? "attributes" ms with
    | none => .ok none
    | some v => Attributes.ofValue v.toValue
  relationships := match Members.get? "relationships" ms with
    | none | some .null => .ok none
    | some v => (Relationships.ofRecord v).map some

/-- The resource that a record describes. -/
def ofRecord : Json → Except Fault Resource
  | .object ms => ofFields (Fields.ofRecord ms)
  | _ => .error (.validation ⟨"ResourceObject", [⟨[], .record "ResourceObject"⟩]⟩)

/-- The place of attributes. -/
def attributesPointer : Text := "/data/attributes"

/-- Whether all issues that name a field are about the attributes, and there are some. -/
def onlyAttributes (issues : List Issue) : Bool :=
  let fields := issues.filterMap (·.place.head?)
  fields != [] && fields.all (· = .member "attributes")

/-- The resource that fields describe, reported in the terms of the API when they are invalid. -/
def new (f : Fields) : Except Failure Resource :=
  match ofFields f with
  | .ok r => .ok r
  | .error (.validation e) =>
    match (f.type.getD .null).shown with
    | .error unshown => .error (.fault (.coding (.unwritable unshown)))
    | .ok type =>
      .error <| .api <| .of .internal
        (("Unable to build resource '" : Text) ++ type ++ ("': " : Text) ++ e.message)
        (if onlyAttributes e.issues then some attributesPointer else none)
        (some (.validation e))
  | .error f => .error (.fault f)

end Resource

end JsonApi
