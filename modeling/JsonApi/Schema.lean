import JsonApi.Coercion
import JsonApi.Json.Limits
import JsonApi.Resource

/-!
# Schemas

A schema describes the form that attributes are read into.  Reading is generous, as for settings: a
number may be spelled as text, a record may hold members that the schema does not know.  A union
prefers the member that takes a value as it is; without one, the first that can take it.  What is
read is again a JSON value, a record with its fields in the order of the schema.
-/

namespace JsonApi

/-- A form to read attributes into. -/
inductive Schema
  | any
  | text
  | integer
  | double
  | bool
  | list (item : Schema)
  | dictionary (key value : Schema)
  /-- A value that may be null. -/
  | optional (s : Schema)
  | union (members : List Schema)
  /-- A record; each field has a name, a schema and perhaps a default. -/
  | record (kind : RecordKind) (name : Text) (fields : List (Text × Schema × Option Json))

namespace Schema

mutual

/-- The full title of a schema, in reports on a value that does not fit. -/
def title : Schema → Text
  | .any => "any"
  | .text => "str"
  | .integer => "int"
  | .double => "float"
  | .bool => "bool"
  | .list item => ("list[" : Text) ++ item.title ++ ("]" : Text)
  | .dictionary key value =>
    ("dict[" : Text) ++ key.title ++ ("," : Text) ++ value.title ++ ("]" : Text)
  | .optional s => ("nullable[" : Text) ++ s.title ++ ("]" : Text)
  | .union members => ("union[" : Text) ++ Text.join "," (titles members) ++ ("]" : Text)
  | .record _ name _ => name

/-- The full titles of schemas. -/
def titles : List Schema → List Text
  | [] => []
  | s :: ss => s.title :: titles ss

end

mutual

/-- The short name of a schema, in messages. -/
def name : Schema → Text
  | .any => "Any"
  | .text => "str"
  | .integer => "int"
  | .double => "float"
  | .bool => "bool"
  | .list _ => "list"
  | .dictionary _ _ => "dict"
  | .optional _ => "Optional"
  | .union members => Text.join " | " (shortNames members)
  | .record _ name _ => name

/-- The short names of schemas. -/
def shortNames : List Schema → List Text
  | [] => []
  | s :: ss => s.name :: shortNames ss

end

/-- Whether a schema takes a value as it is. -/
def takesAsIs : Schema → Json → Bool
  | .text, .string _ | .integer, .int _ | .double, .float _ | .bool, .bool _ => true
  | .optional _, .null => true
  | _, _ => false

/-- The checked items of an array, numbered from the first. -/
def checkItems (check : Json → Checked Json) : Nat → List Json → List (Checked Json)
  | _, [] => []
  | n, v :: vs => (check v).below (.item n) :: checkItems check (n + 1) vs

/-- The first attempt that takes a value as it is, or else the first that takes it at all. -/
def best (attempts : List (Schema × Checked Json)) (v : Json) : Option Json :=
  let taken := attempts.filterMap fun (s, attempt) => attempt.toOption.map fun w => (s, w)
  ((taken.find? fun (s, _) => takesAsIs s v).or taken.head?).map (·.2)

/-- The issues of attempts, each below the title of its schema. -/
def issues (attempts : List (Schema × Checked Json)) : List Issue :=
  attempts.flatMap fun (s, attempt) =>
    match attempt.below (.member s.title) with
    | .ok _ => []
    | .error issues => issues

mutual

/-- The value read into a schema, or what is wrong with it. -/
def check : Schema → Json → Checked Json
  | .any, v => .ok v
  | .text, v => (Coercion.text v).map .string
  | .integer, v => (Coercion.integer v).map .int
  | .double, v => (Coercion.double v).map .float
  | .bool, v => (Coercion.bool v).map .bool
  | .list item, .array vs => (Checked.all (checkItems item.check 0 vs)).map .array
  | .list _, _ => Checked.fail .array
  | .dictionary key value, .object ms =>
    let entry : Text × Json → Checked (Text × Json) := fun (name, v) =>
      ((Checked.pair (key.check (.string name)) (value.check v)).below (.member name)).map
        fun (_, w) => (name, w)
    (Checked.all (ms.map entry)).map .object
  | .dictionary _ _, _ => Checked.fail (.object .dictionary)
  | .optional _, .null => .ok .null
  | .optional s, v => s.check v
  | .union members, v =>
    let attempts := attempts members v
    match best attempts v with
    | some w => .ok w
    | none => .error (issues attempts)
  | .record _ _ fields, .object ms => (checkFields fields ms).map .object
  | .record kind _ _, _ => Checked.fail (.object kind)

/-- What becomes of a value under each of some schemas. -/
def attempts : List Schema → Json → List (Schema × Checked Json)
  | [], _ => []
  | s :: ss, v => (s, s.check v) :: attempts ss v

/-- The fields of a record, read from the members of an object. -/
def checkFields : List (Text × Schema × Option Json) → Members → Checked Members
  | [], _ => .ok []
  | (name, s, otherwise) :: fields, ms =>
    let field : Checked Json := match Members.get? name ms, otherwise with
      | some v, _ => s.check v
      | none, some v => .ok v
      | none, none => Checked.fail .missing
    (Checked.pair (field.below (.member name)) (checkFields fields ms)).map
      fun (w, rest) => (name, w) :: rest

end

/-- The number of containers that attributes may be nested in. -/
def depthLimit : Nat := 200

/-- The complaint about a document that goes past a limit.  An integer is given up behind the last
digit that it may have, or at the end of the document. -/
def complaint (document : Text) (e : Json.Excess) : Complaint :=
  let position := Json.width document - Json.width e.place
  match e.limit with
  | .nesting => .depth (position + 1)
  | .integer => .length (min (position + Coercion.integerLimit + 2) (Json.width document))

/-- The first place of a document that goes past the limits. -/
def excess? (document : Text) : Option Json.Excess :=
  Json.excess? Coercion.integerLimit depthLimit 0 (Json.lexemes document)

/-- A value read into a schema. -/
def read (s : Schema) (v : Json) : Except ValidationError Json := (s.check v).report s.title

/-- The value of a document, read into a schema unless the document goes past the limits. -/
def readDocument (s : Schema) (document : Text) (v : Json) : Except ValidationError Json :=
  match excess? document with
  | some e => Checked.report s.title (Checked.fail (complaint document e))
  | none => s.read v

end Schema

namespace Resource

/-- The attributes of a resource, read into a schema. -/
def unmarshal (s : Schema) (r : Resource) : Except ApiError Json :=
  match r.attributes with
  | none =>
    .error <| .of .internal
      (("Resource '" : Text) ++ r.type ++ ("' has no attributes to unmarshal." : Text))
      (some attributesPointer) none
  | some a =>
    (s.readDocument a.text a.value).mapError fun e =>
      .of .internal
        (("Unable to unmarshal attributes into " : Text) ++ s.name ++ (": " : Text) ++ e.message)
        (some attributesPointer) (some (.validation e))

end Resource

end JsonApi
