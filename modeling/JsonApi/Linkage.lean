import JsonApi.Json.Shown
import JsonApi.Validation

/-!
# Identifiers, linkages and relationships

A linkage points at other resources by their identifiers.  Its shape is part of what it is: a
to-one linkage holds an identifier or none and is written as an object or null; a to-many linkage
holds any number and is written as an array, however many there are.
-/

namespace JsonApi

/-- The type and the id of a resource. -/
structure Identifier where
  type : Text
  id : Text
  deriving DecidableEq

namespace Identifier

/-- The identifier with the given members, each of which may be missing. -/
def check (type id : Option Json) : Checked Identifier :=
  let text (name : Text) : Option Json → Checked Text
    | none => Checked.below (.member name) (Checked.fail .missing)
    | some (.string t) => .ok t
    | some _ => Checked.below (.member name) (Checked.fail .text)
  (Checked.pair (text "type" type) (text "id" id)).map fun (type, id) => ⟨type, id⟩

/-- The identifier that an object's members describe; another value gets a complaint that is
given. -/
def ofMembers (otherwise : Complaint) : Json → Checked Identifier
  | .object ms => check (Members.get? "type" ms) (Members.get? "id" ms)
  | _ => Checked.fail otherwise

/-- The wire form of an identifier. -/
def toJson (i : Identifier) : Json := .object [("type", .string i.type), ("id", .string i.id)]

/-- What stands for an identifier: the identifier itself, or a value that holds a type and an
id. -/
inductive Like
  | identifier (i : Identifier)
  | value (v : Json)

/-- Why a value stands for no identifier. -/
inductive Error
  | tooFew (count : Nat)
  | tooMany
  /-- The value holds no parts. -/
  | indivisible (kind : Text)
  | invalid (e : ValidationError)
  deriving DecidableEq

/-- The wording of an error. -/
def Error.message : Error → Text
  | .tooFew count =>
    ("not enough values to unpack (expected 2, got " : Text) ++ Text.ofNat count ++ (")" : Text)
  | .tooMany => "too many values to unpack (expected 2)"
  | .indivisible kind => ("cannot unpack non-iterable " : Text) ++ kind ++ (" object" : Text)
  | .invalid e => e.message

/-- The parts of a value: the items of an array, the characters of a text, the names of an
object. -/
def parts : Json → Except Error (List Json)
  | .array items => .ok items
  | .string t => .ok (t.map fun c => .string [c])
  | .object ms => .ok (ms.map fun (name, _) => .string name)
  | v => .error (.indivisible v.kindWord)

/-- The identifier whose type and id are the two parts of a value. -/
def ofParts (v : Json) : Except Error Identifier := do
  match ← parts v with
  | [] => throw (.tooFew 0)
  | [_] => throw (.tooFew 1)
  | [type, id] =>
    ((check (some type) (some id)).report "ResourceIdentifier").mapError .invalid
  | _ => throw .tooMany

/-- The identifier that something stands for. -/
def Like.resolve : Like → Except Error Identifier
  | .identifier i => .ok i
  | .value v => ofParts v

end Identifier

/-- The shape of a linkage. -/
inductive Shape
  | toOne
  | toMany
  deriving DecidableEq

namespace Shape

/-- The name of a shape. -/
def name : Shape → Text
  | .toOne => "to-one"
  | .toMany => "to-many"

/-- The shape with a given name. -/
def ofJson : Json → Checked Shape
  | .string t =>
    if t = name .toOne then .ok .toOne
    else if t = name .toMany then .ok .toMany
    else Checked.fail .shape
  | _ => Checked.fail .shape

end Shape

/-- The item at an index; a negative index counts from the end. -/
def itemAt? {α : Type} (items : List α) : Int → Option α
  | .ofNat n => items[n]?
  | .negSucc n => items.reverse[n]?

/-- A linkage. -/
inductive Linkage
  | toOne (identifier : Option Identifier)
  | toMany (identifiers : List Identifier)
  deriving DecidableEq

namespace Linkage

/-- The identifiers of a linkage in order. -/
def identifiers : Linkage → List Identifier
  | .toOne i => i.toList
  | .toMany is => is

/-- The shape of a linkage. -/
def shape : Linkage → Shape
  | .toOne _ => .toOne
  | .toMany _ => .toMany

/-- The number of identifiers. -/
def length (l : Linkage) : Nat := l.identifiers.length

/-- The identifier at an index; a negative index counts from the end. -/
def get? (l : Linkage) (index : Int) : Option Identifier := itemAt? l.identifiers index

/-- The linkage of a shape with the given identifiers. -/
def check (shape : Shape) (identifiers : List Identifier) : Checked Linkage :=
  match shape, identifiers with
  | .toMany, is => .ok (.toMany is)
  | .toOne, [] => .ok (.toOne none)
  | .toOne, [i] => .ok (.toOne (some i))
  | .toOne, _ =>
    Checked.fail (.refused "A to-one linkage holds at most one resource identifier.")

/-- A to-one linkage, empty when nothing is given. -/
def ofOne : Option Identifier.Like → Except Identifier.Error Linkage
  | none => .ok (.toOne none)
  | some i => i.resolve.map fun i => .toOne (some i)

/-- A to-many linkage. -/
def ofMany (is : List Identifier.Like) : Except Identifier.Error Linkage :=
  (is.mapM Identifier.Like.resolve).map .toMany

/-- The items of an array as checked parts of a value. -/
def itemsFrom (check : Json → Checked Identifier) : Nat → List Json → List (Checked Identifier)
  | _, [] => []
  | n, v :: vs => (check v).below (.item n) :: itemsFrom check (n + 1) vs

/-- The identifiers that a value lists; none when it is missing. -/
def identifiersOf : Option Json → Checked (List Identifier)
  | none => .ok []
  | some (.array vs) =>
    Checked.all (itemsFrom (Identifier.ofMembers (.record "ResourceIdentifier")) 0 vs)
  | some _ => Checked.fail .tuple

/-- The linkage that a record of identifiers and shape describes. -/
def ofRecord : Json → Checked Linkage
  | .object ms => do
    let shape : Checked Shape := match Members.get? "shape" ms with
      | none => .ok .toMany
      | some v => Shape.ofJson v
    let (is, shape) ←
      ((identifiersOf (Members.get? "identifiers" ms)).below (.member "identifiers")).pair
        (shape.below (.member "shape"))
    check shape is
  | _ => Checked.fail (.record "ResourceLinkage")

/-- The wire form of a linkage. -/
def toJson : Linkage → Json
  | .toOne none => .null
  | .toOne (some i) => i.toJson
  | .toMany is => .array (is.map Identifier.toJson)

theorem length_le_one_of_shape {l : Linkage} (h : l.shape = .toOne) : l.length ≤ 1 := by
  cases l with
  | toOne i => cases i <;> simp [length, identifiers]
  | toMany is => simp [shape] at h

end Linkage

/-- A relationship with its linkage. -/
structure Relationship where
  data : Linkage
  deriving DecidableEq

namespace Relationship

/-- A to-one relationship with the identifier of the given type and id. -/
def ofOne (type id : Json) : Except Identifier.Error Relationship :=
  (Linkage.ofOne (some (.value (.array [type, id])))).map Relationship.mk

/-- A to-many relationship. -/
def ofMany (is : List Identifier.Like) : Except Identifier.Error Relationship :=
  (Linkage.ofMany is).map Relationship.mk

/-- The wire form of a relationship. -/
def toJson (r : Relationship) : Json := .object [("data", r.data.toJson)]

/-- The relationship that a record describes. -/
def ofRecord : Json → Checked Relationship
  | .object ms =>
    let data : Checked Linkage := match Members.get? "data" ms with
      | none => Checked.fail .missing
      | some v => Linkage.ofRecord v
    (data.below (.member "data")).map Relationship.mk
  | _ => Checked.fail (.record "Relationship")

end Relationship

/-- The relationships of a resource in order, at most one of a name. -/
structure Relationships where
  entries : List (Text × Relationship)
  distinct : (Members.names entries).Nodup

namespace Relationships

/-- The relationships that entries stand for when a later one wins over an earlier one of its
name. -/
def ofPairs (pairs : List (Text × Relationship)) : Relationships :=
  ⟨Members.ofPairs pairs, Members.nodup_names_ofPairs pairs⟩

/-- The relationship of a name. -/
def get? (name : Text) (r : Relationships) : Option Relationship := Members.get? name r.entries

/-- The wire form of relationships. -/
def toJson (r : Relationships) : Json := .object (r.entries.map fun (name, x) => (name, x.toJson))

/-- The relationships that a record describes. -/
def ofRecord : Json → Checked Relationships
  | .object ms =>
    (Checked.all (ms.map fun (name, v) =>
      ((Relationship.ofRecord v).below (.member name)).map fun x => (name, x))).map ofPairs
  | _ => Checked.fail .dictionary

end Relationships

end JsonApi
