import JsonApi.Schema

/-!
# Records

Schemas of a few records: a user, a profile that holds one, a point in the plane, and the
identifier of a resource.
-/

namespace JsonApi.Schema

/-- A field that must be there. -/
def required (name : Text) (s : Schema) : Text × Schema × Option Json := (name, s, none)

/-- A user has a name and an age. -/
def user : Schema :=
  .record .model "UserAttributes" [required "name" .text, required "age" .integer]

/-- A point in the plane has two coordinates. -/
def point : Schema := .record .dataclass "Point" [required "x" .integer, required "y" .integer]

/-- A profile has a user, perhaps some tags and perhaps a nickname. -/
def profile : Schema :=
  .record .model "Profile"
    [required "user" user, ("tags", .list .text, some (.array [])),
      ("nick", .optional .text, some .null)]

/-- The identifier of a resource. -/
def identifier : Schema :=
  .record .model "ResourceIdentifier" [required "type" .text, required "id" .text]

end JsonApi.Schema
