import JsonApi.Text

/-!
# Paths of resources

Resources of a type live in a collection that is named by the type with an `s` behind it.
-/

namespace JsonApi.Resource

/-- The name of the collection for a type. -/
def collectionName (type : Text) : Text := type ++ ("s" : Text)

/-- The path of a resource below a base, or of its collection when there is no id. -/
def path (base type id : Text) : Text :=
  let base : Text := if base.getLast? = some (.scalar '/') then base else base ++ ("/" : Text)
  let collection := base ++ collectionName type
  if id = [] then collection else collection ++ ("/" : Text) ++ id

end JsonApi.Resource
