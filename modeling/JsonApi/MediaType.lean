import JsonApi.Json
import JsonApi.Text.Blank
import JsonApi.Text.Case

/-!
# Media types

The value of a content type header: a media type and parameters, separated by semicolons.  The
parameters `ext` and `profile` hold lists; the others are kept in order, a later one of a name in
the place of the earlier one.
-/

namespace JsonApi

/-- A media type with its parameters. -/
structure MediaType where
  /-- The type and subtype in lower case. -/
  essence : Text
  ext : List Text
  profile : List Text
  others : List (Text × Text)
  deriving DecidableEq

namespace MediaType

/-- The pieces of a header value between semicolons, without blanks around them and without empty
ones. -/
def pieces (t : Text) : List Text :=
  ((t.splitAt (.scalar ';')).map Text.strip).filter (· ≠ [])

/-- A text without the quotes around it, if it has both. -/
def unquote (t : Text) : Text :=
  if t.head? = some (.scalar '"') ∧ t.getLast? = some (.scalar '"') then (t.drop 1).dropLast else t

/-- The list that the value of a parameter spells: items with one space between neighbours,
perhaps in quotes. -/
def list (t : Text) : List Text :=
  if unquote t = [] then [] else (unquote t).splitAt (.scalar ' ')

/-- The name and the value of a parameter; without an equals sign the whole is a name, which is
for none of the lists. -/
structure Parameter where
  name : Text
  value : Text
  hasValue : Bool
  deriving DecidableEq

/-- The parameter that a piece spells. -/
def Parameter.ofPiece (piece : Text) : Parameter :=
  match piece.cut? (.scalar '=') with
  | none => ⟨piece.lower, [], false⟩
  | some (name, value) => ⟨(Text.strip name).lower, Text.strip value, true⟩

/-- A media type with a parameter added. -/
def add (m : MediaType) (p : Parameter) : MediaType :=
  if p.hasValue ∧ p.name = ("ext" : Text) then { m with ext := list p.value }
  else if p.hasValue ∧ p.name = ("profile" : Text) then { m with profile := list p.value }
  else { m with others := Members.put p.name p.value m.others }

/-- The media type that a header value spells. -/
def ofText (t : Text) : MediaType :=
  match pieces t with
  | [] => ⟨[], [], [], []⟩
  | first :: rest => (rest.map Parameter.ofPiece).foldl add ⟨first.lower, [], [], []⟩

end MediaType

end JsonApi
