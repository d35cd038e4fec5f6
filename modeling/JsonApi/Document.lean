import JsonApi.Json.Coding
import JsonApi.Resource
import JsonApi.Section

/-!
# Documents

A document holds primary data, which is one resource or an array of them, and perhaps links and
meta information.  It is written as JSON with a given indent.
-/

namespace JsonApi

namespace Document

/-- The document with the given primary data; sections that are missing or empty are left out. -/
def build (data : Json) (links info : Option Json) : Except Section.Error Json := do
  let links ← Section.member "links" links
  let info ← Section.member "meta" info
  let primary : Members := [("data", data)]
  return .object (primary ++ links ++ info)

/-- The document of a resource. -/
def single (r : Resource) : Json := .object [("data", r.toJson)]

/-- The document of resources. -/
def collection (rs : List Resource) : Json := .object [("data", .array (rs.map Resource.toJson))]

/-- The indent of documents that are written without one being asked for. -/
def defaultIndent : Option Int := some 2

/-- The bytes of a document; without an indent it stands on one line. -/
def render (indent : Option Int) (document : Json) : Except CodingError Bytes :=
  document.toBytes (.ofIndent indent)

end Document

end JsonApi
