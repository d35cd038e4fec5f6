import JsonApi.Json

/-!
# Pointers into JSON documents

A pointer names the members and items on the way to a place.  In its text each of them follows a
slash; a tilde or a slash inside one is escaped, so that different pointers have different texts.
-/

namespace JsonApi

/-- A pointer: the names of members and the numbers of items on the way to a place. -/
abbrev Pointer := List Text

namespace Pointer

/-- A token with its tildes and slashes escaped. -/
def escape (token : Text) : Text :=
  ((token.replace (.scalar '~') "~0").replace (.scalar '/') "~1")

/-- The text of a pointer. -/
def text (p : Pointer) : Text := p.flatMap fun token => .scalar '/' :: escape token

/-- A token with its escapes read. -/
def unescape : Text → Text
  | .scalar '~' :: .scalar '0' :: rest => .scalar '~' :: unescape rest
  | .scalar '~' :: .scalar '1' :: rest => .scalar '/' :: unescape rest
  | c :: rest => c :: unescape rest
  | [] => []

/-- The pointer that a text spells. -/
def ofText? : Text → Option Pointer
  | [] => some []
  | .scalar '/' :: rest => some ((Text.splitAt (.scalar '/') rest).map unescape)
  | _ => none

/-- The value that a pointer leads to inside a value. -/
def eval? : Pointer → Json → Option Json
  | [], v => some v
  | token :: p, .object ms => (Members.get? token ms).bind (eval? p)
  | token :: p, .array vs =>
    ((List.range vs.length).find? fun n => Text.ofNat n = token).bind fun n =>
      vs[n]?.bind (eval? p)
  | _ :: _, _ => none

end Pointer

end JsonApi
