import JsonApi.Json.Writer
import JsonApi.Text.Quoted

/-!
# JSON values in messages

How messages show a value that is no text: `Json.shown` leaves a text as it is at the top, and
shows everything else with quoted texts, capital truth values and a word for null.  An integer of
too many digits is not shown in a message either, so the message fails.
-/

namespace JsonApi.Json

/-- The digits of an integer, unless they are too many. -/
def quotedInt (n : Int) : Except WriteError Text :=
  if 10 ^ digitLimit ≤ n.natAbs then .error .tooManyDigits else .ok (Text.ofInt n)

mutual

/-- A value with its texts between quotes. -/
def quoted : Json → Except WriteError Text
  | .null => .ok "None"
  | .bool true => .ok "True"
  | .bool false => .ok "False"
  | .int n => quotedInt n
  | .float x => .ok (x.text "nan" "inf")
  | .string t => .ok t.quoted
  | .array [] => .ok "[]"
  | .array (v :: vs) => do
    let first ← quoted v
    let rest ← quotedItems vs
    return ("[" : Text) ++ first ++ rest ++ ("]" : Text)
  | .object [] => .ok (Text.ofChars ['\x7b', '\x7d'])
  | .object ((name, v) :: ms) => do
    let first ← quoted v
    let rest ← quotedMembers ms
    return Text.ofChars ['\x7b'] ++ name.quoted ++ (": " : Text) ++ first ++ rest ++
      Text.ofChars ['\x7d']

/-- The items behind the first one. -/
def quotedItems : List Json → Except WriteError Text
  | [] => .ok []
  | v :: vs => do
    let item ← quoted v
    let rest ← quotedItems vs
    return (", " : Text) ++ item ++ rest

/-- The members behind the first one. -/
def quotedMembers : List (Text × Json) → Except WriteError Text
  | [] => .ok []
  | (name, v) :: ms => do
    let value ← quoted v
    let rest ← quotedMembers ms
    return (", " : Text) ++ name.quoted ++ (": " : Text) ++ value ++ rest

end

/-- A value as it stands inside a message. -/
def shown : Json → Except WriteError Text
  | .string t => .ok t
  | v => v.quoted

/-- The word of messages for the kind of a value. -/
def kindWord : Json → Text
  | .null => "NoneType"
  | .bool _ => "bool"
  | .int _ => "int"
  | .float _ => "float"
  | .string _ => "str"
  | .array _ => "list"
  | .object _ => "dict"

end JsonApi.Json
