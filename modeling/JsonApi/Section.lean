import JsonApi.Attributes
import JsonApi.Json.Shown

/-!
# Sections of a document

The links and the meta section of a document are given as an object, or as a list of pairs of a
name and a value.  An empty section is left out.
-/

namespace JsonApi

/-- Why a value gives no section. -/
inductive Section.Error
  | indivisible (kind : Text)
  /-- An item is no pair at all. -/
  | item (index : Nat)
  | itemLength (index count : Nat)
  | changeableKey (kind : Text)
  | key (e : Attributes.Error)
  deriving DecidableEq

namespace Section

/-- The wording of an error. -/
def Error.message : Error → Text
  | .indivisible kind => ("'" : Text) ++ kind ++ ("' object is not iterable" : Text)
  | .item index =>
    ("cannot convert dictionary update sequence element #" : Text) ++ Text.ofNat index ++
      (" to a sequence" : Text)
  | .itemLength index count =>
    ("dictionary update sequence element #" : Text) ++ Text.ofNat index ++
      (" has length " : Text) ++ Text.ofNat count ++ ("; 2 is required" : Text)
  | .changeableKey kind => ("unhashable type: '" : Text) ++ kind ++ ("'" : Text)
  | .key e => e.message

/-- Whether a value counts as nothing. -/
def isEmpty : Json → Bool
  | .null | .bool false | .string [] | .array [] | .object [] => true
  | .int n => n == 0
  | .float x => x.equals (.ofInt 0)
  | _ => false

/-- The key that a value is. -/
def key : Json → Except Error Value
  | .null => .ok .null
  | .bool b => .ok (.bool b)
  | .int n => .ok (.int n)
  | .float x => .ok (.float x)
  | .string t => .ok (.text t)
  | .array _ => .error (.changeableKey "list")
  | .object _ => .error (.changeableKey "dict")

/-- The parts of a value, if it has any. -/
def parts? : Json → Option (List Json)
  | .array items => some items
  | .string t => some (t.map fun c => .string [c])
  | .object ms => some (ms.map fun (name, _) => .string name)
  | _ => none

/-- The entries of pairs, added to those before them. -/
def entries (before : List (Value × Json)) (index : Nat) :
    List Json → Except Error (List (Value × Json))
  | [] => .ok before
  | item :: items =>
    match parts? item with
    | none => .error (.item index)
    | some [k, v] => do
      entries (Entries.put Value.same (← key k) v before) (index + 1) items
    | some ps => .error (.itemLength index ps.length)

/-- The members of a section. -/
def ofJson : Json → Except Error Members
  | .object ms => .ok ms
  | v =>
    match parts? v with
    | none => .error (.indivisible v.kindWord)
    | some items => do
      (← entries [] 0 items).mapM fun (k, v) => ((Draft.name k).mapError .key).map (·, v)

/-- The member of a document that a section is, unless it is missing or empty. -/
def member (name : Text) : Option Json → Except Error Members
  | none => .ok []
  | some v => if isEmpty v then .ok [] else (ofJson v).map fun ms => [(name, .object ms)]

end Section

end JsonApi
