import JsonApi.Json.Coding
import JsonApi.Value

/-!
# Attributes

The attributes of a resource are kept in wire form, as compact JSON text in UTF-8, together with
the value that this text spells.  `Attributes.ofPayload` normalises JSON text that is given;
`Attributes.ofValue` first drafts a value: collections become lists, records mappings, dates and the
like texts, and a choice the value that it stands for, whatever that is.  Only then is the draft
written as JSON.

Names of members that start with `_sa` are bookkeeping and left out of a value, but kept in JSON
text.  Keys that are no texts become names only when the text is written, so two of them may spell
the same name.
-/

namespace JsonApi

/-- Attributes in wire form, which is the compact text of some value, and the value that they
spell. -/
structure Attributes where
  bytes : Bytes
  value : Json
  written : ∃ v, Json.toBytes .compact v = .ok bytes
  spelled : Json.ofBytes bytes = .ok value

/-- The text of attributes; their bytes always have one. -/
def Attributes.text (a : Attributes) : Text :=
  match Utf8.decode a.bytes with
  | .ok t => t
  | .error _ => []

/-- Why attributes have no wire form. -/
inductive Attributes.Error
  | coding (e : CodingError)
  /-- A value that is no number and must not be used as one. -/
  | signaling
  /-- An object without any attributes. -/
  | formless
  /-- A key is, or has turned into, a value that is fit for none. -/
  | unfitKey (e : Value.KeyError)
  | foreign (kind : Text)
  | foreignKey (kind : Text)
  deriving DecidableEq

namespace Attributes.Error

/-- The wording of an error. -/
def message : Attributes.Error → Text
  | .coding e => e.message
  | .signaling => "cannot convert signaling NaN to float"
  | .formless =>
    ("[TypeError(\"'object' object is not iterable\"), " : Text) ++
      ("TypeError('vars() argument must have __dict__ attribute')]" : Text)
  | .unfitKey e => e.message
  | .foreign kind => ("Object of type " : Text) ++ kind ++ (" is not JSON serializable" : Text)
  | .foreignKey kind =>
    ("keys must be str, int, float, bool or None, not " : Text) ++ kind

/-- Whether an error is about the value given; the others are about the kinds of its parts. -/
def isRefusal : Attributes.Error → Bool
  | .coding _ | .signaling | .formless => true
  | .unfitKey _ | .foreign _ | .foreignKey _ => false

end Attributes.Error

namespace Draft

/-- The key that a draft serves as, if it is fit for one. -/
def key (v : Value) : Except Attributes.Error Value :=
  match v.keyError? with
  | some e => .error (.unfitKey e)
  | none => .ok v

/-- The number of an amount: an integer when it has no places behind the point.  Zeros past the
length that an integer may have in JSON are not written out. -/
def ofAmount : Amount → Except Attributes.Error Value
  | .finite negative coefficient (.ofNat k) =>
    let n : Nat := coefficient * 10 ^ min k (Json.digitLimit + 1)
    .ok (.int (if negative then -(n : Int) else n))
  | .finite negative coefficient exponent => .ok (.float (.ofDecimal negative coefficient exponent))
  | .infinite negative => .ok (.float (.infinite negative))
  | .nan => .ok (.float .nan)
  | .signaling => .error .signaling

/-- Whether a name is bookkeeping. -/
def isBookkeeping (name : Text) : Bool := ("_sa" : Text).isPrefixOf name

mutual

/-- The draft of a value. -/
def ofValue : Value → Except Attributes.Error Value
  | .null => .ok .null
  | .bool b => .ok (.bool b)
  | .int n => .ok (.int n)
  | .float x => .ok (.float x)
  | .text t => .ok (.text t)
  | .bytes bs =>
    match Utf8.decode bs with
    | .ok t => .ok (.text t)
    | .error e => .error (.coding (.undecodable e))
  | .collection _ items => (ofItems items).map (.collection .list)
  | .mapping entries => (ofEntries [] entries).map .mapping
  | .amount a => ofAmount a
  | .moment m => .ok (.text m.text)
  | .date d => .ok (.text d.text)
  | .clock c => .ok (.text c.text)
  | .duration n => .ok (.float (.ofRatio (decide (n < 0)) n.natAbs 1000000))
  | .uuid n => .ok (.text (Value.uuidText n))
  | .path t => .ok (.text t)
  | .address a => .ok (.text a.text)
  | .pattern source => .ok (.text source)
  | .secret t => .ok (.text (if t = [] then [] else "**********"))
  | .choice v => .ok v
  | .record _ fields => (ofFields [] fields).map .mapping
  | .plain fields => (ofFields [] fields).map .mapping
  | .formless => .error .formless

/-- The drafts of items. -/
def ofItems : List Value → Except Attributes.Error (List Value)
  | [] => .ok []
  | v :: vs => do
    let d ← ofValue v
    let ds ← ofItems vs
    return d :: ds

/-- The drafts of entries, added to those before them. -/
def ofEntries (before : List (Value × Value)) :
    List (Value × Value) → Except Attributes.Error (List (Value × Value))
  | [] => .ok before
  | (.text name, v) :: entries =>
    if isBookkeeping name then ofEntries before entries
    else do
      let d ← ofValue v
      ofEntries (Entries.put Value.same (.text name) d before) entries
  | (k, v) :: entries => do
    let k ← ofValue k
    let d ← ofValue v
    let k ← key k
    ofEntries (Entries.put Value.same k d before) entries

/-- The drafts of fields, added to those before them. -/
def ofFields (before : List (Value × Value)) :
    List (Text × Value) → Except Attributes.Error (List (Value × Value))
  | [] => .ok before
  | (name, v) :: fields =>
    if isBookkeeping name then ofFields before fields
    else do
      let d ← ofValue v
      ofFields (Entries.put Value.same (.text name) d before) fields

end

/-- A number as JSON, unless it is infinite or no number at all. -/
def settleDouble (x : Double) : Except Attributes.Error Double :=
  if x.isFinite then .ok x else .error (.coding (.unwritable (.notFinite none)))

/-- An integer as JSON, unless it has too many digits. -/
def settleInt (n : Int) : Except Attributes.Error Int :=
  if 10 ^ Json.digitLimit ≤ n.natAbs then .error (.coding (.unwritable .tooManyDigits)) else .ok n

/-- The name that a key is written as. -/
def name : Value → Except Attributes.Error Text
  | .null => .ok "null"
  | .bool b => .ok (if b then "true" else "false")
  | .int n => (settleInt n).map Text.ofInt
  | .float x => (settleDouble x).map Json.writeDouble
  | .text t => .ok t
  | v => .error (.foreignKey v.fullKindWord)

mutual

/-- The JSON value that a draft is written as, unless a part of it has none. -/
def settle : Value → Except Attributes.Error Json
  | .null => .ok .null
  | .bool b => .ok (.bool b)
  | .int n => (settleInt n).map .int
  | .float x => (settleDouble x).map .float
  | .text t => .ok (.string t)
  | .collection .list items => (settleItems items).map .array
  | .collection .tuple items => (settleItems items).map .array
  | .mapping entries => (settleEntries entries).map .object
  | v => .error (.foreign v.kindWord)

/-- The JSON values of items. -/
def settleItems : List Value → Except Attributes.Error (List Json)
  | [] => .ok []
  | d :: ds => do
    let v ← settle d
    let vs ← settleItems ds
    return v :: vs

/-- The members that entries are written as. -/
def settleEntries : List (Value × Value) → Except Attributes.Error (List (Text × Json))
  | [] => .ok []
  | (k, d) :: entries => do
    let name ← name k
    let v ← settle d
    let ms ← settleEntries entries
    return (name, v) :: ms

end

end Draft

namespace Attributes

/-- The attributes that a JSON value is. -/
def ofJson (v : Json) : Except CodingError Attributes :=
  match written : v.toBytes .compact with
  | .error e => .error e
  | .ok bs =>
    match spelled : Json.ofBytes bs with
    | .error e => .error e
    | .ok value => .ok ⟨bs, value, ⟨v, written⟩, spelled⟩

/-- JSON text that is given in place of a value. -/
inductive Payload
  | text (t : Text)
  | bytes (bs : Bytes)

/-- The value of a payload. -/
def Payload.value : Payload → Except CodingError Json
  | .text t => Json.ofDocumentText false t
  | .bytes bs => Json.ofBytes bs

/-- The attributes of a payload. -/
def ofPayload (p : Payload) : Except Error Attributes :=
  (do ofJson (← p.value)).mapError .coding

/-- The attributes of a value; no value at all is no attributes, and a text or bytes are a
payload. -/
def ofValue : Value → Except Error (Option Attributes)
  | .null => .ok none
  | .text t => (ofPayload (.text t)).map some
  | .bytes bs => (ofPayload (.bytes bs)).map some
  | v => do
    let v ← Draft.settle (← Draft.ofValue v)
    return some (← (ofJson v).mapError .coding)

end Attributes

mutual

/-- The value that a JSON value is. -/
def Json.toValue : Json → Value
  | .null => .null
  | .bool b => .bool b
  | .int n => .int n
  | .float x => .float x
  | .string t => .text t
  | .array items => .collection .list (Json.itemsToValues items)
  | .object members => .mapping (Json.membersToEntries members)

/-- The values that items are. -/
def Json.itemsToValues : List Json → List Value
  | [] => []
  | v :: vs => v.toValue :: Json.itemsToValues vs

/-- The entries that members are. -/
def Json.membersToEntries : List (Text × Json) → List (Value × Value)
  | [] => []
  | (name, v) :: ms => (.text name, v.toValue) :: Json.membersToEntries ms

end

end JsonApi
