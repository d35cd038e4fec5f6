import JsonApi.Double.Shortest
import JsonApi.Json.Reader

/-!
# Writing JSON text

A `Layout` fixes what stands between items, between a name and its value, and how deep lines are
indented.  `Json.write` writes any value, and `Json.writeAscii` writes it in ASCII.
`Json.unwritable?` finds the first number, in the order of writing, that has no JSON form, and
`Json.render` writes only values without one.
-/

namespace JsonApi.Json

/-- The blanks of a JSON text: the separators, and the spaces by which each level of nesting is
indented, when every item has a line of its own. -/
structure Layout where
  itemSeparator : Text
  nameSeparator : Text
  indent : Option Nat

namespace Layout

/-- No blanks at all. -/
def compact : Layout := ⟨",", ":", none⟩

/-- One line, with a blank behind each separator. -/
def oneLine : Layout := ⟨", ", ": ", none⟩

/-- A line for each item, indented by a number of spaces; a negative number counts as none.  Any
number will do, at any depth of nesting: that spaces and levels run out somewhere is left aside. -/
def lines (indent : Int) : Layout := ⟨",", ": ", some indent.toNat⟩

/-- The layout for an indent that may be missing. -/
def ofIndent : Option Int → Layout
  | none => oneLine
  | some n => lines n

/-- The line break before an item at a level of nesting. -/
def lineBreak (l : Layout) (level : Nat) : Text :=
  match l.indent with
  | none => []
  | some n => .scalar '\n' :: List.replicate (n * level) (.scalar ' ')

end Layout

/-- A code point of a string as it is written between quotes: quotes, backslashes and control
characters are escaped. -/
def writeCodePoint : CodePoint → Text
  | .scalar '"' => Text.ofChars ['\\', '"']
  | .scalar '\\' => Text.ofChars ['\\', '\\']
  | .scalar '\n' => Text.ofChars ['\\', 'n']
  | .scalar '\r' => Text.ofChars ['\\', 'r']
  | .scalar '\t' => Text.ofChars ['\\', 't']
  | .scalar '\x08' => Text.ofChars ['\\', 'b']
  | .scalar '\x0c' => Text.ofChars ['\\', 'f']
  | c => if c.toNat < 0x20 then Text.ofChars ['\\', 'u'] ++ Text.hex 4 c.toNat else [c]

/-- A string with its quotes. -/
def writeString (t : Text) : Text := .scalar '"' :: t.flatMap writeCodePoint ++ [.scalar '"']

/-- A double. -/
def writeDouble (x : Double) : Text := x.text "NaN" "Infinity"

mutual

/-- A value at a level of nesting. -/
def writeAt (l : Layout) (level : Nat) : Json → Text
  | .null => "null"
  | .bool true => "true"
  | .bool false => "false"
  | .int n => Text.ofInt n
  | .float x => writeDouble x
  | .string t => writeString t
  | .array [] => "[]"
  | .array (v :: vs) =>
    .scalar '[' :: l.lineBreak (level + 1) ++ writeAt l (level + 1) v ++
      writeItems l (level + 1) vs ++ l.lineBreak level ++ [.scalar ']']
  | .object [] => "{}"
  | .object ((name, v) :: ms) =>
    .scalar '{' :: l.lineBreak (level + 1) ++ writeString name ++ l.nameSeparator ++
      writeAt l (level + 1) v ++ writeMembers l (level + 1) ms ++ l.lineBreak level ++ [.scalar '}']

/-- The items behind the first one, each with the separator before it. -/
def writeItems (l : Layout) (level : Nat) : List Json → Text
  | [] => []
  | v :: vs => l.itemSeparator ++ l.lineBreak level ++ writeAt l level v ++ writeItems l level vs

/-- The members behind the first one, each with the separator before it. -/
def writeMembers (l : Layout) (level : Nat) : List (Text × Json) → Text
  | [] => []
  | (name, v) :: ms =>
    l.itemSeparator ++ l.lineBreak level ++ writeString name ++ l.nameSeparator ++
      writeAt l level v ++ writeMembers l level ms

end

/-- The text of a value. -/
def write (l : Layout) (v : Json) : Text := writeAt l 0 v

/-- A code unit as an escape. -/
def unitEscape (n : Nat) : Text := Text.ofChars ['\\', 'u'] ++ Text.hex 4 n

/-- A code point in ASCII: as itself, or as one escape or two. -/
def asciiCodePoint (c : CodePoint) : Text :=
  let n := c.toNat
  if n < 0x7F then [c]
  else if n < 0x10000 then unitEscape n
  else unitEscape (0xD800 + (n - 0x10000) / 0x400) ++ unitEscape (0xDC00 + (n - 0x10000) % 0x400)

/-- The text of a value in ASCII.  What is not ASCII stands inside strings, where escapes are
understood. -/
def writeAscii (l : Layout) (v : Json) : Text := (write l v).flatMap asciiCodePoint

/-- A number without a JSON form. -/
inductive Unwritable
  | notFinite (x : Double)
  | tooManyDigits
  deriving DecidableEq

mutual

/-- The first number of a value that has no JSON form. -/
def unwritable? : Json → Option Unwritable
  | .int n => if 10 ^ digitLimit ≤ n.natAbs then some .tooManyDigits else none
  | .float x => if x.isFinite then none else some (.notFinite x)
  | .array vs => unwritableItem? vs
  | .object ms => unwritableMember? ms
  | _ => none

/-- The first number of items that has no JSON form. -/
def unwritableItem? : List Json → Option Unwritable
  | [] => none
  | v :: vs => (unwritable? v).or (unwritableItem? vs)

/-- The first number of members that has no JSON form. -/
def unwritableMember? : List (Text × Json) → Option Unwritable
  | [] => none
  | (_, v) :: ms => (unwritable? v).or (unwritableMember? ms)

end

/-- Why a value was not written; the text of a number is named when lines are indented. -/
inductive WriteError
  | notFinite (shown : Option Double)
  | tooManyDigits
  deriving DecidableEq

/-- The wording of a writing error. -/
def WriteError.message : WriteError → Text
  | .notFinite none => "Out of range float values are not JSON compliant"
  | .notFinite (some x) =>
    ("Out of range float values are not JSON compliant: " : Text) ++ x.text "nan" "inf"
  | .tooManyDigits =>
    ("Exceeds the limit (" : Text) ++ Text.ofNat digitLimit ++
      (" digits) for integer string conversion; " : Text) ++
      ("use sys.set_int_max_str_digits() to increase the limit" : Text)

/-- The text of a value whose numbers all have a JSON form. -/
def render (l : Layout) (v : Json) : Except WriteError Text :=
  match v.unwritable? with
  | none => .ok (v.write l)
  | some .tooManyDigits => .error .tooManyDigits
  | some (.notFinite x) => .error (.notFinite (l.indent.map fun _ => x))

end JsonApi.Json
