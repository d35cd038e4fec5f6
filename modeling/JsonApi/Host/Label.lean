import JsonApi.Host.Composed
import JsonApi.Host.Punycode
import JsonApi.Host.Table.Direction
import JsonApi.Host.Table.Joining
import JsonApi.Host.Table.Mark
import JsonApi.Host.Table.Permitted
import JsonApi.Host.Table.Script
import JsonApi.Text.Case
import JsonApi.Text.Quoted

/-!
# Labels of internationalised host names

A label is checked in five ways, in this order: it is composed, its hyphens are in place, it does
not start with a mark, each of its characters may stand where it does, and characters that run from
right to left follow the rules for mixed directions.  `Label.toAscii` writes a label in ASCII with
a prefix and `Label.toUnicode` reads it back.
-/

namespace JsonApi.Host

/-- What is wrong with a host name or one of its labels. -/
inductive Error
  | emptyName
  | longName
  | emptyLabel
  | longLabel
  | notComposed
  | innerHyphens
  | outerHyphen
  | leadingMark
  /-- A joiner stands between characters that it cannot join. -/
  | joiner (code index : Nat) (label : Text)
  /-- A joiner stands behind a character that has no name. -/
  | neighbour (code index : Nat) (label : Text)
  | context (code index : Nat) (label : Text)
  | forbidden (code index : Nat) (label : Text)
  | unknownDirection (index : Nat) (label : Text)
  | firstDirection (label : Text)
  | rightward (index : Nat)
  | mixedNumbers
  | leftward (index : Nat)
  | lastDirection
  | noContent
  | trailingHyphen
  | undecodable
  deriving DecidableEq

namespace Error

/-- A code in capital hexadecimal digits. -/
def codeText (code : Nat) : Text := ("U+" : Text) ++ (Text.hex 4 code).upper

/-- The wording of an error. -/
def message : Error → Text
  | .emptyName => "Empty domain"
  | .longName => "Domain too long"
  | .emptyLabel => "Empty Label"
  | .longLabel => "Label too long"
  | .notComposed => "Label must be in Normalization Form C"
  | .innerHyphens => "Label has disallowed hyphens in 3rd and 4th position"
  | .outerHyphen => "Label must not start or end with a hyphen"
  | .leadingMark => "Label begins with an illegal combining character"
  | .joiner code index label =>
    ("Joiner " : Text) ++ codeText code ++ (" not allowed at position " : Text) ++
      Text.ofNat (index + 1) ++ (" in " : Text) ++ label.quoted
  | .neighbour code index label =>
    ("Unknown codepoint adjacent to joiner " : Text) ++ codeText code ++ (" at position " : Text) ++
      Text.ofNat (index + 1) ++ (" in " : Text) ++ label.quoted
  | .context code index label =>
    ("Codepoint " : Text) ++ codeText code ++ (" not allowed at position " : Text) ++
      Text.ofNat (index + 1) ++ (" in " : Text) ++ label.quoted
  | .forbidden code index label =>
    ("Codepoint " : Text) ++ codeText code ++ (" at position " : Text) ++
      Text.ofNat (index + 1) ++ (" of " : Text) ++ label.quoted ++ (" not allowed" : Text)
  | .unknownDirection index label =>
    ("Unknown directionality in label " : Text) ++ label.quoted ++ (" at position " : Text) ++
      Text.ofNat (index + 1)
  | .firstDirection label =>
    ("First codepoint in label " : Text) ++ label.quoted ++
      (" must be directionality L, R or AL" : Text)
  | .rightward index =>
    ("Invalid direction for codepoint at position " : Text) ++ Text.ofNat (index + 1) ++
      (" in a right-to-left label" : Text)
  | .mixedNumbers => "Can not mix numeral types in a right-to-left label"
  | .leftward index =>
    ("Invalid direction for codepoint at position " : Text) ++ Text.ofNat (index + 1) ++
      (" in a left-to-right label" : Text)
  | .lastDirection => "Label ends with illegal codepoint directionality"
  | .noContent => "Malformed A-label, no Punycode eligible content found"
  | .trailingHyphen => "A-label must not end with a hyphen"
  | .undecodable => "Invalid A-label"

end Error

namespace Label

/-- Whether a character may stand anywhere. -/
def isPermitted (n : Nat) : Bool :=
  if n < 0x80 then (97 ≤ n && n ≤ 122) || (48 ≤ n && n ≤ 57) || n == 45 else within permitted n

/-- The direction of a character that labels may hold. -/
def direction (n : Nat) : Direction :=
  if n < 0x80 then
    if n = 45 then .numberSign else if 48 ≤ n ∧ n ≤ 57 then .number else .left
  else match directions.find? fun (first, last, _) => first ≤ n && n ≤ last with
    | some (_, _, d) => d
    | none => .left

/-- Whether a character that labels may hold has no name. -/
def isNameless (n : Nat) : Bool := direction n = .unknown || within nameless n

/-- The combining class that silences a vowel. -/
def silencer : Nat := 9

/-- Whether a joiner may stand behind the characters before it, which are given in reverse, and in
front of those after it. -/
def joins (code : Nat) (before after : List Nat) : Bool :=
  match before with
  | [] => false
  | n :: _ =>
    combiningClass n == silencer ||
      (code == 0x200C &&
        ((before.dropWhile (within transparent)).head?.any (within joinsNext)) &&
        ((after.dropWhile (within transparent)).head?.any (within joinsPrevious)))

/-- Whether a character whose neighbours decide may stand where it does. -/
def fits (code : Nat) (before after label : List Nat) : Bool :=
  -- a middle dot stands between two letters l, and a Greek sign in front of a Greek letter
  if code = 0xB7 then before.head? == some 0x6C && after.head? == some 0x6C
  else if code = 0x375 then after.head?.any (within greek)
  else if code = 0x5F3 ∨ code = 0x5F4 then before.head?.any (within hebrew)
  else if code = 0x30FB then label.any (within eastAsian)
  -- the digits of the two Arabic ranges do not mix
  else if 0x660 ≤ code ∧ code ≤ 0x669 then !label.any fun n => 0x6F0 ≤ n && n ≤ 0x6F9
  else if 0x6F0 ≤ code ∧ code ≤ 0x6F9 then !label.any fun n => 0x660 ≤ n && n ≤ 0x669
  else false

/-- Checks that each character may stand where it does. -/
def checkCharacters (label : Text) (before : List Nat) : List Nat → Except Error Unit
  | [] => .ok ()
  | n :: after => do
    let index := before.length
    if isPermitted n then pure ()
    else if n = 0x200C ∨ n = 0x200D then
      if before.head?.any isNameless then throw (.neighbour n index label)
      if !joins n before after then throw (.joiner n index label)
    else if within contextual n then
      if !fits n before after (label.map CodePoint.toNat) then throw (.context n index label)
    else throw (.forbidden n index label)
    checkCharacters label (n :: before) after

/-- Whether a label may end with a character of a direction, marks apart, in a label of either
direction. -/
def mayEnd (rightToLeft : Bool) : Direction → Bool
  | .right | .arabic | .arabicNumber => rightToLeft
  | .number => true
  | .left => !rightToLeft
  | _ => false

/-- Whether a character of a direction may stand in a label of either direction. -/
def mayStand (rightToLeft : Bool) : Direction → Bool
  | .right | .arabic | .arabicNumber => rightToLeft
  | .left => !rightToLeft
  | .unknown => false
  | _ => true

/-- Checks the characters of a label that holds some that run from right to left. -/
def checkDirections (rightToLeft : Bool) (ending : Bool) (numbers : Option Direction)
    (index : Nat) : List Direction → Except Error Unit
  | [] => if ending then .ok () else .error .lastDirection
  | d :: ds =>
    if !mayStand rightToLeft d then
      .error (if rightToLeft then .rightward index else .leftward index)
    else
      let ending := if d = .mark then ending else mayEnd rightToLeft d
      if rightToLeft ∧ (d = .number ∨ d = .arabicNumber) then
        if numbers = none ∨ numbers = some d then
          checkDirections rightToLeft ending (some d) (index + 1) ds
        else .error .mixedNumbers
      else checkDirections rightToLeft ending numbers (index + 1) ds

/-- Checks the directions of a label. -/
def checkDirection (label : Text) : Except Error Unit :=
  let ds := label.map fun c => direction c.toNat
  match ds.findIdx? (· = .unknown) with
  | some index => .error (.unknownDirection index label)
  | none =>
    if ds.any fun d => d = .right || d = .arabic || d = .arabicNumber then
      match ds.head? with
      | some .right | some .arabic => checkDirections true false none 0 ds
      | some .left => checkDirections false false none 0 ds
      | _ => .error (.firstDirection label)
    else .ok ()

/-- Checks a label. -/
def check (label : Text) : Except Error Unit := do
  if label = [] then throw .emptyLabel
  if 254 < label.length then throw .longLabel
  if !isComposed label then throw .notComposed
  let hyphen : CodePoint := .scalar '-'
  if (label.drop 2).take 2 = [hyphen, hyphen] then throw .innerHyphens
  if label.head? = some hyphen ∨ label.getLast? = some hyphen then throw .outerHyphen
  if label.head?.any fun c => within marks c.toNat then throw .leadingMark
  checkCharacters label [] (label.map CodePoint.toNat)
  checkDirection label

/-- The prefix of labels that are written in ASCII. -/
def asciiPrefix : Text := "xn--"

/-- The label that a label stands for, which may have been written in ASCII. -/
def toUnicode (label : Text) : Except Error Text := do
  if !label.all CodePoint.isAscii then
    check label
    return label
  let label := Text.asciiLower label
  if asciiPrefix.isPrefixOf label then
    let shown := label.drop asciiPrefix.length
    if shown = [] then throw .noContent
    if shown.getLast? = some (.scalar '-') then throw .trailingHyphen
    match Punycode.decode shown with
    | none => throw .undecodable
    | some label =>
      check label
      return label
  else
    check label
    return label

/-- The ASCII form of a label. -/
def toAscii (label : Text) : Except Error Text := do
  let shown ← if label.all CodePoint.isAscii then do
      let _ ← toUnicode label
      pure label
    else do
      check label
      pure (asciiPrefix ++ Punycode.encode label)
  if 63 < shown.length then throw .longLabel
  return shown

end Label

/-- Whether a character separates labels. -/
def isDot (c : CodePoint) : Bool :=
  c.toNat == 0x2E || c.toNat == 0x3002 || c.toNat == 0xFF0E || c.toNat == 0xFF61

/-- The labels of a name, each converted; a name may end with a dot. -/
def convert (one : Text → Except Error Text) (name : Text) : Except Error Text := do
  if 254 < name.length then throw .longName
  let dotted : Text := name.map fun c => if isDot c then .scalar '.' else c
  let labels := Text.splitAt (.scalar '.') dotted
  if labels = [[]] then throw .emptyName
  let trailing := labels.getLast? = some []
  let converted ← (if trailing then labels.dropLast else labels).mapM one
  return Text.join "." (if trailing then converted ++ [[]] else converted)

/-- The ASCII form of a host name. -/
def toAscii (name : Text) : Except Error Text := do
  let shown ← convert Label.toAscii name
  if (if shown.getLast? = some (.scalar '.') then 254 else 253) < shown.length then throw .longName
  return shown

/-- The Unicode form of a host name. -/
def toUnicode (name : Text) : Except Error Text := convert Label.toUnicode name

end JsonApi.Host
