import JsonApi.Json.Token

/-!
# Reading JSON text

The reader is a machine that takes one token at a time.  Its `State` tells what must come next and
holds the containers that are open, innermost first.  A finished value is delivered to the
innermost open container (`State.deliver`), so reading the tokens of a value from a state that
awaits one leads to the state after its delivery.

The first thing that goes wrong ends the reading: a misplaced token or the end of the text gives
the flaw that the state names, a flawed string the flaw inside it, and a number with too many
digits or a constant gives an error of its own as soon as it is met as a value.
-/

namespace JsonApi.Json

/-- Why a text was not read as JSON. -/
inductive ReadError
  /-- The document is flawed at an offset. -/
  | malformed (flaw : Flaw) (document : Text) (offset : Nat)
  | constant (c : Constant)
  | tooManyDigits (count : Nat)
  deriving DecidableEq

/-- The most digits an integer may have, in reading and in writing. -/
def digitLimit : Nat := 4300

/-- A container that is open, with what it holds so far, last first. -/
inductive Frame
  | array (items : List Json)
  /-- An object that awaits the value of its member `name`. -/
  | object (members : List (Text × Json)) (name : Text)

/-- What must come next, and the containers that are open, innermost first. -/
inductive State
  | value (outer : List Frame)
  /-- Behind an opening bracket. -/
  | firstItem (outer : List Frame)
  /-- Behind an opening brace. -/
  | firstName (outer : List Frame)
  /-- Behind the comma of an object. -/
  | nextName (members : List (Text × Json)) (outer : List Frame)
  /-- Behind a member name. -/
  | colon (members : List (Text × Json)) (name : Text) (outer : List Frame)
  /-- Behind an item. -/
  | afterItem (items : List Json) (outer : List Frame)
  /-- Behind the value of a member. -/
  | afterMember (members : List (Text × Json)) (outer : List Frame)
  | complete (v : Json)

/-- Why a token could not be taken: it is misplaced, or its value is refused. -/
inductive Refusal
  | misplaced
  | constant (c : Constant)
  | tooManyDigits (count : Nat)

/-- The doubles that constants name. -/
def Constant.toDouble : Constant → Double
  | .nan => .nan
  | .infinity => .infinite false
  | .negativeInfinity => .infinite true

/-- The value of a numeral: an integer when it has neither fraction nor exponent. -/
def Numeral.value (n : Numeral) : Except Refusal Json :=
  match n.fraction, n.exponent with
  | none, none =>
    if digitLimit < n.whole.length then .error (.tooManyDigits n.whole.length)
    else
      let magnitude := Nat.ofDigitChars 10 n.whole 0
      .ok (.int (if n.negative then -(magnitude : Int) else magnitude))
  | fraction, exponent =>
    let behind := fraction.getD []
    let power : Int := match exponent with
      | none => 0
      | some (true, ds) => -(Nat.ofDigitChars 10 ds 0 : Int)
      | some (false, ds) => Nat.ofDigitChars 10 ds 0
    .ok (.float (.ofDecimal n.negative (Nat.ofDigitChars 10 (n.whole ++ behind) 0)
      (power - behind.length)))

namespace State

/-- The state after a finished value. -/
def deliver (v : Json) : List Frame → State
  | [] => .complete v
  | .array items :: outer => .afterItem (v :: items) outer
  | .object members name :: outer => .afterMember ((name, v) :: members) outer

/-- The flaw of whatever does not fit a state. -/
def flaw : State → Flaw
  | .value _ | .firstItem _ => .value
  | .firstName _ | .nextName _ _ => .name
  | .colon _ _ _ => .colon
  | .afterItem _ _ | .afterMember _ _ => .comma
  | .complete _ => .extra

/-- Whether a string may come next. -/
def takesString : State → Bool
  | .value _ | .firstItem _ | .firstName _ | .nextName _ _ => true
  | _ => false

/-- The state after the first token of a value.  Constants are admitted or not. -/
def start (constants : Bool) (outer : List Frame) : Token → Except Refusal State
  | .openBrace => .ok (.firstName outer)
  | .openBracket => .ok (.firstItem outer)
  | .null => .ok (deliver .null outer)
  | .bool b => .ok (deliver (.bool b) outer)
  | .string t => .ok (deliver (.string t) outer)
  | .number n => n.value.map (deliver · outer)
  | .constant c =>
    if constants then .ok (deliver (.float c.toDouble) outer) else .error (.constant c)
  | _ => .error .misplaced

/-- The state after a token. -/
def step (constants : Bool) : State → Token → Except Refusal State
  | .value outer, token => start constants outer token
  | .firstItem outer, .closeBracket => .ok (deliver (.array []) outer)
  | .firstItem outer, token => start constants (.array [] :: outer) token
  | .firstName outer, .closeBrace => .ok (deliver (.object []) outer)
  | .firstName outer, .string name => .ok (.colon [] name outer)
  | .nextName members outer, .string name => .ok (.colon members name outer)
  | .colon members name outer, .colon => .ok (.value (.object members name :: outer))
  | .afterItem items outer, .comma => .ok (.value (.array items :: outer))
  | .afterItem items outer, .closeBracket => .ok (deliver (.array items.reverse) outer)
  | .afterMember members outer, .comma => .ok (.nextName members outer)
  | .afterMember members outer, .closeBrace =>
    .ok (deliver (.object (Members.ofPairs members.reverse)) outer)
  | _, _ => .error .misplaced

/-- The value that tokens complete, read from a state on.  The document gives errors their
place. -/
def run (constants : Bool) (document : Text) : State → List Lexeme → Except ReadError Json
  | .complete v, [] => .ok v
  | s, [] => .error (.malformed s.flaw document document.length)
  | s, ⟨front, .ok token⟩ :: rest =>
    match step constants s token with
    | .ok s' => run constants document s' rest
    | .error .misplaced => .error (.malformed s.flaw document (document.length - front.length))
    | .error (.constant c) => .error (.constant c)
    | .error (.tooManyDigits count) => .error (.tooManyDigits count)
  | s, ⟨front, .error unread⟩ :: _ =>
    match unread, s.takesString with
    | .flawed f place, true => .error (.malformed f document (document.length - place.length))
    | _, _ => .error (.malformed s.flaw document (document.length - front.length))

end State

/-- The value that a text holds. -/
def ofText (constants : Bool) (t : Text) : Except ReadError Json :=
  State.run constants t (.value []) (lexemes t)

/-- The wording of a flaw. -/
def Flaw.reason : Flaw → Text
  | .value => "Expecting value"
  | .name => "Expecting property name enclosed in double quotes"
  | .colon => "Expecting ':' delimiter"
  | .comma => "Expecting ',' delimiter"
  | .extra => "Extra data"
  | .unterminated => "Unterminated string starting at"
  | .controlCharacter => "Invalid control character at"
  | .escape => "Invalid \\escape"
  | .unicodeEscape => "Invalid \\uXXXX escape"
  | .byteOrderMark => "Unexpected UTF-8 BOM (decode using utf-8-sig)"

/-- The name of a constant. -/
def Constant.text : Constant → Text
  | .nan => "NaN"
  | .infinity => "Infinity"
  | .negativeInfinity => "-Infinity"

/-- Where an offset stands in a text: its line, and its column counted from one. -/
def lineAndColumn (document : Text) (offset : Nat) : Nat × Nat :=
  let before := document.take offset
  let inLine := before.reverse.takeWhile (· ≠ .scalar '\n')
  (before.count (.scalar '\n') + 1, inLine.length + 1)

/-- The wording of a reading error. -/
def ReadError.message : ReadError → Text
  | .malformed flaw document offset =>
    let (line, column) := lineAndColumn document offset
    flaw.reason ++ (": line " : Text) ++ Text.ofNat line ++ (" column " : Text) ++
      Text.ofNat column ++ (" (char " : Text) ++ Text.ofNat offset ++ (")" : Text)
  | .constant c => ("Non-standard JSON constant '" : Text) ++ c.text ++ ("' is not allowed." : Text)
  | .tooManyDigits count =>
    ("Exceeds the limit (" : Text) ++ Text.ofNat digitLimit ++
      (" digits) for integer string conversion: value has " : Text) ++ Text.ofNat count ++
      (" digits; use sys.set_int_max_str_digits() to increase the limit" : Text)

end JsonApi.Json
