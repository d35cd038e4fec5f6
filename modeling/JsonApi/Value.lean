import JsonApi.Address
import JsonApi.Double
import JsonApi.Encoding
import JsonApi.Entries
import JsonApi.Value.Amount
import JsonApi.Value.Moment

/-!
# Values

The values that attributes can be given as: JSON values, other collections, numbers, dates and
records.  Keys of a mapping and members of a set are told apart by `Value.same`: numbers by
their value whatever their kind, times with an offset by the universal time, everything else by
kind and contents.  A value that can change is no key.
-/

namespace JsonApi

/-- The kinds of collections. -/
inductive Collection
  | list
  | tuple
  | set
  | frozenSet
  | queue
  deriving DecidableEq

/-- A value that attributes can be given as. -/
inductive Value
  | null
  | bool (b : Bool)
  | int (n : Int)
  | float (x : Double)
  | text (t : Text)
  | bytes (bs : Bytes)
  | collection (kind : Collection) (items : List Value)
  | mapping (entries : List (Value × Value))
  | amount (a : Amount)
  | moment (m : Moment)
  | date (d : Date)
  | clock (c : Clock)
  /-- A duration in microseconds. -/
  | duration (microseconds : Int)
  /-- An identifier of 128 bits. -/
  | uuid (number : Nat)
  /-- A file path, normalised. -/
  | path (t : Text)
  | address (a : Address)
  | pattern (source : Text)
  /-- A text that is not to be shown. -/
  | secret (t : Text)
  /-- A member of an enumeration with its value. -/
  | choice (v : Value)
  /-- A record of a named form. -/
  | record (form : Text) (fields : List (Text × Value))
  /-- An object with attributes of its own. -/
  | plain (fields : List (Text × Value))
  /-- An object without any attributes. -/
  | formless
  deriving Inhabited

namespace Value

/-- The word of messages for the kind of a value. -/
def kindWord : Value → Text
  | .null => "NoneType"
  | .bool _ => "bool"
  | .int _ => "int"
  | .float _ => "float"
  | .text _ => "str"
  | .bytes _ => "bytes"
  | .collection .list _ => "list"
  | .collection .tuple _ => "tuple"
  | .collection .set _ => "set"
  | .collection .frozenSet _ => "frozenset"
  | .collection .queue _ => "deque"
  | .mapping _ => "dict"
  | .amount _ => "Decimal"
  | .moment _ => "datetime"
  | .date _ => "date"
  | .clock _ => "time"
  | .duration _ => "timedelta"
  | .uuid _ => "UUID"
  | .path _ => "PurePosixPath"
  | .address (.v4 _) => "IPv4Address"
  | .address (.v6 ..) => "IPv6Address"
  | .pattern _ => "Pattern"
  | .secret _ => "SecretStr"
  | .choice _ => "Choice"
  | .record form _ => form
  | .plain _ => "Plain"
  | .formless => "object"

/-- The word for the kind of a value with the module that it is from, where messages tell that. -/
def fullKindWord : Value → Text
  | .collection .queue _ => "collections.deque"
  | .amount _ => "decimal.Decimal"
  | .moment _ => "datetime.datetime"
  | .date _ => "datetime.date"
  | .clock _ => "datetime.time"
  | .duration _ => "datetime.timedelta"
  | .pattern _ => "re.Pattern"
  | v => v.kindWord

/-- The greatest exponent, on either side, of an amount that may equal a number of another kind. -/
def widestExponent : Nat := 5000

/-- The exact value of a number as a quotient with a positive divisor.  Amounts that are too large
or too small to equal a number of another kind have none. -/
def ratio? : Value → Option (Int × Nat)
  | .bool b => some (if b then 1 else 0, 1)
  | .int n => some (n, 1)
  | .float (.finite negative units _) => some (if negative then -(units : Int) else units, 2 ^ 1074)
  | .amount (.finite negative coefficient exponent) =>
    let (c, e) := Amount.normal coefficient exponent
    let signed : Int := if negative then -(c : Int) else c
    if widestExponent < e.natAbs then none
    else match e with
      | .ofNat k => some (signed * 10 ^ k, 1)
      | .negSucc k => some (signed, 10 ^ (k + 1))
  | _ => none

/-- Whether two numbers are equal. -/
def sameNumber (a b : Int × Nat) : Bool := a.1 * b.2 == b.1 * a.2

mutual

/-- Whether two values are the same key. -/
def same : Value → Value → Bool
  | .null, .null => true
  | .text a, .text b => a == b
  | .bytes a, .bytes b => a == b
  | .collection .tuple as, .collection .tuple bs => sameItems as bs
  | .collection .frozenSet as, .collection .frozenSet bs =>
    as.length == bs.length && sameMembers as bs
  | .moment a, .moment b => a.same b
  | .date a, .date b => a == b
  | .clock a, .clock b => a.same b
  | .duration a, .duration b => a == b
  | .uuid a, .uuid b => a == b
  | .path a, .path b => a == b
  | .address a, .address b => a == b
  | .pattern a, .pattern b => a == b
  | .secret a, .secret b => a == b
  | .amount a, .amount b => a.same b
  | .float (.infinite a), .amount (.infinite b) => a == b
  | .amount (.infinite a), .float (.infinite b) => a == b
  | .float (.infinite a), .float (.infinite b) => a == b
  | a, b =>
    match a.ratio?, b.ratio? with
    | some a, some b => sameNumber a b
    | _, _ => false

/-- Whether two sequences hold the same keys. -/
def sameItems : List Value → List Value → Bool
  | [], [] => true
  | a :: as, b :: bs => same a b && sameItems as bs
  | _, _ => false

/-- Whether each of some members is among others. -/
def sameMembers : List Value → List Value → Bool
  | [], _ => true
  | a :: as, bs => bs.any (fun b => same a b) && sameMembers as bs

end

/-- What keeps a value from being a key. -/
inductive KeyError
  /-- A value that can change. -/
  | changeable (kind : Text)
  /-- A value that is no number and must not be used as one. -/
  | signaling
  deriving DecidableEq

/-- The wording of an error. -/
def KeyError.message : KeyError → Text
  | .changeable kind => ("unhashable type: '" : Text) ++ kind ++ ("'" : Text)
  | .signaling => "Cannot hash a signaling NaN value."

mutual

/-- What keeps a value from being a key, if anything does. -/
def keyError? : Value → Option KeyError
  | .collection .tuple items => firstKeyError? items
  | .collection .frozenSet _ => none
  | .collection kind items => some (.changeable (fullKindWord (.collection kind items)))
  | .mapping entries => some (.changeable (fullKindWord (.mapping entries)))
  | .record form fields => some (.changeable (fullKindWord (.record form fields)))
  | .amount .signaling => some .signaling
  | _ => none

/-- What keeps the first one of some items from being a key that is none. -/
def firstKeyError? : List Value → Option KeyError
  | [] => none
  | v :: vs => (keyError? v).or (firstKeyError? vs)

end

/-- The mapping with the given entries, of which a later one wins; all keys have to be fit. -/
def ofEntries (entries : List (Value × Value)) : Except KeyError Value :=
  match firstKeyError? (entries.map (·.1)) with
  | some e => .error e
  | none => .ok (.mapping (Entries.ofPairs same entries))

/-- The natural number that a value is. -/
def natural? : Value → Option Nat
  | .int (.ofNat n) => some n
  | _ => none

/-- The number of places that a set keeps for so many members.  At least two fifths of them stay
free; a set that has no more room gets four times as many. -/
def places (count : Nat) : (fuel : Nat) → Nat
  | 0 => 8
  | fuel + 1 =>
    let n := places count fuel
    if 5 * count < 3 * (n - 1) then n else 4 * n

/-- The members of a set in the order in which it lists them: natural numbers by the places that
their remainders name, and others as they are given. -/
def arranged (members : List Value) : List Value :=
  match members.mapM natural? with
  | some ns =>
    let size := places ns.length ns.length
    (ns.mergeSort (· % size ≤ · % size)).map fun n : Nat => .int n
  | none => members

/-- The set with the given members, which have to be fit as keys. -/
def ofMembers (kind : Collection) (members : List Value) : Except KeyError Value :=
  match firstKeyError? members with
  | some e => .error e
  | none =>
    .ok (.collection kind
      (arranged (members.foldl (fun vs v => if vs.any (same · v) then vs else vs ++ [v]) [])))

/-- The path without repeated slashes and without components that are a single dot; two slashes in
front stay. -/
def normalPath (t : Text) : Text :=
  let slashes := (t.takeWhile (· = .scalar '/')).length
  let root : Text := if slashes = 0 then [] else if slashes = 2 then "//" else "/"
  let components := (t.splitAt (.scalar '/')).filter fun c => c ≠ [] && c ≠ ("." : Text)
  let normal := root ++ Text.join "/" components
  if normal = [] then "." else normal

/-- The text of an identifier of 128 bits: five groups of hexadecimal digits. -/
def uuidText (number : Nat) : Text :=
  let digits := Text.hex 32 number
  Text.join "-" [digits.take 8, (digits.drop 8).take 4, (digits.drop 12).take 4,
    (digits.drop 16).take 4, digits.drop 20]

end Value

end JsonApi
