import JsonApi.Text

/-!
# Internet addresses

Version 4 addresses are four decimal numbers without leading zeros; version 6 addresses are eight
groups of hexadecimal digits, of which one run of zeros may be left out and the last two may be
written as a version 4 address.  `Address.text` writes an address in its shortest form.
-/

namespace JsonApi

/-- An internet address. -/
inductive Address
  | v4 (number : Nat)
  /-- Eight groups, and the scope behind a percent sign. -/
  | v6 (groups : List Nat) (scope : Option Text)
  deriving DecidableEq

namespace Address

/-- The number of decimal digits. -/
def decimal? (t : Text) : Option Nat :=
  if t ≠ [] ∧ t.all CodePoint.isDigit then
    some (Nat.ofDigitChars 10 (t.filterMap CodePoint.toChar?) 0)
  else none

/-- The value of one number of a version 4 address. -/
def octet? (t : Text) : Option Nat := do
  let n ← decimal? t
  if t.length ≤ 3 ∧ (t.length = 1 ∨ t.head? ≠ some (.scalar '0')) ∧ n < 256 then some n else none

/-- The number of a version 4 address. -/
def v4? (t : Text) : Option Nat :=
  match t.splitAt (.scalar '.') with
  | [a, b, c, d] => do
    let a ← octet? a
    let b ← octet? b
    let c ← octet? c
    let d ← octet? d
    return ((a * 256 + b) * 256 + c) * 256 + d
  | _ => none

/-- The value of one to four hexadecimal digits. -/
def group? (t : Text) : Option Nat := do
  if t = [] ∨ 4 < t.length then none
  else
    let digits ← t.mapM CodePoint.hexDigit?
    return digits.foldl (fun n d => n * 16 + d) 0

/-- The groups of a version 6 address, whose pieces stand between colons.  A piece between two
colons that is empty stands for the groups that are left out. -/
def groups? (pieces : List Text) : Option (List Nat) := do
  let inner := (pieces.drop 1).dropLast
  if pieces.length < 3 ∨ 9 < pieces.length ∨ 1 < inner.count [] then none
  else
    match inner.findIdx? (· = []) with
    | none => if pieces.length = 8 then pieces.mapM group? else none
    | some i =>
      let front := pieces.take (i + 1)
      let back := pieces.drop (i + 2)
      let front := if front = [[]] then [] else front
      let back := if back = [[]] then [] else back
      if 8 ≤ front.length + back.length then none
      else
        let front ← front.mapM group?
        let back ← back.mapM group?
        return front ++ List.replicate (8 - front.length - back.length) 0 ++ back

/-- The pieces of a version 6 address between its colons; a version 4 address at the end gives
two. -/
def pieces? (t : Text) : Option (List Text) :=
  let pieces := t.splitAt (.scalar ':')
  match pieces.getLast? with
  | none => none
  | some last =>
    if pieces.length < 3 then none
    else if last.contains (.scalar '.') then do
      let n ← v4? last
      return pieces.dropLast ++ [Text.hex 1 (n / 65536), Text.hex 1 (n % 65536)]
    else some pieces

/-- The groups and the scope of a version 6 address. -/
def v6? (t : Text) : Option (List Nat × Option Text) := do
  if t.contains (.scalar '/') then none
  else match t.cut? (.scalar '%') with
    | none => return (← groups? (← pieces? t), none)
    | some (address, scope) =>
      if scope = [] ∨ scope.contains (.scalar '%') then none
      else return (← groups? (← pieces? address), some scope)

/-- The address that a text spells. -/
def ofText? (t : Text) : Option Address :=
  match v4? t with
  | some n => some (.v4 n)
  | none => (v6? t).map fun (groups, scope) => .v6 groups scope

/-- The length of the run of zeros at the front. -/
def zeros (groups : List Nat) : Nat := (groups.takeWhile (· = 0)).length

/-- The place and the length of the first one of the longest runs of zeros. -/
def longestZeros (groups : List Nat) : Nat × Nat :=
  (List.range groups.length).foldl
    (fun (place, length) i => if length < zeros (groups.drop i) then (i, zeros (groups.drop i))
      else (place, length)) (0, 0)

/-- The groups of a version 6 address, the first one of the longest runs of zeros left out if it
has two or more. -/
def groupsText (groups : List Nat) : Text :=
  let shown (gs : List Nat) : Text := Text.join ":" (gs.map (Text.hex 1))
  let (place, length) := longestZeros groups
  if 2 ≤ length then
    shown (groups.take place) ++ ("::" : Text) ++ shown (groups.drop (place + length))
  else shown groups

/-- The shortest text of an address. -/
def text : Address → Text
  | .v4 n => Text.join "." ([n / 16777216, n / 65536 % 256, n / 256 % 256, n % 256].map Text.ofNat)
  | .v6 groups none => groupsText groups
  | .v6 groups (some scope) => groupsText groups ++ .scalar '%' :: scope

end Address

end JsonApi
