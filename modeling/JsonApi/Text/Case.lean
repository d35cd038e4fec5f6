import JsonApi.Text
import JsonApi.Text.Case.Table
import JsonApi.Text.Case.Words

/-!
# Upper and lower case

`Text.upper` and `Text.lower` map each code point on its own, by the full mappings of Unicode, so a
text may grow.  One mapping looks around: a capital sigma becomes the final form at the end of a
word.
-/

namespace JsonApi.Text

namespace Case

/-- The code that a shift maps a code to, if it covers it. -/
def Shift.moved? (s : Shift) (n : Nat) : Option Nat :=
  if s.first ≤ n ∧ n ≤ s.last ∧ (n - s.first) % s.step = 0 then some ((n : Int) + s.amount).toNat
  else none

/-- The code points that a mapping gives for a code; those it does not name stay. -/
def mapCode (shifts : List Shift) (sequences : List (Nat × List Nat)) (n : Nat) : Text :=
  match sequences.lookup n, shifts.findSome? (·.moved? n) with
  | some codes, _ => codes.map .ofNat
  | none, some m => [.ofNat m]
  | none, none => [.ofNat n]

/-- Whether a code lies in one of the ranges. -/
def inRanges (ranges : List (Nat × Nat)) (n : Nat) : Bool :=
  ranges.any fun (first, last) => first ≤ n && n ≤ last

/-- Whether the nearest character that is not case-ignorable is cased. -/
def facesCased (t : Text) : Bool :=
  match t.dropWhile fun c => inRanges ignorable c.toNat with
  | [] => false
  | c :: _ => inRanges cased c.toNat

/-- The lower case of a code point between two texts, the one before it in reverse. -/
def lowerBetween (before : Text) (c : CodePoint) (after : Text) : Text :=
  match c with
  | .surrogate _ => [c]
  | .scalar x =>
    if c.isAscii then [.scalar x.toLower]
    else if x = 'Σ' then
      [.scalar (if facesCased before && !facesCased after then 'ς' else 'σ')]
    else mapCode lowerShifts lowerSequences x.toNat

/-- The lower case of a text behind another one, which is given in reverse. -/
def lowerFrom (before : Text) : Text → Text
  | [] => []
  | c :: after => lowerBetween before c after ++ lowerFrom (c :: before) after

end Case

/-- The lower case of a text. -/
def lower (t : Text) : Text := Case.lowerFrom [] t

/-- The upper case of a text. -/
def upper (t : Text) : Text :=
  t.flatMap fun
    | .surrogate offset => [.surrogate offset]
    | .scalar c =>
      if c.toNat < 0x80 then [.scalar c.toUpper]
      else Case.mapCode Case.upperShifts Case.upperSequences c.toNat

end JsonApi.Text
