import JsonApi.Host.Table.Combining
import JsonApi.Host.Table.Composition
import JsonApi.Text

/-!
# Composed texts

A text is composed when taking its characters apart, putting the marks behind each letter into the
canonical order and composing again gives the text itself.
-/

namespace JsonApi.Host

/-- The canonical combining class of a code. -/
def combiningClass (n : Nat) : Nat :=
  match combiningClasses.find? fun (first, last, _) => first ≤ n && n ≤ last with
  | some (_, _, value) => value
  | none => 0

/-- The two codes that a syllable of Hangul is composed of: a syllable without a final and the
final, or an initial and a vowel. -/
def syllableParts? (n : Nat) : Option (Nat × Nat) :=
  if 0xAC00 ≤ n ∧ n < 0xD7A4 then
    let index := n - 0xAC00
    if index % 28 = 0 then some (0x1100 + index / 588, 0x1161 + index % 588 / 28)
    else some (n - index % 28, 0x11A7 + index % 28)
  else none

/-- The syllable of Hangul that two codes compose to. -/
def syllable? (first second : Nat) : Option Nat :=
  if 0x1100 ≤ first ∧ first < 0x1113 ∧ 0x1161 ≤ second ∧ second < 0x1176 then
    some (0xAC00 + (first - 0x1100) * 588 + (second - 0x1161) * 28)
  else if 0xAC00 ≤ first ∧ first < 0xD7A4 ∧ (first - 0xAC00) % 28 = 0 ∧ 0x11A7 < second ∧
      second < 0x11C3 then
    some (first + (second - 0x11A7))
  else none

/-- The two codes that a code is composed of. -/
def parts? (n : Nat) : Option (Nat × Nat) :=
  match composites.find? fun (_, _, whole) => whole == n with
  | some (first, second, _) => some (first, second)
  | none => syllableParts? n

/-- The code that two codes compose to. -/
def whole? (first second : Nat) : Option Nat :=
  match composites.find? fun (f, s, _) => f == first && s == second with
  | some (_, _, whole) => some whole
  | none => syllable? first second

/-- The codes that a code is composed of, as far as `fuel` allows. -/
def takeApart : Nat → Nat → List Nat
  | 0, n => [n]
  | fuel + 1, n =>
    match parts? n with
    | some (first, second) => takeApart fuel first ++ [second]
    | none => [n]

/-- A mark put in its place among those in front of it, which are given in reverse. -/
def insertMark (n : Nat) : List Nat → List Nat
  | [] => [n]
  | m :: before =>
    if combiningClass n ≠ 0 ∧ combiningClass n < combiningClass m then m :: insertMark n before
    else n :: m :: before

/-- The codes with the marks behind each letter in canonical order. -/
def order (codes : List Nat) : List Nat :=
  (codes.foldl (fun before n => insertMark n before) []).reverse

/-- The codes behind a letter composed with it.  `between` holds those that stay, in reverse; a
code composes with the letter unless one of them blocks it. -/
def composeBehind (letter : Nat) (between : List Nat) : List Nat → List Nat
  | [] => letter :: between.reverse
  | n :: rest =>
    let c := combiningClass n
    let blocked := match between with
      | [] => false
      | m :: _ => combiningClass m == 0 || decide (c ≤ combiningClass m)
    match blocked, whole? letter n with
    | false, some whole => composeBehind whole between rest
    | _, _ =>
      if c = 0 then letter :: between.reverse ++ composeBehind n [] rest
      else composeBehind letter (n :: between) rest

/-- The codes with each letter composed with the marks behind it. -/
def compose (codes : List Nat) : List Nat :=
  let front := codes.takeWhile (combiningClass · ≠ 0)
  match codes.dropWhile (combiningClass · ≠ 0) with
  | [] => front
  | letter :: rest => front ++ composeBehind letter [] rest

/-- Whether a code lies in one of the ranges. -/
def within (ranges : List (Nat × Nat)) (n : Nat) : Bool :=
  ranges.any fun (first, last) => first ≤ n && n ≤ last

/-- Whether a text is composed: it holds no character that composing replaces, and the others stay
as they are. -/
def isComposed (t : Text) : Bool :=
  let codes := t.map CodePoint.toNat
  !codes.any (within replaced) && compose (order (codes.flatMap (takeApart 8))) == codes

end JsonApi.Host
