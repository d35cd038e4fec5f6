/-!
# Texts

A text is a list of code points.  Documents may spell one half of a surrogate pair on its own,
so a code point is a Unicode scalar value or such a half; only a text without halves has a UTF-8
form.  Lengths, positions and cuts count code points.
-/

namespace JsonApi

/-- A code point of a text: a Unicode scalar value, or half of a surrogate pair on its own. -/
inductive CodePoint
  | scalar (c : Char)
  /-- The half with code `0xD800 + offset`. -/
  | surrogate (offset : Fin 0x800)
  deriving DecidableEq

namespace CodePoint

instance : Inhabited CodePoint := ⟨.scalar ' '⟩

/-- The code of a code point. -/
def toNat : CodePoint → Nat
  | .scalar c => c.toNat
  | .surrogate offset => 0xD800 + offset

/-- The code point with a given code below `0x110000`. -/
def ofNat (n : Nat) : CodePoint :=
  if h : 0xD800 ≤ n ∧ n < 0xE000 then .surrogate ⟨n - 0xD800, by omega⟩ else .scalar (Char.ofNat n)

/-- Whether a code point is half of a surrogate pair. -/
def isSurrogate : CodePoint → Bool
  | .scalar _ => false
  | .surrogate _ => true

/-- The character, when the code point is a scalar value. -/
def toChar? : CodePoint → Option Char
  | .scalar c => some c
  | .surrogate _ => none

/-- Whether the code point is an ASCII digit. -/
def isDigit : CodePoint → Bool
  | .scalar c => c.isDigit
  | .surrogate _ => false

/-- The value of a hexadecimal digit. -/
def hexDigit? : CodePoint → Option Nat
  | .scalar c =>
    if '0' ≤ c ∧ c ≤ '9' then some (c.toNat - 48)
    else if 'a' ≤ c ∧ c ≤ 'f' then some (c.toNat - 87)
    else if 'A' ≤ c ∧ c ≤ 'F' then some (c.toNat - 55)
    else none
  | .surrogate _ => none

/-- Whether the code is below `0x80`. -/
def isAscii (c : CodePoint) : Bool := c.toNat < 0x80

theorem ofNat_toNat (c : CodePoint) : CodePoint.ofNat c.toNat = c := by
  match c with
  | .surrogate offset =>
    have := offset.isLt
    simp [CodePoint.toNat, CodePoint.ofNat, show 0xD800 + offset.val < 0xE000 by omega]
  | .scalar c =>
    have hc : ¬ (0xD800 ≤ c.toNat ∧ c.toNat < 0xE000) := by
      have := c.valid
      simp only [UInt32.isValidChar, Nat.isValidChar] at this
      simp only [Char.toNat]
      omega
    simp [CodePoint.toNat, CodePoint.ofNat, hc]

theorem toNat_lt (c : CodePoint) : c.toNat < 0x110000 := by
  match c with
  | .surrogate offset =>
    have := offset.isLt
    simp only [toNat]
    omega
  | .scalar c =>
    have := c.valid
    simp only [UInt32.isValidChar, Nat.isValidChar] at this
    simp only [toNat, Char.toNat]
    omega

end CodePoint

/-- A text: a list of code points. -/
abbrev Text := List CodePoint

namespace Text

/-- The text that holds the given characters. -/
def ofChars (cs : List Char) : Text := cs.map .scalar

/-- The text of a string. -/
def ofString (s : String) : Text := ofChars s.toList

instance : Coe String Text := ⟨ofString⟩

/-- Whether every code point is a scalar value, which is when the text has a UTF-8 form. -/
def isScalar (t : Text) : Bool := t.all (! ·.isSurrogate)

/-- The decimal digits of a natural number. -/
def ofNat (n : Nat) : Text := ofChars (Nat.toDigits 10 n)

/-- The decimal form of an integer, with a minus sign in front of a negative one. -/
def ofInt : Int → Text
  | .ofNat n => ofNat n
  | .negSucc n => .scalar '-' :: ofNat (n + 1)

/-- The lower-case hexadecimal digits of a number, with zeros in front up to a width. -/
def hex (width n : Nat) : Text :=
  let digits := Nat.toDigits 16 n
  ofChars (List.replicate (width - digits.length) '0' ++ digits)

/-- The texts of a list with a separator between neighbours. -/
def join (separator : Text) (parts : List Text) : Text := separator.intercalate parts

/-- The pieces of a text between the places where a code point stands; a text without it is its
own single piece. -/
def splitAt (c : CodePoint) : Text → List Text
  | [] => [[]]
  | x :: xs =>
    if x = c then [] :: splitAt c xs
    else match splitAt c xs with
      | [] => [[x]]
      | piece :: pieces => (x :: piece) :: pieces

/-- The text before the first place where a code point stands, and the text after it. -/
def cut? (c : CodePoint) : Text → Option (Text × Text)
  | [] => none
  | x :: xs =>
    if x = c then some ([], xs)
    else (cut? c xs).map fun (before, after) => (x :: before, after)

/-- A text with the single code point `old` replaced by a text throughout. -/
def replace (t : Text) (old : CodePoint) (new : Text) : Text :=
  t.flatMap fun c => if c = old then new else [c]

/-- A text with its ASCII letters in lower case. -/
def asciiLower (t : Text) : Text :=
  t.map fun
    | .scalar c => .scalar c.toLower
    | .surrogate offset => .surrogate offset

@[simp] theorem ofChars_append (a b : List Char) : ofChars (a ++ b) = ofChars a ++ ofChars b := by
  simp [ofChars]

@[simp] theorem length_ofChars (cs : List Char) : (ofChars cs).length = cs.length := by
  simp [ofChars]

@[simp] theorem isScalar_append (a b : Text) : isScalar (a ++ b) = (isScalar a && isScalar b) := by
  simp [isScalar]

@[simp] theorem isScalar_ofChars (cs : List Char) : isScalar (ofChars cs) = true := by
  simp [isScalar, ofChars, CodePoint.isSurrogate]

end Text

end JsonApi
