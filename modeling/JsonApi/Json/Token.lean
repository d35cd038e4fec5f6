import JsonApi.Json

/-!
# The tokens of JSON text

`lexemes` cuts a text into tokens and drops the blanks between them.  Each `Lexeme` keeps the text
from its token on, so that an error can tell its place.  The last lexeme may be one that could not
be read; what is wrong with it is for the reader to say, which knows what was expected there.
-/

namespace JsonApi.Json

/-- A number as it is written: the sign, the digits before the point, those behind it and the
exponent. -/
structure Numeral where
  negative : Bool
  whole : List Char
  fraction : Option (List Char)
  exponent : Option (Bool × List Char)
  deriving DecidableEq

/-- A name for a value that is no finite number. -/
inductive Constant
  | nan
  | infinity
  | negativeInfinity
  deriving DecidableEq

/-- A token of JSON text. -/
inductive Token
  | openBrace
  | closeBrace
  | openBracket
  | closeBracket
  | colon
  | comma
  | null
  | bool (b : Bool)
  | number (n : Numeral)
  | constant (c : Constant)
  | string (t : Text)
  deriving DecidableEq

/-- What is wrong with a text at a place. -/
inductive Flaw
  /-- A value should start here. -/
  | value
  /-- A member name should start here. -/
  | name
  /-- The colon behind a member name is missing. -/
  | colon
  /-- The comma between items or members is missing. -/
  | comma
  /-- The value has ended and more follows. -/
  | extra
  | unterminated
  | controlCharacter
  | escape
  | unicodeEscape
  | byteOrderMark
  deriving DecidableEq

/-- Why no token could be read: none starts here, or a string is flawed at a later place, which is
given as the text from it on. -/
inductive Unread
  | unknown
  | flawed (flaw : Flaw) (place : Text)
  deriving DecidableEq

/-- Whether a code point may stand between tokens. -/
def isBlank (c : CodePoint) : Bool :=
  c = .scalar ' ' || c = .scalar '\t' || c = .scalar '\n' || c = .scalar '\r'

/-- The value of four hexadecimal digits. -/
def hexUnit? (a b c d : CodePoint) : Option Nat := do
  let a ← a.hexDigit?
  let b ← b.hexDigit?
  let c ← c.hexDigit?
  let d ← d.hexDigit?
  return a * 0x1000 + b * 0x100 + c * 0x10 + d

/-- The character that a one-letter escape stands for. -/
def escaped? : CodePoint → Option Char
  | .scalar '"' => some '"'
  | .scalar '\\' => some '\\'
  | .scalar '/' => some '/'
  | .scalar 'b' => some '\x08'
  | .scalar 'f' => some '\x0c'
  | .scalar 'n' => some '\n'
  | .scalar 'r' => some '\r'
  | .scalar 't' => some '\t'
  | _ => none

/-- The code of a pair of escapes for the two halves of a surrogate pair. -/
def escapedPair? (high low : Nat) : Option Nat :=
  if 0xD800 ≤ high ∧ high < 0xDC00 ∧ 0xDC00 ≤ low ∧ low < 0xE000 then
    some (0x10000 + (high - 0xD800) * 0x400 + (low - 0xDC00))
  else none

/-- The code point at the front of the rest of a string, which an escape or a plain code point
spells, with the text behind it.  `none` is the closing quote.  An escape by code needs its four
digits and a code point behind them; two escapes for the halves of a surrogate pair spell one code
point. -/
def stringItem (opening : Text) : Text → Except Unread (Option CodePoint × Text)
  | [] => .error (.flawed .unterminated opening)
  | .scalar '"' :: rest => .ok (none, rest)
  | .scalar '\\' :: rest =>
    match rest with
    | [] => .error (.flawed .unterminated opening)
    | .scalar 'u' :: digits =>
      match digits with
      | a :: b :: c :: d :: e :: tail =>
        match hexUnit? a b c d with
        | none => .error (.flawed .unicodeEscape rest)
        | some n =>
          match e, tail with
          | .scalar '\\', .scalar 'u' :: a :: b :: c :: d :: f :: tail' =>
            match (hexUnit? a b c d).bind (escapedPair? n) with
            | some code => .ok (some (.ofNat code), f :: tail')
            | none => .ok (some (.ofNat n), e :: tail)
          | _, _ => .ok (some (.ofNat n), e :: tail)
      | _ => .error (.flawed .unicodeEscape rest)
    | letter :: rest' =>
      match escaped? letter with
      | some c => .ok (some (.scalar c), rest')
      | none => .error (.flawed .escape (.scalar '\\' :: rest))
  | c :: rest =>
    if c.toNat < 0x20 then .error (.flawed .controlCharacter (c :: rest)) else .ok (some c, rest)

theorem length_lt_of_stringItem {opening t rest : Text} {c : Option CodePoint}
    (h : stringItem opening t = .ok (c, rest)) : rest.length < t.length := by
  unfold stringItem at h
  repeat' split at h
  all_goals simp_all <;> omega

/-- The rest of a string from behind its opening quote: its contents and the text behind the
closing quote.  `opening` is the text from the opening quote on. -/
def stringRest (opening : Text) (t : Text) : Except Unread (Text × Text) :=
  match h : stringItem opening t with
  | .error e => .error e
  | .ok (none, rest) => .ok ([], rest)
  | .ok (some c, rest) =>
    have := length_lt_of_stringItem h
    (stringRest opening rest).map fun (cs, rest) => (c :: cs, rest)
  termination_by t.length

/-- The digits at the front of a text, and the text behind them. -/
def digits : Text → List Char × Text
  | .scalar c :: rest =>
    if c.isDigit then
      let (cs, rest') := digits rest
      (c :: cs, rest')
    else ([], .scalar c :: rest)
  | t => ([], t)

/-- The fraction at the front of a text: a point with digits behind it. -/
def fraction : Text → Option (List Char) × Text
  | .scalar '.' :: rest =>
    match digits rest with
    | ([], _) => (none, .scalar '.' :: rest)
    | (ds, rest') => (some ds, rest')
  | t => (none, t)

/-- Whether a minus sign stands at the front of a text, and the text behind its sign if any. -/
def sign : Text → Bool × Text
  | .scalar '-' :: rest => (true, rest)
  | .scalar '+' :: rest => (false, rest)
  | t => (false, t)

/-- The exponent at the front of a text: its letter, a sign perhaps, and digits. -/
def exponent : Text → Option (Bool × List Char) × Text
  | .scalar c :: rest =>
    if c = 'e' ∨ c = 'E' then
      match digits (sign rest).2 with
      | ([], _) => (none, .scalar c :: rest)
      | (ds, rest') => (some ((sign rest).1, ds), rest')
    else (none, .scalar c :: rest)
  | t => (none, t)

/-- The number whose digits start here; a zero is the only digit before the point that it
starts. -/
def numeral (negative : Bool) : Text → Except Unread (Token × Text)
  | .scalar c :: rest =>
    if c.isDigit then
      let (whole, rest) : List Char × Text :=
        if c = '0' then ([c], rest)
        else
          let (ds, rest) := digits rest
          (c :: ds, rest)
      let (fraction, rest) := fraction rest
      let (exponent, rest) := exponent rest
      .ok (.number ⟨negative, whole, fraction, exponent⟩, rest)
    else .error .unknown
  | _ => .error .unknown

/-- The text behind the characters of a word, if it starts with them. -/
def word? (w : List Char) (t : Text) : Option Text :=
  match w, t with
  | [], t => some t
  | c :: w, .scalar x :: t => if x = c then word? w t else none
  | _, _ => none

/-- A token for the word that a text should start with. -/
def wordToken (w : List Char) (token : Token) (t : Text) : Except Unread (Token × Text) :=
  match word? w t with
  | some rest => .ok (token, rest)
  | none => .error .unknown

/-- The token that starts with a code point that is no blank, and the text behind it. -/
def scan (c : CodePoint) (rest : Text) : Except Unread (Token × Text) :=
  match c with
  | .scalar '{' => .ok (.openBrace, rest)
  | .scalar '}' => .ok (.closeBrace, rest)
  | .scalar '[' => .ok (.openBracket, rest)
  | .scalar ']' => .ok (.closeBracket, rest)
  | .scalar ':' => .ok (.colon, rest)
  | .scalar ',' => .ok (.comma, rest)
  | .scalar '"' => (stringRest (c :: rest) rest).map fun (t, rest) => (.string t, rest)
  | .scalar 'n' => wordToken ['u', 'l', 'l'] .null rest
  | .scalar 't' => wordToken ['r', 'u', 'e'] (.bool true) rest
  | .scalar 'f' => wordToken ['a', 'l', 's', 'e'] (.bool false) rest
  | .scalar 'N' => wordToken ['a', 'N'] (.constant .nan) rest
  | .scalar 'I' => wordToken ['n', 'f', 'i', 'n', 'i', 't', 'y'] (.constant .infinity) rest
  | .scalar '-' =>
    match word? ['I', 'n', 'f', 'i', 'n', 'i', 't', 'y'] rest with
    | some rest => .ok (.constant .negativeInfinity, rest)
    | none => numeral true rest
  | c => numeral false (c :: rest)

theorem length_le_of_stringRest {opening t cs rest : Text}
    (h : stringRest opening t = .ok (cs, rest)) : rest.length ≤ t.length := by
  fun_induction stringRest opening t generalizing cs rest with
  | case1 t e he => simp at h
  | case2 t r hr =>
    have := length_lt_of_stringItem hr
    simp_all
    omega
  | case3 t c r hr hlt ih =>
    cases hs : stringRest opening r with
    | error e => simp [hs, Except.map] at h
    | ok p =>
      have := ih hs
      simp only [hs, Except.map, Except.ok.injEq, Prod.mk.injEq] at h
      obtain ⟨-, rfl⟩ := h
      omega

theorem length_digits_le (t : Text) : (digits t).2.length ≤ t.length := by
  fun_induction digits t with
  | case1 c rest hc cs rest' hd ih => simp_all; omega
  | case2 => simp
  | case3 => simp

theorem length_fraction_le (t : Text) : (fraction t).2.length ≤ t.length := by
  unfold fraction
  split
  · rename_i rest
    have := length_digits_le rest
    split <;> simp_all
    omega
  · simp

theorem length_sign_le (t : Text) : (sign t).2.length ≤ t.length := by
  unfold sign
  split <;> simp

theorem length_exponent_le (t : Text) : (exponent t).2.length ≤ t.length := by
  unfold exponent
  split
  · rename_i c rest
    have h₁ := length_digits_le (sign rest).2
    have h₂ := length_sign_le rest
    split
    · split <;> simp_all
      omega
    · simp
  · simp

theorem length_le_of_numeral {negative : Bool} {t rest : Text} {token : Token}
    (h : numeral negative t = .ok (token, rest)) : rest.length < t.length := by
  unfold numeral at h
  split at h
  · rename_i c r
    split at h
    · simp only [Except.ok.injEq, Prod.mk.injEq] at h
      obtain ⟨-, rfl⟩ := h
      refine Nat.lt_of_le_of_lt (length_exponent_le _) ?_
      refine Nat.lt_of_le_of_lt (length_fraction_le _) ?_
      have := length_digits_le r
      split <;> simp
      omega
    · simp at h
  · simp at h

theorem length_le_of_word {w : List Char} {t rest : Text} (h : word? w t = some rest) :
    rest.length ≤ t.length := by
  fun_induction word? w t with
  | case1 => simp_all
  | case2 _ _ _ ih =>
    have := ih h
    simp
    omega
  | case3 => simp at h
  | case4 => simp at h

theorem length_le_of_scan {c : CodePoint} {t rest : Text} {token : Token}
    (h : scan c t = .ok (token, rest)) : rest.length ≤ t.length := by
  have hw : ∀ {w : List Char} {token' : Token}, wordToken w token' t = .ok (token, rest) →
      rest.length ≤ t.length := by
    intro w token' hw
    unfold wordToken at hw
    split at hw
    · rename_i hr
      have := length_le_of_word hr
      simp_all
    · simp at hw
  unfold scan at h
  split at h
  case h_7 =>
    cases hs : stringRest (.scalar '"' :: t) t with
    | error e => simp [hs, Except.map] at h
    | ok p =>
      have := length_le_of_stringRest hs
      simp only [hs, Except.map, Except.ok.injEq, Prod.mk.injEq] at h
      obtain ⟨-, rfl⟩ := h
      omega
  case h_13 =>
    split at h
    · rename_i hr
      have := length_le_of_word hr
      simp_all
    · exact Nat.le_of_lt (length_le_of_numeral h)
  case h_14 =>
    have := length_le_of_numeral h
    simp at this
    omega
  all_goals first
    | exact hw h
    | simp_all

/-- A token of a text, or what stands there in its place, with the text from it on. -/
structure Lexeme where
  front : Text
  token : Except Unread Token

/-- The tokens of a text; the last lexeme may be one that could not be read. -/
def lexemes (t : Text) : List Lexeme :=
  match h : t.dropWhile isBlank with
  | [] => []
  | c :: rest =>
    match hs : scan c rest with
    | .error e => [⟨c :: rest, .error e⟩]
    | .ok (token, rest') =>
      have : rest'.length < t.length := by
        have h₁ := length_le_of_scan hs
        have h₂ := (List.dropWhile_suffix (l := t) isBlank).length_le
        simp [h] at h₂
        omega
      ⟨c :: rest, .ok token⟩ :: lexemes rest'
  termination_by t.length

end JsonApi.Json
