import JsonApi.Encoding.Utf8
import JsonApi.Json.Token

/-!
# Limits of a reader

A reader may limit how deep containers are nested and how many digits an integer has.
`Json.excess?` finds the first token that goes past a limit.  Containers that hold nothing do not
count, so one that is nested too deep is found out at its first value.
-/

namespace JsonApi.Json

/-- The number of bytes of a text. -/
def width (t : Text) : Nat :=
  match Utf8.encode t with
  | .ok bs => bs.length
  | .error _ => 0

/-- A limit that a reader puts to a document. -/
inductive Limit
  | nesting
  /-- On the digits of an integer; its sign does not count. -/
  | integer
  deriving DecidableEq

/-- A limit that a document goes past, and the text from that place on. -/
structure Excess where
  limit : Limit
  place : Text
  deriving DecidableEq

/-- Whether a numeral is an integer with more digits than it may have. -/
def Numeral.isLong (digits : Nat) (n : Numeral) : Bool :=
  n.fraction.isNone && n.exponent.isNone && digits < n.whole.length

/-- The text from the first of lexemes on. -/
def placeOf : List Lexeme → Text
  | [] => []
  | x :: _ => x.front

/-- Whether a token is the first of lexemes. -/
def startsWith (token : Token) : List Lexeme → Bool
  | ⟨_, .ok first⟩ :: _ => first == token
  | _ => false

/-- The first place of a document that goes past a limit, when integers may have so many digits and
containers so many levels; the number of open containers is given.  The first value of an object
stands behind a name and a colon, the digits of an integer behind its sign. -/
def excess? (digits levels : Nat) : Nat → List Lexeme → Option Excess
  | _, [] => none
  | opened, ⟨front, .ok token⟩ :: rest =>
    match token with
    | .openBracket =>
      if levels ≤ opened ∧ !startsWith .closeBracket rest then some ⟨.nesting, placeOf rest⟩
      else excess? digits levels (opened + 1) rest
    | .openBrace =>
      if levels ≤ opened ∧ !startsWith .closeBrace rest then
        some ⟨.nesting, placeOf (rest.drop 2)⟩
      else excess? digits levels (opened + 1) rest
    | .closeBracket | .closeBrace => excess? digits levels (opened - 1) rest
    | .number n =>
      if n.isLong digits then some ⟨.integer, (sign front).2⟩
      else excess? digits levels opened rest
    | _ => excess? digits levels opened rest
  | opened, ⟨_, .error _⟩ :: rest => excess? digits levels opened rest

end JsonApi.Json
