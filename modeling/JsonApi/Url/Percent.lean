import JsonApi.Encoding.Utf8

/-!
# Percent coding

A character that may not stand in a part of a URL is written as its bytes in UTF-8, each as a
percent sign with two hexadecimal digits.  `Percent.encode` leaves such escapes as they are where
it finds them; `Percent.decode` reads them, and puts the replacement character for bytes that are
no UTF-8.
-/

namespace JsonApi.Percent

/-- Whether a character stands for itself in every part of a URL. -/
def isUnreserved (c : CodePoint) : Bool :=
  match c with
  | .scalar c => (c.isAlphanum && c.toNat < 0x80) || c = '-' || c = '.' || c = '_' || c = '~'
  | .surrogate _ => false

/-- A hexadecimal digit in capitals. -/
def hexDigit (n : Nat) : CodePoint := .scalar (Char.ofNat (if n < 10 then 48 + n else 55 + n))

/-- The escape of a byte. -/
def escape (b : UInt8) : Text :=
  [.scalar '%', hexDigit (b.toNat / 16), hexDigit (b.toNat % 16)]

/-- A character as it is written where the characters of a class stand for themselves. -/
def encodeOne (isSafe : CodePoint → Bool) (c : CodePoint) : Except EncodingError Text :=
  if isUnreserved c || isSafe c then .ok [c]
  else (Utf8.encode [c]).map fun bs => bs.flatMap escape

/-- A text as it is written where the characters of a class stand for themselves; escapes in it
stay. -/
def encode (isSafe : CodePoint → Bool) : Text → Except EncodingError Text
  | [] => .ok []
  | .scalar '%' :: a :: b :: rest =>
    if a.hexDigit?.isSome ∧ b.hexDigit?.isSome then
      (encode isSafe rest).map fun t => .scalar '%' :: a :: b :: t
    else do
      let shown ← encodeOne isSafe (.scalar '%')
      return shown ++ (← encode isSafe (a :: b :: rest))
  | c :: rest => do
    let shown ← encodeOne isSafe c
    return shown ++ (← encode isSafe rest)

/-- The bytes of an ASCII text with its escapes read. -/
def bytes : Text → Bytes
  | [] => []
  | .scalar '%' :: a :: b :: rest =>
    match a.hexDigit?, b.hexDigit? with
    | some m, some n => .ofNat (m * 16 + n) :: bytes rest
    | _, _ => .ofNat '%'.toNat :: bytes (a :: b :: rest)
  | c :: rest => .ofNat c.toNat :: bytes rest

/-- An ASCII text with its escapes read as UTF-8. -/
def decode (t : Text) : Text := Utf8.decodeLenient (bytes t)

end JsonApi.Percent
