import JsonApi.Encoding

/-!
# Hexadecimal bytes

Bytes written as two hexadecimal digits each, with white space of ASCII between them.
-/

namespace JsonApi.Hexadecimal

/-- Whether a character is white space of ASCII. -/
def isSpace (c : CodePoint) : Bool := c = .scalar ' ' || (0x09 ≤ c.toNat && c.toNat ≤ 0x0D)

/-- The bytes that a text spells which stands at a position, or the position of the first character
that is out of place. -/
def decodeFrom (position : Nat) : Text → Except Nat Bytes
  | [] => .ok []
  | [a] =>
    if isSpace a then .ok []
    else .error (if a.hexDigit?.isSome then position + 1 else position)
  | a :: b :: t =>
    if isSpace a then decodeFrom (position + 1) (b :: t)
    else match a.hexDigit?, b.hexDigit? with
      | some m, some n => (decodeFrom (position + 2) t).map (.ofNat (m * 16 + n) :: ·)
      | some _, none => .error (position + 1)
      | none, _ => .error position

/-- The bytes that a text spells, or the position of the first character that is out of place; a
character past ASCII counts before all others. -/
def decode (t : Text) : Except Nat Bytes :=
  match t.findIdx? (! ·.isAscii) with
  | some position => .error position
  | none => decodeFrom 0 t

end JsonApi.Hexadecimal
