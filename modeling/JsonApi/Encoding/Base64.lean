import JsonApi.Encoding

/-!
# Base 64

Three bytes are written as four characters of six bits each; equals signs fill up the last group.
-/

namespace JsonApi.Base64

/-- The characters for the numbers below 64, in order. -/
def alphabet : List Char :=
  "ABCDEFGHIJKLMNOPQRSTUVWXYZabcdefghijklmnopqrstuvwxyz0123456789+/".toList

/-- The character for a number below 64. -/
def digit (n : Nat) : CodePoint := .scalar (alphabet.getD n 'A')

/-- The sign that fills up the last group. -/
def filler : CodePoint := .scalar '='

/-- The text of bytes. -/
def encode : Bytes → Text
  | [] => []
  | [a] =>
    let n := a.toNat * 16
    [digit (n / 64), digit (n % 64), filler, filler]
  | [a, b] =>
    let n := (a.toNat * 256 + b.toNat) * 4
    [digit (n / 4096), digit (n / 64 % 64), digit (n % 64), filler]
  | a :: b :: c :: rest =>
    let n := (a.toNat * 256 + b.toNat) * 256 + c.toNat
    digit (n / 262144) :: digit (n / 4096 % 64) :: digit (n / 64 % 64) :: digit (n % 64) ::
      encode rest

end JsonApi.Base64
