import JsonApi.Text

/-!
# Blanks

The characters that header values are trimmed of: the white space of Unicode and the four
separator controls of ASCII.
-/

namespace JsonApi

/-- Whether a character is a separator control of ASCII, which Unicode does not count as white
space. -/
def CodePoint.isSeparatorControl (c : CodePoint) : Bool := 0x1C ≤ c.toNat && c.toNat ≤ 0x1F

/-- Whether a character is white space in Unicode. -/
def CodePoint.isWhiteSpace (c : CodePoint) : Bool :=
  let n := c.toNat
  (0x09 ≤ n && n ≤ 0x0D) || n == 0x20 || n == 0x85 || n == 0xA0 || n == 0x1680 ||
    (0x2000 ≤ n && n ≤ 0x200A) || n == 0x2028 || n == 0x2029 || n == 0x202F || n == 0x205F ||
    n == 0x3000

/-- Whether a character is a blank. -/
def CodePoint.isBlank (c : CodePoint) : Bool := c.isWhiteSpace || c.isSeparatorControl

namespace Text

/-- A text without the characters of a class at either end. -/
def trim (p : CodePoint → Bool) (t : Text) : Text :=
  ((t.dropWhile p).reverse.dropWhile p).reverse

/-- A text without blanks at either end. -/
def strip (t : Text) : Text := trim CodePoint.isBlank t

/-- Whether a text holds nothing but blanks. -/
def isBlank (t : Text) : Bool := t.all CodePoint.isBlank

theorem dropWhile_eq_nil_iff {p : CodePoint → Bool} {t : Text} :
    t.dropWhile p = [] ↔ t.all p = true := by
  induction t with
  | nil => simp
  | cons c t ih => by_cases h : p c <;> simp [h, ih]

theorem strip_eq_nil_iff {t : Text} : t.strip = [] ↔ t.isBlank = true := by
  constructor
  · intro h
    simp only [strip, trim, List.reverse_eq_nil_iff, dropWhile_eq_nil_iff, List.all_reverse] at h
    cases hd : t.dropWhile CodePoint.isBlank with
    | nil => exact dropWhile_eq_nil_iff.1 hd
    | cons c r =>
      have hc := List.head_dropWhile_not CodePoint.isBlank (l := t) (by simp [hd])
      simp_all
  · intro h
    simp [strip, trim, dropWhile_eq_nil_iff.2 h]

end Text

end JsonApi
