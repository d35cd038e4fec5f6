import JsonApi.Encoding
import JsonApi.Text.Unprintable

/-!
# Quoted texts

How messages show a text: between quotes, with backslashes, the quote itself, line breaks, tabs
and unprintable characters escaped.  Single quotes surround it, or double ones when it holds
single quotes only.
-/

namespace JsonApi

/-- Whether a character shows as itself. -/
def CodePoint.isPrintable (c : CodePoint) : Bool :=
  !Text.unprintable.any fun (first, last) => first ≤ c.toNat && c.toNat ≤ last

namespace Text

/-- The quote that surrounds a text. -/
def quoteFor (t : Text) : Char :=
  if t.contains (.scalar '\'') && !t.contains (.scalar '"') then '"' else '\''

/-- A code point between two quotes. -/
def quoteCodePoint (quote : Char) (c : CodePoint) : Text :=
  match c with
  | .scalar '\n' => ofChars ['\\', 'n']
  | .scalar '\r' => ofChars ['\\', 'r']
  | .scalar '\t' => ofChars ['\\', 't']
  | .scalar '\\' => ofChars ['\\', '\\']
  | _ =>
    if c = .scalar quote then [.scalar '\\', c]
    else if c.isPrintable then [c]
    else c.escape

/-- A text between quotes. -/
def quoted (t : Text) : Text :=
  .scalar t.quoteFor :: t.flatMap (quoteCodePoint t.quoteFor) ++ [.scalar t.quoteFor]

/-- A text between quotes, or the word for a missing one. -/
def quoted? : Option Text → Text
  | some t => t.quoted
  | none => "None"

end Text

end JsonApi
