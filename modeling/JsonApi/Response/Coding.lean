import JsonApi.Compression
import JsonApi.Headers
import JsonApi.Text.Blank
import JsonApi.Text.Case

/-!
# Content codings

The headers of a response name the codings that were applied to its content, in their order; names
that are not known do not count.  Content arrives in chunks, and each of them is decoded before the
next one arrives.
-/

namespace JsonApi.Response

/-- A coding of content. -/
inductive Coding
  | gzip
  | deflate
  deriving DecidableEq

namespace Coding

/-- The coding of a name. -/
def ofName? (t : Text) : Option Coding :=
  let name := t.strip.lower
  if name = ("gzip" : Text) then some .gzip
  else if name = ("deflate" : Text) then some .deflate
  else none

/-- The codings that headers name. -/
def ofHeaders (h : Headers) : List Coding :=
  ((h.values "content-encoding").flatMap (Text.splitAt (.scalar ','))).filterMap ofName?

/-- What each of some chunks adds to the data that the chunks before it hold, up to the first fault.
The chunks before and the size of what they hold are given. -/
def inflateChunks (frame : Compression.Frame) (before : Bytes) (size : Nat) :
    List Bytes → List Bytes × Option Compression.Fault
  | [] => ([], none)
  | c :: cs =>
    match Compression.inflate frame (before ++ c) with
    | .error f => ([], some f)
    | .ok all =>
      let (rest, f) := inflateChunks frame (before ++ c) all.length cs
      (all.drop size :: rest, f)

/-- The frame of chunks.  Where there may be none, the first chunk decides. -/
def frame (coding : Coding) (chunks : List Bytes) : Compression.Frame :=
  match coding with
  | .gzip => .gzip
  | .deflate =>
    match Compression.inflate .zlib (chunks.head?.getD []) with
    | .ok _ => .zlib
    | .error _ => .none

/-- The content before codings were applied; the last one is undone first.  Each chunk goes through
all of them before the next one arrives, so a fault of a coding that is undone later comes first. -/
def decode (codings : List Coding) (chunks : List Bytes) : Except Compression.Fault Bytes :=
  let undo (coding : Coding) : List Bytes × Option Compression.Fault →
      List Bytes × Option Compression.Fault
    | (chunks, fault) =>
      let (chunks, first) := inflateChunks (frame coding chunks) [] 0 chunks
      (chunks, first.or fault)
  match codings.foldr undo (chunks, none) with
  | (_, some f) => .error f
  | (chunks, none) => .ok chunks.flatten

end Coding

end JsonApi.Response
