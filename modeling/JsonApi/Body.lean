import JsonApi.Encoding.Utf8
import JsonApi.Error

/-!
# Bodies

A body is absent, bytes, text or a source that is read when it is needed.  A source has parts, may
fail behind the last one, and may have to be closed.

`Body.Handling` is what is done with a body, step by step: the steps are recorded, whatever comes of
them.  `Body.drain` takes the bytes out of a body and closes it behind that, also when reading it
fails.
-/

namespace JsonApi

/-- A part of a source. -/
inductive Chunk
  | bytes (bs : Bytes)
  | text (t : Text)

namespace Body

/-- The kinds of sources. -/
inductive SourceKind
  /-- A file of bytes. -/
  | file
  /-- A file of text. -/
  | textFile
  /-- A sequence of chunks that can be closed. -/
  | chunks
  /-- A sequence of chunks that cannot be closed. -/
  | iterator
  deriving DecidableEq

/-- Whether sources of a kind can be closed. -/
def SourceKind.closes : SourceKind → Bool
  | .file | .textFile | .chunks => true
  | .iterator => false

/-- A source. -/
structure Source where
  kind : SourceKind
  parts : List Chunk
  failure : Option Body.Failure

/-- The bytes of chunks; the index of the first chunk is given. -/
def join (index : Nat) : List Chunk → Except Fault Bytes
  | [] => .ok []
  | .bytes bs :: rest => (join (index + 1) rest).map (bs ++ ·)
  | .text _ :: _ => .error (.textChunk index)

/-- The text of chunks; the index of the first chunk is given. -/
def joinText (index : Nat) : List Chunk → Except Fault Text
  | [] => .ok []
  | .text t :: rest => (joinText (index + 1) rest).map (t ++ ·)
  | .bytes _ :: _ => .error (.bytesChunk index)

/-- What a source gives as a whole. -/
def Source.content (s : Source) : Except Fault Chunk :=
  match s.failure with
  | some f => .error (.body f)
  | none =>
    match s.kind with
    | .textFile => (joinText 0 s.parts).map .text
    | .file | .chunks | .iterator => (join 0 s.parts).map .bytes

/-- The bytes of a text. -/
def encode (t : Text) : Except Fault Bytes :=
  (Utf8.encode t).mapError fun e => .coding (.unencodable e)

end Body

/-- The body of a document. -/
inductive Body
  | absent
  | bytes (bs : Bytes)
  | text (t : Text)
  | source (s : Body.Source)

namespace Body

/-! ### Steps -/

/-- A step that is taken with a body. -/
inductive Event
  | read
  | close
  deriving DecidableEq

/-- What is done with a body: it ends in a result or in a failure, and every step is recorded behind
those before it. -/
abbrev Handling := ExceptT JsonApi.Failure (StateM (List Event))

namespace Handling

variable {α : Type}

/-- What comes of handling a body, and all steps, those that were taken before included. -/
def outcome (h : Handling α) (before : List Event) : Except JsonApi.Failure α × List Event :=
  h.run.run before

/-- What comes of handling a body. -/
def result (h : Handling α) : Except JsonApi.Failure α := (h.outcome []).1

/-- The steps that are taken with a body. -/
def events (h : Handling α) : List Event := (h.outcome []).2

end Handling

/-- Takes a step. -/
def record (e : Event) : Handling Unit := modify (· ++ [e])

/-- Closes a body, if it is one that can be closed. -/
def close : Body → Handling Unit
  | .source s => if s.kind.closes then record .close else pure ()
  | _ => pure ()

/-- Reads a source to its end. -/
def Source.consume (s : Source) : Handling Chunk := do
  record .read
  MonadExcept.ofExcept (s.content.mapError .fault)

/-- The failure to read a body: one of the device is reported in the terms of the API. -/
def readFailure : JsonApi.Failure → JsonApi.Failure
  | .fault (.body f) =>
    if f.ofDevice then
      .api (.of .internal (("Unable to read document body: " : Text) ++ f.message) none
        (some (.body f)))
    else .fault (.body f)
  | f => f

/-- The bytes of what a source gave. -/
def encodeChunk : Chunk → Except Fault Bytes
  | .bytes bs => .ok bs
  | .text t => encode t

/-- Takes the bytes out of a body.  A source is closed once it has been read, whatever came of
that; text is encoded only then. -/
def drain : Body → Handling Bytes
  | .absent => return []
  | .bytes bs => return bs
  | .text t => MonadExcept.ofExcept ((encode t).mapError .fault)
  | .source s => do
    let content ← try s.consume catch f => throw (readFailure f) finally close (.source s)
    MonadExcept.ofExcept ((encodeChunk content).mapError .fault)

/-- The bytes of a body. -/
def read (body : Body) : Except JsonApi.Failure Bytes := body.drain.result

end Body

end JsonApi
