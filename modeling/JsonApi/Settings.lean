import JsonApi.Coercion
import JsonApi.Text.Case

/-!
# Client settings

Settings come from arguments, from environment variables that carry the prefix `JSONAPI_`, or from
the defaults, in this order.  Names of arguments and variables match in any case.  A `Session`
holds the environment; the settings that it gives when none are named are read from it once and
kept until they are forgotten.
-/

namespace JsonApi

/-- The settings of a client. -/
structure Settings where
  /-- The media type of documents, in headers that are read and written. -/
  mediaType : Text
  /-- Whether a `charset` parameter is tolerated on reading. -/
  tolerateCharset : Bool
  /-- The indent of documents that are written. -/
  jsonIndent : Int
  /-- The seconds that a reply may take. -/
  timeout : Double
  deriving DecidableEq

/-- Environment variables. -/
abbrev Environment := List (Text × Text)

namespace Environment

/-- The value of a variable, whose name is given in lower case and matches in any case; the last
of several wins. -/
def lookup? (name : Text) (env : Environment) : Option Text :=
  (env.reverse.find? fun (n, _) => n.lower = name).map (·.2)

end Environment

namespace Settings

/-- The settings that nothing has been said about. -/
def default : Settings := ⟨"application/vnd.api+json", true, 2, .ofInt 10⟩

/-- The names of settings. -/
def names : List Text := ["media_type", "tolerate_charset", "json_indent", "timeout"]

/-- The prefix of the environment variables for settings, in lower case. -/
def variablePrefix : Text := "jsonapi_"

/-- The argument for a setting: the one of its very name, or else the first whose name matches in
another case. -/
def argument? (arguments : List (Text × Json)) (name : Text) : Option Json :=
  (Members.get? name arguments).or ((arguments.find? fun (n, _) => n.lower = name).map (·.2))

/-- What a setting is given as: an argument or else an environment variable. -/
def source? (env : Environment) (arguments : List (Text × Json)) (name : Text) : Option Json :=
  (argument? arguments name).or ((env.lookup? (variablePrefix ++ name)).map .string)

/-- A setting as it is given, or its default. -/
def field {α : Type} (env : Environment) (arguments : List (Text × Json)) (name : Text)
    (otherwise : α) (coerce : Json → Checked α) : Checked α :=
  match source? env arguments name with
  | none => .ok otherwise
  | some v => (coerce v).below (.member name)

/-- The seconds of a timeout.  An integer counts only while the nearest double is finite. -/
def seconds (v : Json) : Checked Double := do
  let x ← Coercion.double v
  match v with
  | .int _ => if x.isFinite then .ok x else Checked.fail .number
  | _ => .ok x

/-- Whether two settings are equal; a timeout that is no number differs from itself. -/
def equals (a b : Settings) : Bool := a == b && a.timeout != .nan

/-- Checks that there is no argument without a setting. -/
def checkNames (arguments : List (Text × Json)) : Checked Unit :=
  match (Members.names arguments).filter (! names.contains ·.lower) with
  | [] => .ok ()
  | unknown => .error (unknown.map fun name => ⟨[.member name], .extra⟩)

/-- The settings that an environment and arguments give. -/
def check (env : Environment) (arguments : List (Text × Json)) : Except ValidationError Settings :=
  let mediaType := field env arguments "media_type" default.mediaType Coercion.text
  let tolerateCharset :=
    field env arguments "tolerate_charset" default.tolerateCharset Coercion.bool
  let jsonIndent := field env arguments "json_indent" default.jsonIndent Coercion.integer
  let timeout := field env arguments "timeout" default.timeout seconds
  let fields := mediaType.pair (tolerateCharset.pair (jsonIndent.pair timeout))
  let settings := (Checked.pair fields (checkNames arguments)).map
    fun ((mediaType, tolerateCharset, jsonIndent, timeout), ()) =>
      (⟨mediaType, tolerateCharset, jsonIndent, timeout⟩ : Settings)
  Checked.report "ClientSettings" settings

end Settings

/-- An environment, and the settings that have been read from it. -/
structure Session where
  environment : Environment
  cached : Option Settings

namespace Session

/-- The session that starts without any variable. -/
def start : Session := ⟨[], none⟩

/-- The settings to use where none are named, and the session that remembers them. -/
def settings (s : Session) : Except ValidationError Settings × Session :=
  match s.cached with
  | some settings => (.ok settings, s)
  | none =>
    match Settings.check s.environment [] with
    | .ok settings => (.ok settings, { s with cached := some settings })
    | .error e => (.error e, s)

/-- The session with a variable set, or removed when there is no value. -/
def setVariable (name : Text) (value : Option Text) (s : Session) : Session :=
  { s with environment := match value with
    | some v => Members.put name v s.environment
    | none => s.environment.filter (·.1 ≠ name) }

/-- The session that has forgotten its settings. -/
def forget (s : Session) : Session := { s with cached := none }

end Session

end JsonApi
