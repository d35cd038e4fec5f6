import JsonApi.Address
import JsonApi.Host.Label
import JsonApi.Text.Integer
import JsonApi.Url.Error
import JsonApi.Url.Percent

/-!
# URLs

A `Url` holds its components in normal form: scheme and host in lower case, a host name in ASCII,
the default port of the scheme left out, dot segments removed from the path, and every character
escaped that may not stand in its component.  `Url.ofText` splits a text into `Parts` and
normalises them with `Parts.normalise`; `Url.withPath` replaces the path and normalises again.
-/

namespace JsonApi

/-- A URL in normal form. -/
structure Url where
  scheme : Text
  userInfo : Text
  host : Text
  port : Option Int
  path : Text
  query : Option Text
  fragment : Option Text
  deriving DecidableEq

namespace Url

/-! ### Safe characters -/

/-- Whether a character is printable ASCII other than some. -/
def isPlainBut (excluded : List Char) (c : CodePoint) : Bool :=
  match c with
  | .scalar c => 0x20 ≤ c.toNat && c.toNat < 0x7F && !excluded.contains c
  | .surrogate _ => false

/-- Whether a character may stand in a fragment. -/
def isSafeInFragment : CodePoint → Bool := isPlainBut [' ', '"', '<', '>', '`']

/-- Whether a character may stand in a query. -/
def isSafeInQuery : CodePoint → Bool := isPlainBut [' ', '"', '#', '<', '>']

/-- Whether a character may stand in a path. -/
def isSafeInPath : CodePoint → Bool :=
  isPlainBut [' ', '"', '#', '<', '>', '?', '`', '\x7b', '\x7d']

/-- Whether a character may stand in the user information. -/
def isSafeInUserInfo : CodePoint → Bool :=
  isPlainBut [' ', '"', '#', '<', '>', '?', '`', '\x7b', '\x7d', '/', ';', '=', '@', '[', '\\', ']',
    '^', '|']

/-- Whether a character may stand in the name of a host. -/
def isSafeInHost (c : CodePoint) : Bool :=
  match c with
  | .scalar c => ['!', '$', '&', '\'', '(', ')', '*', '+', ',', ';', '=', '"', '`', '\x7b', '\x7d',
      '%', '|', '\\'].contains c
  | .surrogate _ => false

/-! ### Splitting -/

/-- The components of a URL before they are normalised. -/
structure Parts where
  scheme : Text
  authority : Text
  path : Text
  query : Option Text
  fragment : Option Text

/-- Whether a character may stand in a scheme behind its first letter. -/
def isSchemeCharacter (c : CodePoint) : Bool :=
  match c with
  | .scalar c => (c.isAlphanum && c.toNat < 0x80) || c = '+' || c = '.' || c = '-'
  | .surrogate _ => false

/-- Whether a character is a letter of ASCII. -/
def isLetter (c : CodePoint) : Bool :=
  match c with
  | .scalar c => c.isAlpha && c.toNat < 0x80
  | .surrogate _ => false

/-- The scheme at the front of a text and the text behind its colon; the scheme may be empty. -/
def splitScheme (t : Text) : Text × Text :=
  match t with
  | [] => ([], [])
  | c :: rest =>
    let scheme : Text := if isLetter c then c :: rest.takeWhile isSchemeCharacter else []
    match t.drop scheme.length with
    | .scalar ':' :: rest => (scheme, rest)
    | _ => ([], t)

/-- The text in front of the first of some characters, and the text from it on. -/
def splitBefore (stops : List Char) (t : Text) : Text × Text :=
  let goesOn (c : CodePoint) : Bool := !stops.any fun s => c = .scalar s
  (t.takeWhile goesOn, t.dropWhile goesOn)

/-- The components of a text. -/
def split (t : Text) : Parts :=
  let (scheme, t) := splitScheme t
  let (authority, t) := match t with
    | .scalar '/' :: .scalar '/' :: t => splitBefore ['/', '?', '#'] t
    | t => ([], t)
  let (path, t) := splitBefore ['?', '#'] t
  let (query, t) : Option Text × Text := match t with
    | .scalar '?' :: t => let (query, t) := splitBefore ['#'] t; (some query, t)
    | t => (none, t)
  let fragment : Option Text := match t with
    | .scalar '#' :: t => some t
    | _ => none
  ⟨scheme, authority, path, query, fragment⟩

/-- The text in front of the last place of a character, and the text behind it. -/
def cutLast? (c : CodePoint) (t : Text) : Option (Text × Text) :=
  (Text.cut? c t.reverse).map fun (behind, front) => (front.reverse, behind.reverse)

/-- The user information, the host and the port of an authority; a host in brackets ends at the
last closing one. -/
def splitAuthority (t : Text) : Text × Text × Text :=
  let (userInfo, t) := (cutLast? (.scalar '@') t).getD ([], t)
  let bracketed : Option (Text × Text) :=
    if t.head? = some (.scalar '[') then
      (cutLast? (.scalar ']') t).map fun (front, behind) => (front ++ [.scalar ']'], behind)
    else none
  let (host, t) := bracketed.getD (splitBefore [':'] t)
  match t with
  | .scalar ':' :: port => (userInfo, host, port)
  | port => (userInfo, host, port)

/-! ### Normalising -/

/-- Whether a host looks like a version 4 address: four runs of digits with points between
neighbours.  Digits alone, or with other signs between them as in `1_2_3_4`, are a name. -/
def looksLikeV4 (host : Text) : Bool :=
  let runs := host.splitAt (.scalar '.')
  runs.length == 4 && runs.all fun run => run != [] && run.all CodePoint.isDigit

/-- The normal form of a host. -/
def normaliseHost (host : Text) : Except Refusal Text :=
  if host = [] then .ok []
  else if looksLikeV4 host then
    if (Address.v4? host).isSome then .ok host else .error (.faulty (.addressV4 host))
  else if host.head? = some (.scalar '[') ∧ host.getLast? = some (.scalar ']') then
    let inner := (host.drop 1).dropLast
    if (Address.v6? inner).isSome then .ok inner else .error (.faulty (.addressV6 host))
  else if host.all CodePoint.isAscii then
    (Percent.encode isSafeInHost (Text.asciiLower host)).mapError .unencodable
  else (Host.toAscii host.lower).mapError fun _ => .faulty (.hostName host)

/-- The port that goes without saying. -/
def defaultPort? (scheme : Text) : Option Int :=
  if scheme = ("http" : Text) ∨ scheme = ("ws" : Text) then some 80
  else if scheme = ("https" : Text) ∨ scheme = ("wss" : Text) then some 443
  else if scheme = ("ftp" : Text) then some 21
  else none

/-- The normal form of a port; the scheme counts as it is written. -/
def normalisePort (scheme port : Text) : Except Refusal (Option Int) :=
  if port = [] then .ok none
  else match port.integer 10 with
    | .error _ => .error (.faulty (.port port))
    | .ok n => .ok (if defaultPort? scheme = some n then none else some n)

/-- Segments with the dot segments removed; the segments before them are given in reverse. -/
def removeDots (before : List Text) : List Text → List Text
  | [] => before.reverse
  | s :: rest =>
    if s = ("." : Text) then removeDots before rest
    -- the empty segment in front of an absolute path is not taken away
    else if s = (".." : Text) then
      removeDots (if before = [[]] then before else before.drop 1) rest
    else removeDots (s :: before) rest

/-- A path without dot segments. -/
def normalisePath (path : Text) : Text :=
  Text.join "/" (removeDots [] (path.splitAt (.scalar '/')))

/-- Checks that a path can follow what stands in front of it. -/
def checkPath (hasScheme hasAuthority : Bool) (path : Text) : Except Refusal Unit :=
  if hasAuthority ∧ path ≠ [] ∧ path.head? ≠ some (.scalar '/') then .error (.faulty .pathStart)
  else if !hasScheme ∧ !hasAuthority ∧ path.take 2 = ("//" : Text) then
    .error (.faulty .pathSlashes)
  else if !hasScheme ∧ !hasAuthority ∧ path.head? = some (.scalar ':') then
    .error (.faulty .pathColon)
  else .ok ()

/-- The URL of some components. -/
def Parts.normalise (p : Parts) : Except Refusal Url := do
  let escaped (isSafe : CodePoint → Bool) (t : Text) : Except Refusal Text :=
    (Percent.encode isSafe t).mapError .unencodable
  let (userInfo, host, port) := splitAuthority p.authority
  let scheme := Text.asciiLower p.scheme
  let userInfo ← escaped isSafeInUserInfo userInfo
  let host ← normaliseHost host
  let port ← normalisePort p.scheme port
  let hasScheme := scheme != []
  let hasAuthority := userInfo != [] || host != [] || port.isSome
  checkPath hasScheme hasAuthority p.path
  let path := if hasScheme || hasAuthority then normalisePath p.path else p.path
  let path ← escaped isSafeInPath path
  let query ← p.query.mapM (escaped isSafeInQuery)
  let fragment ← p.fragment.mapM (escaped isSafeInFragment)
  return ⟨scheme, userInfo, host, port, path, query, fragment⟩

/-! ### Limits -/

/-- The most characters of a URL or of a component. -/
def lengthLimit : Nat := 65536

/-- Whether a character is a control of ASCII. -/
def isControl (c : CodePoint) : Bool := c.toNat < 0x20 || c.toNat == 0x7F

/-- The first control character of a text and its position. -/
def control? (t : Text) : Option (CodePoint × Nat) :=
  (t.firstRun? isControl 0).bind fun (position, run) => run.head?.map (·, position)

/-- Checks the length and the characters of a text that should be a URL. -/
def checkText (t : Text) : Except Refusal Unit :=
  if lengthLimit < t.length then .error (.faulty .tooLong)
  else match control? t with
    | some (c, position) => .error (.faulty (.control c position))
    | none => .ok ()

/-- Whether a text can be a component. -/
def Component.admits (component : Component) (t : Text) : Bool :=
  match component with
  | .scheme => t = [] || (t.head?.any isLetter && t.all isSchemeCharacter)
  | .authority => !t.any fun c => c = .scalar '/' || c = .scalar '?' || c = .scalar '#'
  | .path => !t.any fun c => c = .scalar '?' || c = .scalar '#'
  | .query => !t.contains (.scalar '#')
  | .fragment => true

/-- Checks a text that should be a component. -/
def Component.check (component : Component) (t : Text) : Except Refusal Unit :=
  if lengthLimit < t.length then .error (.faulty (.componentTooLong component))
  else match control? t with
    | some (c, position) => .error (.faulty (.componentControl component c position))
    | none => if component.admits t then .ok () else .error (.faulty (.malformed component))

/-! ### Texts -/

/-- The URL that a text spells. -/
def ofText (t : Text) : Except Refusal Url := do
  checkText t
  (split t).normalise

/-- The host and the port, a version 6 address in brackets. -/
def hostAndPort (u : Url) : Text :=
  (if u.host.contains (.scalar ':') then ("[" : Text) ++ u.host ++ ("]" : Text) else u.host) ++
    match u.port with
    | none => []
    | some n => .scalar ':' :: Text.ofInt n

/-- The user information, the host and the port. -/
def authority (u : Url) : Text :=
  (if u.userInfo = [] then [] else u.userInfo ++ ("@" : Text)) ++ u.hostAndPort

/-- The text of a URL. -/
def text (u : Url) : Text :=
  (if u.scheme = [] then [] else u.scheme ++ (":" : Text)) ++
    (if u.authority = [] then [] else ("//" : Text) ++ u.authority) ++ u.path ++
    (match u.query with
      | none => []
      | some q => .scalar '?' :: q) ++
    match u.fragment with
    | none => []
    | some f => .scalar '#' :: f

/-- The host as people read it; a name that starts with the prefix of the ASCII form is converted
back. -/
def readableHost (u : Url) : Except Host.Error Text :=
  if Host.Label.asciiPrefix.isPrefixOf u.host then Host.toUnicode u.host else .ok u.host

/-- The path with its escapes read; a missing path is a slash. -/
def readablePath (u : Url) : Text := Percent.decode (if u.path = [] then "/" else u.path)

/-- The URL with another path. -/
def withPath (u : Url) (path : Text) : Except Refusal Url := do
  Component.scheme.check u.scheme
  Component.authority.check u.authority
  Component.path.check path
  if let some q := u.query then Component.query.check q
  if let some f := u.fragment then Component.fragment.check f
  Parts.normalise ⟨u.scheme, u.authority, path, u.query, u.fragment⟩

end Url

end JsonApi
