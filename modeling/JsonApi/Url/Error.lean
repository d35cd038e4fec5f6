import JsonApi.Encoding
import JsonApi.Text.Quoted

/-!
# Faulty URLs

What can be wrong with the text of a URL or with a component that is put into one.
-/

namespace JsonApi.Url

/-- A component of a URL. -/
inductive Component
  | scheme
  | authority
  | path
  | query
  | fragment
  deriving DecidableEq

/-- The name of a component. -/
def Component.name : Component → Text
  | .scheme => "scheme"
  | .authority => "authority"
  | .path => "path"
  | .query => "query"
  | .fragment => "fragment"

/-- What is wrong with a URL. -/
inductive Error
  | tooLong
  | componentTooLong (component : Component)
  | control (c : CodePoint) (position : Nat)
  | componentControl (component : Component) (c : CodePoint) (position : Nat)
  | malformed (component : Component)
  | port (t : Text)
  | addressV4 (host : Text)
  | addressV6 (host : Text)
  | hostName (host : Text)
  /-- Behind an authority a path starts with a slash. -/
  | pathStart
  /-- Without scheme and authority two slashes would start an authority. -/
  | pathSlashes
  /-- Without scheme and authority a colon would end a scheme. -/
  | pathColon
  deriving DecidableEq

/-- The wording of an error. -/
def Error.message : Error → Text
  | .tooLong => "URL too long"
  | .componentTooLong component =>
    ("URL component '" : Text) ++ component.name ++ ("' too long" : Text)
  | .control c position =>
    ("Invalid non-printable ASCII character in URL, " : Text) ++ Text.quoted [c] ++
      (" at position " : Text) ++ Text.ofNat position ++ ("." : Text)
  | .componentControl component c position =>
    ("Invalid non-printable ASCII character in URL " : Text) ++ component.name ++
      (" component, " : Text) ++ Text.quoted [c] ++ (" at position " : Text) ++
      Text.ofNat position ++ ("." : Text)
  | .malformed component => ("Invalid URL component '" : Text) ++ component.name ++ ("'" : Text)
  | .port t => ("Invalid port: " : Text) ++ t.quoted
  | .addressV4 host => ("Invalid IPv4 address: " : Text) ++ host.quoted
  | .addressV6 host => ("Invalid IPv6 address: " : Text) ++ host.quoted
  | .hostName host => ("Invalid IDNA hostname: " : Text) ++ host.quoted
  | .pathStart => "For absolute URLs, path must be empty or begin with '/'"
  | .pathSlashes => "Relative URLs cannot have a path starting with '//'"
  | .pathColon => "Relative URLs cannot have a path starting with ':'"

/-- Why a text is no URL: it is faulty, or a part of it has no bytes. -/
inductive Refusal
  | faulty (e : Error)
  | unencodable (e : EncodingError)
  deriving DecidableEq

end JsonApi.Url
