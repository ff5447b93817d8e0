import ResolverTypings.Text.Quoted

/-!
# URLs

A URL names a service: how to reach it, on which host, and the place there. A URL with a
scheme and a host is absolute; another one names a place only.
-/
namespace ResolverTypings

/-- The parts of a URL, in the form in which they are sent. -/
structure Url where
  scheme : String := ""
  user : String := ""
  host : String := ""
  port : Option Int := none
  path : String := ""
  query : Option String := none
  fragment : Option String := none
  deriving Repr, DecidableEq, Inhabited

namespace Url

/-- Whether a URL has a scheme and a host. -/
def isAbsolute (url : Url) : Bool :=
  !url.scheme.isEmpty && !url.host.isEmpty

/-- The host and the port. Brackets stand around a host with colons. -/
def hostAndPort (url : Url) : String :=
  let host := if url.host.contains ':' then "[" ++ url.host ++ "]" else url.host
  host ++ (url.port.map fun port => s!":{port}").getD ""

/-- The user, the host and the port. -/
def authority (url : Url) : String :=
  (if url.user.isEmpty then "" else url.user ++ "@") ++ url.hostAndPort

/-- The path and the query. -/
def place (url : Url) : String :=
  url.path ++ (url.query.map ("?" ++ ·)).getD ""

/-- A URL as a text. -/
def text (url : Url) : String :=
  (if url.scheme.isEmpty then "" else url.scheme ++ ":") ++
    (if url.authority.isEmpty then "" else "//" ++ url.authority) ++
    url.place ++ (url.fragment.map ("#" ++ ·)).getD ""

end Url

/-- What is wrong with the text of a URL. -/
inductive UrlError where
  | tooLong
  /-- A part is too long in the form in which it would be sent. -/
  | partTooLong (name : String)
  | control (c : Char) (position : Nat)
  | address4 (host : String)
  | address6 (host : String)
  | hostName (host : String)
  | port (text : String)
  /-- A place starts like a host. -/
  | startsLikeHost
  /-- A place starts like a port or like the end of a scheme. -/
  | startsWithColon
  deriving Repr, DecidableEq, Inhabited

/-- The message of an error. -/
def UrlError.message : UrlError → String
  | .tooLong => "URL too long"
  | .partTooLong name => s!"URL component '{name}' too long"
  | .control c position =>
    let shown := Text.quoted (String.singleton c)
    s!"Invalid non-printable ASCII character in URL, {shown} at position {position}."
  | .address4 host => s!"Invalid IPv4 address: {Text.quoted host}"
  | .address6 host => s!"Invalid IPv6 address: {Text.quoted host}"
  | .hostName host => s!"Invalid IDNA hostname: {Text.quoted host}"
  | .port text => s!"Invalid port: {Text.quoted text}"
  | .startsLikeHost => "Relative URLs cannot have a path starting with '//'"
  | .startsWithColon => "Relative URLs cannot have a path starting with ':'"

end ResolverTypings
