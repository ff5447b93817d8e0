import ResolverTypings.Text.Fields
import ResolverTypings.Text.Integer
import ResolverTypings.Text.LowerCase
import ResolverTypings.Url.Address
import ResolverTypings.Url.Basic
import ResolverTypings.Url.HostName
import ResolverTypings.Url.Percent

/-!
# Reading URLs

A text is cut into the parts of a URL, and each part is brought into the form in which it
is sent. Any text has parts; only the host, the port and the beginning of the path can be
wrong, in this order, after the length and the characters of the whole.
-/
namespace ResolverTypings.Url

/-! ## Parts -/

/-- The parts of a text, as they stand there. -/
structure Parts where
  scheme : List Char
  user : List Char
  host : List Char
  port : List Char
  path : List Char
  query : Option (List Char)
  fragment : Option (List Char)
  deriving Repr, DecidableEq, Inhabited

/-- A character that may stand in a scheme. -/
def isSchemeChar (c : Char) : Bool :=
  c.isAlphanum || c == '+' || c == '.' || c == '-'

/-- The scheme before the first colon, which starts with a letter or is empty. -/
def splitScheme (cs : List Char) : List Char × List Char :=
  let scheme := cs.takeWhile isSchemeChar
  match cs.dropWhile isSchemeChar with
  | ':' :: rest => if scheme.head?.all Char.isAlpha then (scheme, rest) else ([], cs)
  | _ => ([], cs)

/-- The text before the first of some characters, and from there on. -/
def splitBefore (stops : List Char) (cs : List Char) : List Char × List Char :=
  (cs.takeWhile (!stops.contains ·), cs.dropWhile (!stops.contains ·))

/-- The authority behind two slashes. -/
def splitAuthority : List Char → List Char × List Char
  | '/' :: '/' :: rest => splitBefore ['/', '?', '#'] rest
  | cs => ([], cs)

/-- The text behind a mark in front, if the mark is there. -/
def behindMark (mark : Char) : List Char → Option (List Char)
  | c :: cs => if c = mark then some cs else none
  | [] => none

/-- The text before the last of a character and behind it; without one all is behind. -/
def splitAtLast (mark : Char) (cs : List Char) : List Char × List Char :=
  let behind := cs.reverse.takeWhile (· ≠ mark)
  (cs.take (cs.length - behind.length - 1), behind.reverse)

/-- The host, in brackets or up to a colon, and what stands behind it. -/
def splitHost (cs : List Char) : List Char × List Char :=
  if cs.head? = some '[' && cs.contains ']' then
    let behind := (splitAtLast ']' cs).2
    (cs.take (cs.length - behind.length), behind)
  else splitBefore [':'] cs

/-- The parts of a text. -/
def Parts.ofText (cs : List Char) : Parts :=
  let (scheme, rest) := splitScheme cs
  let (authority, rest) := splitAuthority rest
  let (path, rest) := splitBefore ['?', '#'] rest
  let (before, behind) := splitBefore ['#'] rest
  let (user, hostAndPort) := splitAtLast '@' authority
  let (host, more) := splitHost hostAndPort
  { scheme, user, host, path
    port := (behindMark ':' more).getD more
    query := behindMark '?' before
    fragment := behindMark '#' behind }

/-! ## Forms that are sent -/

/-- The form of a host. -/
def sentHost (host : List Char) : Except UrlError (List Char) :=
  if looksLikeAddress4 host then
    if isAddress4 host then return host else throw (.address4 (String.ofList host))
  else if host.head? = some '[' && host.getLast? = some ']' then
    let address := (host.drop 1).dropLast
    if isAddress6 address then return address else throw (.address6 (String.ofList host))
  else if Text.isAscii host then return percentEncode isKeptInHost (host.map Char.toLower)
  else
    match asciiName? (Text.lowerCase host) with
    | some name => return name
    | none => throw (.hostName (String.ofList host))

/-- The port that a scheme goes with. -/
def defaultPort? : String → Option Int
  | "ftp" => some 21
  | "http" | "ws" => some 80
  | "https" | "wss" => some 443
  | _ => none

/-- The form of a port: the one that the scheme goes with is left out. -/
def sentPort (scheme : String) (port : List Char) : Except UrlError (Option Int) :=
  if port.isEmpty then return none
  else
    match Text.readInteger? port with
    | some n => return if defaultPort? scheme = some n then none else some n
    | none => throw (.port (String.ofList port))

/-- Take a step of a path behind steps that stand in reverse: a dot stays, and two dots
go back, but not beyond the slash in front. -/
def takeStep (taken : List (List Char)) (step : List Char) : List (List Char) :=
  if step = ['.'] then taken
  else if step = ['.', '.'] then
    if taken = [[]] then taken else taken.drop 1
  else step :: taken

/-- A path without steps that stay or go back. -/
def straightPath (path : List Char) : List Char :=
  List.intercalate ['/'] ((Text.fields (· == '/') path).foldl takeStep []).reverse

/-- Refuse a path that would be read as something else without a host before it. -/
def checkPlace : List Char → Except UrlError Unit
  | '/' :: '/' :: _ => throw .startsLikeHost
  | ':' :: _ => throw .startsWithColon
  | _ => return ()

/-- The URL that parts make up. -/
def ofParts (parts : Parts) : Except UrlError Url := do
  let scheme := String.ofList parts.scheme
  let user := percentEncode isKeptInUser parts.user
  let host ← sentHost parts.host
  let port ← sentPort scheme parts.port
  let isPlace := parts.scheme.isEmpty && user.isEmpty && host.isEmpty && port.isNone
  if isPlace then checkPlace parts.path
  let path := if isPlace then parts.path else straightPath parts.path
  return {
    scheme := String.ofList (parts.scheme.map Char.toLower)
    user := String.ofList user
    host := String.ofList host
    port
    path := String.ofList (percentEncode isKeptInPath path)
    query := parts.query.map (String.ofList ∘ percentEncode isKeptInQuery)
    fragment := parts.fragment.map (String.ofList ∘ percentEncode isKeptInFragment) }

/-- The most characters of a URL or of a part of it. -/
def maxLength : Nat := 65536

/-- The URL that a text writes. -/
def parse (text : String) : Except UrlError Url :=
  let cs := text.toList
  if maxLength < cs.length then throw .tooLong
  else
    match cs.findIdx? Text.isControl with
    | some position => throw (.control (cs.getD position ' ') position)
    | none => ofParts (Parts.ofText cs)

/-- The URL under which a place is asked for. An absolute one stays as it is. Of another
one the place alone counts, seen from the root and without a fragment. -/
def target (url : Url) : Except UrlError Url :=
  if url.isAbsolute then return url
  else
    let path := '/' :: (url.path.toList.dropWhile (· == '/'))
    if maxLength < path.length then throw (.partTooLong "path")
    else if url.query.any (maxLength < ·.length) then throw (.partTooLong "query")
    else return { path := String.ofList path, query := url.query }

/-- The host of a URL in its own script. It is looked at for labels that stand for others
only where the first one does. -/
def nativeHost (url : Url) : Except LabelFault String :=
  let host := url.host.toList
  if labelMark.isPrefixOf host then String.ofList <$> nativeName host else return url.host

end ResolverTypings.Url
