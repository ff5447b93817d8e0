import ResolverTypings.Table
import ResolverTypings.Text.Ascii
import ResolverTypings.Text.Blank

/-!
# Headers

The headers of a request are a table: a name that is set again keeps its place. Names
that differ in case alone are different names. A header is written in one line as its
name, a colon and its value, and blanks around the two do not count.
-/
namespace ResolverTypings.Service

/-- The headers of a request. -/
abbrev Headers := Table String String

/-- A line that is no header. -/
structure HeaderError where
  line : String
  deriving Repr, DecidableEq, Inhabited

/-- The message of an error. -/
def HeaderError.message (error : HeaderError) : String :=
  s!"Invalid header '{error.line}', expected 'Name: value'"

/-- The text before the first colon and the text behind it. -/
def splitAtColon : List Char → Option (List Char × List Char)
  | [] => none
  | c :: cs =>
    if c = ':' then some ([], cs)
    else (splitAtColon cs).map fun (before, behind) => (c :: before, behind)

/-- The header that a line writes. -/
def readHeader (line : String) : Except HeaderError (String × String) :=
  match splitAtColon line.toList with
  | none => throw ⟨line⟩
  | some (before, behind) =>
    let name := Text.trim before
    if name.isEmpty then throw ⟨line⟩
    else return (String.ofList name, String.ofList (Text.trim behind))

/-- A header as a line. -/
def writeHeader (header : String × String) : String :=
  header.1 ++ ": " ++ header.2

/-- The headers that lines write, up to an error. -/
def Headers.ofLines (lines : List String) : Except HeaderError Headers :=
  Table.ofList <$> lines.mapM readHeader

/-- How a request shows that it is allowed. -/
inductive Credentials where
  | none
  | bearer (token : String)
  | apiKey (key header : String)
  | fixed (headers : Headers)
  deriving Repr, DecidableEq, Inhabited

/-- The headers that show it. -/
def Credentials.headers : Credentials → Headers
  | .none => []
  | .bearer token => [("Authorization", "Bearer " ++ token)]
  | .apiKey key header => [(header, key)]
  | .fixed headers => headers

/-- The header for an API key that is not told otherwise. -/
def defaultKeyHeader : String := "x-api-key"

/-- Fixed headers with those of further credentials on top. -/
def Headers.withCredentials (headers : Headers) (more : Credentials) : Headers :=
  headers.merge more.headers

/-- Whether headers hold nothing beyond ASCII and so can be sent. -/
def Headers.areAscii (headers : Headers) : Bool :=
  headers.all fun (name, value) => Text.isAscii name.toList && Text.isAscii value.toList

/-- Whether headers tell the host themselves. -/
def Headers.tellHost (headers : Headers) : Bool :=
  headers.any fun (name, _) => name.toLower == "host"

end ResolverTypings.Service
