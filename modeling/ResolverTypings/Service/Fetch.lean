import ResolverTypings.Json.Encoding
import ResolverTypings.Json.Parser
import ResolverTypings.Json.Problem
import ResolverTypings.Service.Header
import ResolverTypings.Service.Status
import ResolverTypings.Url.Reading

/-!
# Fetching a schema

A federated service tells its whole schema in answer to one query. A request is made if
its headers and the URL of the service can be sent. What comes back is looked at in a
fixed order: whether there is an answer, whether it came from a host, its status, whether
it is JSON, its shape, the errors it reports, and whether the schema is there.
-/
namespace ResolverTypings.Service

open Json (Problem)
open Text (RawText)

/-- The query that asks for the schema. -/
def schemaQuery : String :=
  "query __ApolloGetServiceDefinition__ \x7b _service \x7b sdl \x7d \x7d"

/-- A request to a service. -/
structure Request where
  method : String
  target : Url
  headers : Headers
  body : Json
  deriving Repr, Inhabited

/-- The body of a reply. -/
inductive Body where
  | json (value : Json)
  | text (content : String)
  deriving Repr, Inhabited

/-- What comes back from a service. -/
inductive Reply where
  | answer (status : Int) (body : Body)
  | unreachable (message : String)
  deriving Repr, Inhabited

/-- Why no schema was fetched. -/
inductive FetchError where
  /-- A header or the name of the host cannot be sent. -/
  | notAscii
  | badUrl (error : UrlError)
  /-- The host stands for no name in any script. -/
  | badHost (fault : Url.LabelFault)
  | unreachable (message : String)
  /-- The URL names no host that could have answered. -/
  | noHost (url : String)
  | status (code : Int) (url : String)
  /-- The bytes of the body hold no text. -/
  | notText
  | notJson (error : Json.ParseError)
  | misshapen (problems : List Problem)
  /-- The service reports errors, with their messages. -/
  | reported (messages : List RawText) (errors : List Json)
  /-- The error at a position has a message that is no text. -/
  | messageNotText (position : Nat) (message : Json)
  | noSchema (url : String)
  deriving Repr, Inhabited

/-- The message of an error. Text that cannot be written or read in bytes, hosts that
stand for no name and malformed JSON are told apart by their kind alone. -/
def FetchError.message : FetchError → RawText
  | .notAscii | .badHost _ | .notText => ""
  | .badUrl error => error.message
  | .unreachable message => message
  | .noHost url => s!"unknown url type: {Text.quoted url}"
  | .status code url => statusReport code url
  | .notJson error => error.fault.message
  | .misshapen problems => Json.problemLines problems
  | .reported messages _ => "GraphQL errors: " ++ List.intercalate (RawText.ofString "; ") messages
  | .messageNotText position message =>
    s!"sequence item {position}: expected str instance, {message.typeName} found"
  | .noSchema url => s!"{url} did not return _service.sdl; is it a federated service?"

/-! ## Requests -/

/-- The headers of the request for a schema. -/
def schemaHeaders (credentials : Credentials) : Headers :=
  Headers.withCredentials [("Content-Type", "application/json")] credentials

/-- Check that the host of a URL can be told in a header: it stands for a name, and is
written in ASCII. -/
def checkHost (target : Url) : Except FetchError Unit := do
  let _ ← target.nativeHost.mapError .badHost
  if !Text.isAscii target.hostAndPort.toList then throw .notAscii

/-- The request for the schema of the service at a URL. The host is told in a header unless
the headers tell one themselves. -/
def schemaRequest (url : String) (credentials : Credentials) : Except FetchError Request := do
  let headers := schemaHeaders credentials
  if !headers.areAscii then throw .notAscii
  let target ← (Url.parse url >>= Url.target).mapError .badUrl
  if !headers.tellHost then checkHost target
  return { method := "POST", target, headers, body := .obj [("query", .str schemaQuery)] }

/-- The value that a body holds. -/
def Body.value : Body → Except FetchError Json
  | .json value => return value
  | .text content =>
    match Json.textOfBytes (Text.Utf8.encode content) with
    | none => throw .notText
    | some found => (Json.parse found).mapError .notJson

/-! ## Shape -/

/-- What the whole reply is called in messages. -/
def replyModel : String := "_ServiceResponse"

/-- What the data of a reply are called in messages. -/
def dataModel : String := "_ServiceData"

/-- What the service inside the data is called in messages. -/
def serviceModel : String := "_Service"

/-- What a reply tells: a schema if there is one, and errors. -/
structure Told where
  schema : Option RawText
  errors : List Json
  deriving Repr, Inhabited

/-- The member of an object that may be missing or null. -/
def presentMember (value : Json) (name : String) : Option Json :=
  match value.member? name with
  | none | some .null => none
  | found => found

/-- The problems with the service inside the data, and the schema it tells. -/
def readService (value : Json) : List Problem × Option RawText :=
  match value with
  | .obj _ =>
    match value.member? "sdl" with
    | none => ([⟨["data", "_service", "sdl"], .missingField, value⟩], none)
    | some (.str text) => ([], some text)
    | some other => ([⟨["data", "_service", "sdl"], .notString, other⟩], none)
  | _ => ([⟨["data", "_service"], .notModel serviceModel, value⟩], none)

/-- The problems with the data, and the schema they tell. -/
def readData (value : Json) : List Problem × Option RawText :=
  match value with
  | .obj _ =>
    match presentMember value "_service" with
    | none => ([], none)
    | some service => readService service
  | _ => ([⟨["data"], .notModel dataModel, value⟩], none)

/-- The problems with errors from a position on: each must be an object. -/
def errorProblems : (position : Nat) → List Json → List Problem
  | _, [] => []
  | position, error :: rest =>
    match error with
    | .obj _ => errorProblems (position + 1) rest
    | _ => ⟨["errors", toString position], .notObject, error⟩ :: errorProblems (position + 1) rest

/-- The problems with the errors, and the errors. -/
def readErrors (value : Json) : List Problem × List Json :=
  match value with
  | .arr errors => (errorProblems 0 errors, errors)
  | _ => ([⟨["errors"], .notList, value⟩], [])

/-- What a reply tells, or all problems with its shape. -/
def readReply (value : Json) : Except (List Problem) Told :=
  match value with
  | .obj _ =>
    let (dataProblems, schema) := ((presentMember value "data").map readData).getD ([], none)
    let (errorProblems, errors) := ((presentMember value "errors").map readErrors).getD ([], [])
    let problems := dataProblems ++ errorProblems
    if problems.isEmpty then .ok { schema, errors } else .error problems
  | _ => .error [⟨[], .notModel replyModel, value⟩]

/-! ## Errors that the service reports -/

/-- The messages of errors from a position on. An error without one is shown whole. -/
def errorMessages : (position : Nat) → List Json → Except FetchError (List RawText)
  | _, [] => return []
  | position, error :: rest => do
    let message ←
      match error.member? "message" with
      | none => pure (RawText.ofString error.inline)
      | some (.str text) => pure text
      | some other => throw (.messageNotText position other)
    return message :: (← errorMessages (position + 1) rest)

/-- The schema that a value tells. -/
def schemaOfValue (url : String) (value : Json) : Except FetchError RawText := do
  let told ← (readReply value).mapError .misshapen
  if told.errors.isEmpty then
    match told.schema with
    | some text => return text
    | none => throw (.noSchema url)
  else
    throw (.reported (← errorMessages 0 told.errors) told.errors)

/-- The schema that the reply to a request tells, under the URL as it was given. -/
def schemaOfReply (url : String) (target : Url) : Reply → Except FetchError RawText
  | .unreachable message => throw (.unreachable message)
  | .answer status body => do
    if !target.isAbsolute then throw (.noHost target.text)
    else if isSuccess status then schemaOfValue url (← body.value)
    else throw (.status status target.text)

/-! ## Attempts -/

/-- An attempt to fetch a schema: what was to be sent, and what came of it. -/
structure Attempt where
  headers : Headers
  /-- The request, if one could be made. -/
  request : Option Request
  outcome : Except FetchError RawText

/-- Try to fetch the schema of the service at a URL, which would give a reply. -/
def attempt (url : String) (credentials : Credentials) (reply : Reply) : Attempt :=
  let headers := schemaHeaders credentials
  match schemaRequest url credentials with
  | .error error => { headers, request := none, outcome := .error error }
  | .ok request =>
    { headers, request := some request, outcome := schemaOfReply url request.target reply }

end ResolverTypings.Service
