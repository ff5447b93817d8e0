import ResolverTypings.Command.Invocation
import ResolverTypings.Federation.Reader
import ResolverTypings.Schema.Filter
import ResolverTypings.Service.Fetch
import ResolverTypings.TypeScript.Outline
import ResolverTypings.TypeScript.SettingsFile

/-!
# Running the command

A run takes the files that are there and the reply that a service would give, and ends
with the files as they are afterwards, what was said on the two streams and what was asked
of the service. The file that is asked for is written last, and a run that ends before
leaves the files as they were. A run that ends while it writes leaves the directories that
it has made, and the file empty if it has been opened by then.
-/
namespace ResolverTypings.Command

open Federation (ReadError SchemaReader)
open Service (Credentials FetchError Headers Reply)
open Text (RawText)
open TypeScript (Settings SettingsError)

/-- What a run finds. -/
structure Surroundings where
  tree : FileTree
  workingDirectory : Path
  /-- What the service at the endpoint replies. -/
  reply : Reply
  deriving Inhabited

/-- What keeps a file from being written. -/
inductive WriteError where
  /-- A file stands where the directory of the file has to be. -/
  | fileInTheWay
  /-- A file stands where a directory further up has to be. -/
  | fileFurtherUp
  | isDirectory
  /-- A name or the whole path has more bytes than can be told. -/
  | tooLong
  /-- The text holds a surrogate, which has no bytes. -/
  | surrogate
  deriving Repr, DecidableEq, Inhabited

/-- A file that was not written, and the files as the attempt left them. -/
structure FailedWrite where
  error : WriteError
  left : FileTree
  deriving Repr, DecidableEq, Inhabited

/-- Why a run ends without having done its work. -/
inductive Failure where
  | usage (scope : Scope) (error : UsageError)
  /-- A failure that is told in one line. -/
  | told (message : RawText)
  /-- Failures that nothing is said about. -/
  | notPath (error : PathError)
  | unsettled (error : SettingsError)
  | unreadable (error : ReadError)
  | unfetched (error : FetchError)
  | unwritten (write : FailedWrite)
  deriving Inhabited

/-- What has been said and asked during a run. -/
structure Transcript where
  output : String := ""
  notices : String := ""
  /-- The attempt to fetch the schema, if one was made. -/
  attempt : Option Service.Attempt := none
  deriving Inhabited

/-- A part of a run. -/
abbrev Step := ExceptT Failure (StateM Transcript)

/-- Say a line on the output, without the control sequences in it. -/
def say (line : String) : Step Unit :=
  modify fun transcript =>
    { transcript with output := transcript.output ++ (Text.plain line).shown ++ "\n" }

/-- Put a text on the stream for notices, which shows surrogates by their escapes. -/
def notify (text : RawText) : Step Unit :=
  modify fun transcript => { transcript with notices := transcript.notices ++ text.shown }

/-- The value of an option unless it is empty. -/
def nonEmpty (text : Option String) : Option String :=
  text.filter (!·.isEmpty)

/-! ## Sources -/

/-- Where the schema comes from. -/
inductive Source where
  | files (path : String)
  | endpoint (url : String)
  deriving Repr, DecidableEq, Inhabited

/-- The source as it was given. -/
def Source.text : Source → String
  | .files path => path
  | .endpoint url => url

/-- The only source of an invocation. -/
def sourceOf (invocation : Invocation) : Except UsageError Source :=
  match nonEmpty invocation.schema, nonEmpty invocation.endpoint with
  | some path, none => return .files path
  | none, some url => return .endpoint url
  | _, _ => throw .notOneSource

/-- End a run with an error in the use of the command. -/
def misuse {α : Type} (error : UsageError) : Step α :=
  throw (.usage .generate error)

/-- The credentials of an invocation: its headers, with those of a token on top. -/
def credentialsOf (invocation : Invocation) : Except UsageError Credentials :=
  match Headers.ofLines invocation.headers with
  | .error error => throw (.invalidValue "--header" error.message)
  | .ok headers =>
    match nonEmpty invocation.bearerToken with
    | none => return .fixed headers
    | some token => return .fixed (headers.withCredentials (.bearer token))

/-- Go on with a value or end the run with an error in the use of the command. -/
def orMisuse {α : Type} : Except UsageError α → Step α
  | .ok value => return value
  | .error error => misuse error

/-- Ask the service for its schema. -/
def fetchSchema (reply : Reply) (url : String) (invocation : Invocation) : Step RawText := do
  let credentials ← orMisuse (credentialsOf invocation)
  let attempt := Service.attempt url credentials reply
  modify fun transcript => { transcript with attempt := some attempt }
  match attempt.outcome with
  | .ok text => return text
  | .error error =>
    match error with
    | .unreachable _ | .status .. | .reported .. | .noSchema _ =>
      throw (.told (s!"Could not fetch SDL from {url}: " ++ error.message))
    | .notAscii | .badUrl _ | .badHost _ | .noHost _ | .notText | .notJson _ | .misshapen _
    | .messageNotText .. => throw (.unfetched error)

/-- Go on with what was read, or say why it could not be read and end the run. -/
def orReadFailure {α : Type} (reader : SchemaReader) : Except ReadError α → Step α
  | .ok value => return value
  | .error error => do
    notify (error.notice reader.currentFile)
    match error with
    | .notText _ => throw (.unreadable error)
    | .syntaxError .. | .schemaError _ => throw (.told error.message)

/-- The schema of a source. -/
def readSource (surroundings : Surroundings) (invocation : Invocation) :
    Source → Step Schema
  | .files text => do
    let path := Path.resolve surroundings.workingDirectory text
    let (reader, schema) := SchemaReader.readAll {} surroundings.tree
      (Federation.schemaFiles surroundings.tree path)
    orReadFailure reader schema
  | .endpoint url => do
    let document ← fetchSchema surroundings.reply url invocation
    let (reader, error) := SchemaReader.readDocument {} url document
    match error with
    | some error => orReadFailure reader (.error error)
    | none => orReadFailure reader reader.build.2

/-! ## Settings -/

/-- The failure of a run whose settings cannot be read. Nothing is said about settings that
are too deep. -/
def Failure.ofSettings (error : SettingsError) : Failure :=
  match error with
  | .notJson ⟨.tooDeep _, _⟩ _ => .unsettled error
  | _ => .usage .generate (.invalidValue "--config" error.message)

/-- The settings that the file of an invocation gives. -/
def fileSettings (surroundings : Surroundings) (text : String) : Except Failure Settings :=
  match surroundings.tree.readText (Path.resolve surroundings.workingDirectory text) with
  | .error error => throw (.usage .generate (.invalidValue "--config" error.message))
  | .ok content => (Settings.ofText content).mapError .ofSettings

/-- The settings of an invocation: those of its file, and the flag on top. -/
def settingsOf (surroundings : Surroundings) (invocation : Invocation) :
    Except Failure Settings := do
  let settings ← match nonEmpty invocation.config with
    | none => pure {}
    | some text => fileSettings surroundings text
  return { settings with
    internalEnumValues := settings.internalEnumValues || invocation.internalEnumValues }

/-! ## Output -/

/-- The most bytes of a name. -/
def maxNameBytes : Nat := 255

/-- The most bytes of a path. -/
def maxPathBytes : Nat := 4095

/-- Make the directories with the given names below a path, each in the one before it.
Those that were made in front of an obstacle stay. -/
def makeDirectories (tree : FileTree) (above : Path) :
    List String → Except FailedWrite FileTree
  | [] => return tree
  | name :: rest =>
    let path := above ++ [name]
    if maxNameBytes < name.utf8ByteSize then throw ⟨.tooLong, tree⟩
    else if tree.isFile path then
      throw ⟨if rest.isEmpty then .fileInTheWay else .fileFurtherUp, tree⟩
    else if tree.isDirectory path then makeDirectories tree path rest
    else makeDirectories (tree.put path .directory) path rest

/-- Open a file to write it anew: from then on it is there and holds nothing. -/
def openEmpty (tree : FileTree) (path : Path) : Except FailedWrite FileTree :=
  if maxPathBytes < path.text.utf8ByteSize ∨ maxNameBytes < path.baseName.utf8ByteSize then
    throw ⟨.tooLong, tree⟩
  else if tree.isDirectory path then throw ⟨.isDirectory, tree⟩
  else return tree.put path (.file [])

/-- Open the output file, with the directories that it needs. -/
def openOutput (tree : FileTree) (path : Path) : Except FailedWrite FileTree :=
  if maxPathBytes < (Path.text path.dropLast).utf8ByteSize then throw ⟨.tooLong, tree⟩
  else do
    let ready ← makeDirectories tree [] path.dropLast
    openEmpty ready path

/-- Write the output file. It is opened before it turns out whether its text has bytes. -/
def writeOutput (tree : FileTree) (path : Path) (text : RawText) :
    Except FailedWrite FileTree := do
  let opened ← openOutput tree path
  match Text.Utf8.encode? text with
  | none => throw ⟨.surrogate, opened⟩
  | some bytes => return opened.put path (.file bytes)

/-- The sizes of a schema, one to a line. -/
def sizes (schema : Schema) : List String :=
  [s!"  Objects: {schema.objects.length}", s!"  Entities: {schema.entities.length}",
    s!"  Enums: {schema.enums.length}", s!"  Scalars: {schema.scalars.length}"]

/-- Say lines if the invocation asks for many words. -/
def sayMore (invocation : Invocation) (lines : List String) : Step Unit :=
  if invocation.verbose then lines.forM say else return ()

/-- Do what an invocation asks for; the result is the files afterwards. -/
def generate (surroundings : Surroundings) (invocation : Invocation) : Step FileTree := do
  let source ← orMisuse (sourceOf invocation)
  let settings ← liftExcept (settingsOf surroundings invocation)
  let path := Path.resolve surroundings.workingDirectory invocation.output
  sayMore invocation
    [s!"Source: {source.text}", s!"Output: {path.text}", s!"Options: {settings.inline}"]
  say "Parsing schema..."
  let schema ← readSource surroundings invocation source
  let schema := schema.filter { excludePrefix := invocation.excludePrefix }
  sayMore invocation (sizes schema)
  say "Generating declarations..."
  match TypeScript.generate settings schema with
  | .error error => throw (.told error.message)
  | .ok text =>
    match writeOutput surroundings.tree path text with
    | .error write => throw (.unwritten write)
    | .ok tree =>
      say s!"Done! Generated declarations in {path.text}"
      return tree

/-! ## Outcomes -/

/-- How a run ended. -/
structure Outcome where
  exitCode : Nat
  transcript : Transcript
  /-- The files afterwards. -/
  tree : FileTree
  /-- The failure that was not told, if there was one. -/
  untold : Option Failure := none
  deriving Inhabited

/-- The exit code of a failure. -/
def Failure.exitCode : Failure → Nat
  | .usage .. => 2
  | _ => 1

/-- What is said about a failure at the end. -/
def Failure.report : Failure → String
  | .usage scope error =>
    let usage := if error.showsUsage then scope.usage else ""
    usage ++ (Text.plain s!"Error: {error.message}\n").shown
  | .told message => (Text.plain ("Error: " ++ message ++ "\n")).shown
  | .notPath _ | .unsettled _ | .unreadable _ | .unfetched _ | .unwritten _ => ""

/-- Whether nothing is said about a failure. -/
def Failure.isUntold : Failure → Bool
  | .usage .. | .told _ => false
  | .notPath _ | .unsettled _ | .unreadable _ | .unfetched _ | .unwritten _ => true

/-- The files after a failure, given those before: only a failed attempt to write them
changes any. -/
def Failure.left (tree : FileTree) : Failure → FileTree
  | .unwritten write => write.left
  | .usage .. | .told _ | .notPath _ | .unsettled _ | .unreadable _ | .unfetched _ => tree

/-- The outcome of a failure. -/
def Outcome.ofFailure (tree : FileTree) (transcript : Transcript) (failure : Failure) :
    Outcome where
  exitCode := failure.exitCode
  transcript := { transcript with notices := transcript.notices ++ failure.report }
  tree := failure.left tree
  untold := if failure.isUntold then some failure else none

/-- The version of the program. -/
def versionLine : String := "main, version 0.1.0\n"

/-- The failure of a run whose arguments are not taken. -/
def Failure.ofRefusal : Scope × Refusal → Failure
  | (scope, .misuse error) => .usage scope error
  | (_, .notPath error) => .notPath error

/-- Run a command line. -/
def run (surroundings : Surroundings) (arguments : List String) : Outcome :=
  let tree := surroundings.tree
  match readRequest tree surroundings.workingDirectory arguments with
  | .error refusal => .ofFailure tree {} (.ofRefusal refusal)
  | .ok .version => { exitCode := 0, transcript := { output := versionLine }, tree }
  | .ok (.help scope) => { exitCode := 0, transcript := { output := scope.usage }, tree }
  | .ok (.generate invocation) =>
    match (generate surroundings invocation).run {} with
    | (.ok tree, transcript) => { exitCode := 0, transcript, tree }
    | (.error failure, transcript) => .ofFailure tree transcript failure

end ResolverTypings.Command
