import ResolverTypings.Command.Option
import ResolverTypings.FileTree

/-!
# Invocations

What the command line asks for. Options are checked in the order in which they were
first given, then the missing ones, and then whether anything is left over.
-/
namespace ResolverTypings.Command

/-- Whether the command line as a whole or its only command is concerned. -/
inductive Scope where
  | main
  | generate
  deriving Repr, DecidableEq, Inhabited

/-- How a scope is used. -/
def Scope.usage : Scope → String
  | .main => "Usage: main [OPTIONS] COMMAND [ARGS]...\nTry 'main --help' for help.\n\n"
  | .generate => "Usage: main generate [OPTIONS]\nTry 'main generate --help' for help.\n\n"

/-- The options of the command line as a whole. -/
def mainSpecs : List OptionSpec :=
  [{ long := "--version", takesValue := false }, { long := "--help", takesValue := false }]

/-- The options of the command. -/
def generateSpecs : List OptionSpec :=
  [{ long := "--schema", short := some 's' }, { long := "--endpoint", short := some 'e' },
    { long := "--output", short := some 'o' }, { long := "--config", short := some 'c' },
    { long := "--internal-enum-values", takesValue := false }, { long := "--exclude-prefix" },
    { long := "--bearer-token" }, { long := "--header", short := some 'H' },
    { long := "--verbose", short := some 'v', takesValue := false },
    { long := "--help", takesValue := false }]

/-- What the command is asked to do. -/
structure Invocation where
  schema : Option String
  endpoint : Option String
  output : String
  config : Option String
  internalEnumValues : Bool
  excludePrefix : Option String
  bearerToken : Option String
  headers : List String
  verbose : Bool
  deriving Repr, DecidableEq, Inhabited

/-- What a command line asks for. -/
inductive Request where
  | help (scope : Scope)
  | version
  | generate (invocation : Invocation)
  deriving Repr, DecidableEq, Inhabited

/-- Why arguments are not taken. -/
inductive Refusal where
  | misuse (error : UsageError)
  /-- What is given for a path is none. -/
  | notPath (error : PathError)
  deriving Repr, DecidableEq, Inhabited

/-- Refuse the value of an option that names nothing. -/
def requireExisting (hint noun text : String) (found : Option Entry) : Except Refusal Unit :=
  match found with
  | none => throw (.misuse (.invalidValue hint s!"{noun} {Text.quoted text} does not exist."))
  | some _ => return ()

/-- Refuse the value of an option that names a directory. -/
def refuseDirectory (hint text : String) (found : Option Entry) : Except Refusal Unit :=
  if found = some .directory then
    throw (.misuse (.invalidValue hint s!"File {Text.quoted text} is a directory."))
  else return ()

/-- The options whose values are paths. -/
def pathOptions : List String := ["--schema", "--output", "--config"]

/-- Check the value of an option against the files that are there. -/
def checkValue (tree : FileTree) (base : Path) (long text : String) : Except Refusal Unit := do
  if pathOptions.contains long then (Path.check text).mapError .notPath
  let found := tree.lookUp base text
  match long with
  | "--schema" => requireExisting "'--schema' / '-s'" "Path" text found
  | "--output" => refuseDirectory "'--output' / '-o'" text found
  | "--config" => do
    requireExisting "'--config' / '-c'" "File" text found
    refuseDirectory "'--config' / '-c'" text found
  | _ => return ()

/-- The options given, each once and at its first place. -/
def distinctOptions (given : List GivenOption) : List String :=
  given.foldl (fun names option =>
    if names.contains option.long then names else names ++ [option.long]) []

/-- Check the values that count, in the order in which their options were first given. -/
def checkValues (tree : FileTree) (base : Path) (given : List GivenOption) :
    List String → Except Refusal Unit
  | [] => return ()
  | long :: rest => do
    if let some text := lastValue given long then checkValue tree base long text
    checkValues tree base given rest

/-- What the arguments of the command ask for. -/
def readGenerate (tree : FileTree) (base : Path) (arguments : List String) :
    Except Refusal Request := do
  let (given, left) ← (readOptions generateSpecs false arguments).mapError .misuse
  if isGiven given "--help" then return .help .generate
  checkValues tree base given (distinctOptions given)
  match lastValue given "--output" with
  | none => throw (.misuse (.missingOption "'--output' / '-o'"))
  | some output =>
    if left.isEmpty then
      return .generate {
        schema := lastValue given "--schema"
        endpoint := lastValue given "--endpoint"
        output
        config := lastValue given "--config"
        internalEnumValues := isGiven given "--internal-enum-values"
        excludePrefix := lastValue given "--exclude-prefix"
        bearerToken := lastValue given "--bearer-token"
        headers := allValues given "--header"
        verbose := isGiven given "--verbose" }
    else throw (.misuse (.extraArguments left))

/-- The values that the arguments of a command line give for an option of the command,
before any check. -/
def valuesGiven (long : String) (arguments : List String) : List String :=
  let given : Except UsageError (List GivenOption) := do
    let (_, left) ← readOptions mainSpecs true arguments
    return (← readOptions generateSpecs false (left.drop 1)).1
  match given with
  | .ok options => allValues options long
  | .error _ => []

/-- The commands. -/
def commands : List String := ["generate"]

/-- What options of the command line as a whole ask for: the first of them counts. -/
def mainRequest? (given : List GivenOption) : Option Request :=
  match (distinctOptions given).head? with
  | some "--version" => some .version
  | some _ => some (.help .main)
  | none => none

/-- What arguments ask for whose first one is no command. It may be an option that stands
behind two dashes, so they are looked at once more. -/
def readNoCommand (command : String) (rest : List String) : Except UsageError Request := do
  let (given, _) ← readOptions mainSpecs true (command :: rest)
  match mainRequest? given with
  | some request => return request
  | none => throw (.noSuchCommand command (Text.closeWords command commands))

/-- What the arguments of the command line ask for; a refusal comes with the scope that it
is about. -/
def readRequest (tree : FileTree) (base : Path) (arguments : List String) :
    Except (Scope × Refusal) Request := do
  let misuse (error : UsageError) : Scope × Refusal := (.main, .misuse error)
  let (given, left) ← (readOptions mainSpecs true arguments).mapError misuse
  match mainRequest? given, left with
  | some request, _ => return request
  | none, [] => if arguments.isEmpty then return .help .main else throw (misuse .missingCommand)
  | none, command :: rest =>
    if commands.contains command then
      (readGenerate tree base rest).mapError fun refusal => (.generate, refusal)
    else (readNoCommand command rest).mapError misuse

end ResolverTypings.Command
