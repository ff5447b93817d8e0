import ResolverTypings.Text.Quoted
import ResolverTypings.Text.Similarity

/-!
# Options of a command line

An option has a long name and perhaps a short one of one letter. Its value follows as
the next argument, behind an equals sign, or right behind the letter; letters of flags
may be bundled. What is no option is left over, and two dashes end the options.
-/
namespace ResolverTypings.Command

/-- An option that a command knows. -/
structure OptionSpec where
  long : String
  short : Option Char := none
  takesValue : Bool := true
  deriving Repr, DecidableEq, Inhabited

/-- An option as given, with its value if it takes one. -/
structure GivenOption where
  long : String
  value : Option String
  deriving Repr, DecidableEq, Inhabited

/-- What is wrong with the arguments of a command. -/
inductive UsageError where
  | noSuchOption (name : String) (close : List String)
  | missingArgument (name : String)
  | needlessValue (name : String)
  | missingOption (hint : String)
  /-- A value that does not do, with what to call the option. -/
  | invalidValue (hint reason : String)
  | extraArguments (arguments : List String)
  | noSuchCommand (name : String) (close : List String)
  | missingCommand
  | notOneSource
  deriving Repr, DecidableEq, Inhabited

/-- The question whether a name was meant that is close to one that does not exist. -/
def suggestion (close : List String) : String :=
  match close with
  | [] => ""
  | [name] => s!" Did you mean {Text.quoted name}?"
  | names =>
    let sorted := names.mergeSort fun a b => !decide (b < a)
    let list := String.intercalate ", " (sorted.map fun word : String => Text.quoted word)
    s!" (Did you mean one of: {list}?)"

/-- The message of an error. -/
def UsageError.message : UsageError → String
  | .noSuchOption name close => s!"No such option {Text.quoted name}.{suggestion close}"
  | .missingArgument name => s!"Option {Text.quoted name} requires an argument."
  | .needlessValue name => s!"Option {Text.quoted name} does not take a value."
  | .missingOption hint => s!"Missing option {hint}."
  | .invalidValue hint reason => s!"Invalid value for {hint}: {reason}"
  | .extraArguments arguments =>
    let plural := if arguments.length = 1 then "" else "s"
    let list := String.intercalate " " arguments
    s!"Got unexpected extra argument{plural} ({list})"
  | .noSuchCommand name close => s!"No such command {Text.quoted name}.{suggestion close}"
  | .missingCommand => "Missing command."
  | .notOneSource => "Pass exactly one of --schema or --endpoint."

/-- Whether the usage of the command is shown with an error. Errors in the form of a
single option stand alone. -/
def UsageError.showsUsage : UsageError → Bool
  | .missingArgument _ | .needlessValue _ => false
  | _ => true

/-- What a single argument gives: options, and an option whose value is the next
argument, under the name by which it was called. -/
structure ArgumentReading where
  given : List GivenOption
  pending : Option (OptionSpec × String) := none
  deriving Repr, DecidableEq, Inhabited

/-- A text cut at its first equals sign. -/
def splitAtEquals : List Char → List Char × Option (List Char)
  | [] => ([], none)
  | c :: cs =>
    if c = '=' then ([], some cs)
    else
      let (before, behind) := splitAtEquals cs
      (c :: before, behind)

/-- Read an argument that starts with two dashes. -/
def readLong (specs : List OptionSpec) (name : String) (value : Option String) :
    Except UsageError ArgumentReading :=
  match specs.find? (·.long == name) with
  | none => throw (.noSuchOption name (Text.closeWords name (specs.map (·.long))))
  | some spec =>
    match spec.takesValue, value with
    | true, some _ => return { given := [⟨spec.long, value⟩] }
    | true, none => return { given := [], pending := some (spec, name) }
    | false, some _ => throw (.needlessValue name)
    | false, none => return { given := [⟨spec.long, none⟩] }

/-- Read the letters behind a single dash. -/
def readLetters (specs : List OptionSpec) : List Char → Except UsageError ArgumentReading
  | [] => return { given := [] }
  | c :: cs =>
    let name := String.ofList ['-', c]
    match specs.find? (·.short == some c) with
    | none => throw (.noSuchOption name [])
    | some spec =>
      if spec.takesValue then
        if cs.isEmpty then return { given := [], pending := some (spec, name) }
        else return { given := [⟨spec.long, some (String.ofList cs)⟩] }
      else do
        let rest ← readLetters specs cs
        return { rest with given := ⟨spec.long, none⟩ :: rest.given }

/-- Read an argument that starts with a dash. -/
def readOption (specs : List OptionSpec) (argument : String) :
    Except UsageError ArgumentReading :=
  match argument.toList with
  | '-' :: '-' :: _ =>
    let (name, value) := splitAtEquals argument.toList
    readLong specs (String.ofList name) (value.map String.ofList)
  | cs => readLetters specs (cs.drop 1)

/-- Whether an argument is to be read as an option: a dash with something behind it. -/
def isOption (argument : String) : Bool :=
  match argument.toList with
  | '-' :: _ :: _ => true
  | _ => false

/-- The options that arguments give and the arguments left over, while the value of an
option may be pending. If options must come first, everything from the first other
argument on is left over. -/
def readOptionsFrom (specs : List OptionSpec) (optionsFirst : Bool) :
    Option (OptionSpec × String) → List String →
      Except UsageError (List GivenOption × List String)
  | some (_, name), [] => throw (.missingArgument name)
  | some (spec, _), value :: rest => do
    let (given, left) ← readOptionsFrom specs optionsFirst none rest
    return (⟨spec.long, some value⟩ :: given, left)
  | none, [] => return ([], [])
  | none, argument :: rest =>
    if argument = "--" then return ([], rest)
    else if isOption argument then do
      let reading ← readOption specs argument
      let (given, left) ← readOptionsFrom specs optionsFirst reading.pending rest
      return (reading.given ++ given, left)
    else if optionsFirst then return ([], argument :: rest)
    else do
      let (given, left) ← readOptionsFrom specs optionsFirst none rest
      return (given, argument :: left)

/-- The options that arguments give and the arguments left over. -/
def readOptions (specs : List OptionSpec) (optionsFirst : Bool) (arguments : List String) :
    Except UsageError (List GivenOption × List String) :=
  readOptionsFrom specs optionsFirst none arguments

/-- The last value given for an option. -/
def lastValue (given : List GivenOption) (long : String) : Option String :=
  (given.filter (·.long == long)).getLast?.bind (·.value)

/-- All values given for an option, in order. -/
def allValues (given : List GivenOption) (long : String) : List String :=
  (given.filter (·.long == long)).filterMap (·.value)

/-- Whether an option is given. -/
def isGiven (given : List GivenOption) (long : String) : Bool :=
  given.any (·.long == long)

end ResolverTypings.Command
