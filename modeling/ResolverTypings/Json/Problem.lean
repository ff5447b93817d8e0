import ResolverTypings.Json.Printer

/-!
# Problems with the shape of JSON

When a value does not have the shape that a reader asks for, all problems are listed,
each with the path to the place it is about and the value found there.
-/
namespace ResolverTypings.Json

/-- What is wrong at a place. -/
inductive ProblemKind where
  /-- An object of the named kind is asked for. -/
  | notModel (model : String)
  | missingField
  | notString
  /-- A name or a string holds a surrogate that stands alone. -/
  | notUnicode
  | notList
  | notObject
  /-- An integer or a text that stands for no truth value. -/
  | unreadableBool
  | notBool
  | extraField
  /-- The value cannot be changed any more. -/
  | frozen
  deriving Repr, DecidableEq, Inhabited

/-- The short name of a kind of problem. -/
def ProblemKind.tag : ProblemKind → String
  | .notModel _ => "model_type"
  | .missingField => "missing"
  | .notString => "string_type"
  | .notUnicode => "string_unicode"
  | .notList => "list_type"
  | .notObject => "dict_type"
  | .unreadableBool => "bool_parsing"
  | .notBool => "bool_type"
  | .extraField => "extra_forbidden"
  | .frozen => "frozen_instance"

/-- The message of a kind of problem. -/
def ProblemKind.message : ProblemKind → String
  | .notModel model => s!"Input should be a valid dictionary or instance of {model}"
  | .missingField => "Field required"
  | .notString => "Input should be a valid string"
  | .notUnicode => "Input should be a valid string, unable to parse raw data as a unicode string"
  | .notList => "Input should be a valid list"
  | .notObject => "Input should be a valid dictionary"
  | .unreadableBool => "Input should be a valid boolean, unable to interpret input"
  | .notBool => "Input should be a valid boolean"
  | .extraField => "Extra inputs are not permitted"
  | .frozen => "Instance is frozen"

/-- A problem at a place. -/
structure Problem where
  place : List String
  kind : ProblemKind
  found : Json
  deriving Repr, Inhabited

/-- What the type of a value is called in messages. -/
def typeName : Json → String
  | .null => "NoneType"
  | .bool _ => "bool"
  | .int _ => "int"
  | .float _ => "float"
  | .str _ => "str"
  | .arr _ => "list"
  | .obj _ => "dict"

/-- The longest beginning of a text that fits into a number of bytes. -/
def fittingFront : (room : Nat) → List Char → List Char
  | _, [] => []
  | room, c :: cs => if c.utf8Size ≤ room then c :: fittingFront (room - c.utf8Size) cs else []

/-- A shown value that takes more than fifty bytes has its middle left out: at most 25
bytes stay in front and at most 24 behind. -/
def shortened (shown : String) : String :=
  if shown.utf8ByteSize ≤ 50 then shown
  else
    let cs := shown.toList
    String.ofList (fittingFront 25 cs) ++ "..." ++
      String.ofList (fittingFront 24 cs.reverse).reverse

namespace Problem

/-- The place of a problem as a text. -/
def location (problem : Problem) : String :=
  String.intercalate "." problem.place

/-- A problem in one line. -/
def line (problem : Problem) : String :=
  s!"{problem.location}: {problem.kind.tag}: {problem.kind.message}"

/-- A name on the way to a place, set off if it holds a point. -/
def shownStep (name : String) : String :=
  if name.toList.contains '.' then "\x60" ++ name ++ "\x60" else name

/-- A problem with the value found, below the line of its place if it has one. -/
def detail (problem : Problem) : String :=
  let place :=
    if problem.place.isEmpty then ""
    else String.intercalate "." (problem.place.map shownStep) ++ "\n"
  place ++ s!"  {problem.kind.message} [type={problem.kind.tag}, " ++
    s!"input_value={shortened problem.found.inline}, input_type={problem.found.typeName}]"

end Problem

/-- Problems, one to a line. -/
def problemLines (problems : List Problem) : String :=
  String.intercalate "\n" (problems.map Problem.line)

/-- A report of the problems with a value of the named kind. -/
def problemReport (model : String) (problems : List Problem) : String :=
  let plural := if problems.length = 1 then "" else "s"
  String.intercalate "\n"
    (s!"{problems.length} validation error{plural} for {model}" :: problems.map Problem.detail)

end ResolverTypings.Json
