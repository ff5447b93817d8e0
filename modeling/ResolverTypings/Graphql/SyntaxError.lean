import ResolverTypings.Graphql.Token
import ResolverTypings.Text.Digit
import ResolverTypings.Text.Lines

/-!
# Syntax errors

A syntax error is a fault at an offset of a document. Its report adds an excerpt: the
line of the fault between its neighbours, with a mark under the column.
-/
namespace ResolverTypings.Graphql

open Text (CodePoint RawText)

/-- What the grammar asks for. -/
inductive Expectation where
  | name
  | punctuator (mark : Punctuator)
  | keyword (word : String)
  deriving Repr, DecidableEq, Inhabited

/-- What can be wrong with a document. -/
inductive SyntaxFault where
  | lexical (fault : LexicalFault)
  | expected (what : Expectation) (found : Token)
  | unexpected (found : Token)
  | descriptionOfQuery
  | descriptionOfUnknown
  | reservedEnumValue (found : Token)
  | variableInConstant (name : String)
  /-- Lists, objects and selection sets stand too deeply in one another. -/
  | tooDeep
  deriving Repr, DecidableEq, Inhabited

/-- A fault with the offset of the code point or token at which it was noticed. -/
structure SyntaxError where
  fault : SyntaxFault
  offset : Nat
  deriving Repr, DecidableEq, Inhabited

/-! ## Messages -/

/-- An expectation as messages show it. -/
def Expectation.describe : Expectation → String
  | .name => "Name"
  | .punctuator mark => "'" ++ mark.text ++ "'"
  | .keyword word => "'" ++ word ++ "'"

/-- The number of a code point as messages show it. -/
def shownNumber (point : CodePoint) : String :=
  "U+" ++ String.ofList ((Text.hexDigits 4 point.toNat).map Char.toUpper)

/-- A code point as messages show it: itself if it is printable ASCII, else its number. -/
def shownPoint : CodePoint → String
  | .char c =>
    if 32 ≤ c.toNat ∧ c.toNat ≤ 126 then String.ofList ['\'', c, '\'']
    else shownNumber (.char c)
  | point => shownNumber point

/-- The message of a lexical fault. -/
def LexicalFault.message : LexicalFault → RawText
  | .unexpectedCharacter found => s!"Unexpected character: {shownPoint found}."
  | .notCharacter found false => s!"Invalid character: {shownPoint found}."
  | .notCharacter found true => s!"Invalid character within String: {shownPoint found}."
  | .singleQuote =>
    "Unexpected single quote character ('), did you mean to use a double quote (\")?"
  | .unterminatedString => "Unterminated string."
  | .characterEscape shown => "Invalid character escape sequence: '" ++ shown ++ "'."
  | .unicodeEscape shown => "Invalid Unicode escape sequence: '" ++ shown ++ "'."
  | .digitAfterZero c => s!"Invalid number, unexpected digit after 0: {shownPoint (.char c)}."
  | .expectedDigit (some found) =>
    s!"Invalid number, expected digit but got: {shownPoint found}."
  | .expectedDigit none => "Invalid number, expected digit but got: <EOF>."

/-- The message of a fault. -/
def SyntaxFault.message : SyntaxFault → RawText
  | .lexical fault => fault.message
  | .expected what found =>
    "Expected " ++ what.describe ++ ", found " ++ found.describe ++ "."
  | .unexpected found => "Unexpected " ++ found.describe ++ "."
  | .descriptionOfQuery =>
    "Unexpected description, descriptions are not supported on shorthand queries."
  | .descriptionOfUnknown =>
    "Unexpected description, only GraphQL definitions support descriptions."
  | .reservedEnumValue found =>
    found.describe ++ " is reserved and cannot be used for an enum value."
  | .variableInConstant name => s!"Unexpected variable '${name}' in constant value."
  | .tooDeep => "Document is nested too deeply. Parsing aborted."

/-- The message of an error. -/
def SyntaxError.message (error : SyntaxError) : RawText :=
  "Syntax Error: " ++ error.fault.message

/-! ## Excerpts -/

/-- Text moved to the right end of a field of a given width. -/
def justifyRight (width : Nat) (s : String) : String :=
  String.ofList (List.replicate (width - s.length) ' ') ++ s

/-- Lines with a prefix each, the prefixes brought to one width. -/
def layoutExcerpt (rows : List (String × RawText)) : RawText :=
  let width := (rows.map (·.1.length)).foldl max 0
  let row (entry : String × RawText) : RawText :=
    let space := if entry.2.isEmpty then "" else " "
    justifyRight width entry.1 ++ space ++ entry.2
  RawText.intercalate "\n" (rows.map row)

/-- A text cut into pieces of a length. -/
def pieces (length : Nat) (text : RawText) : List RawText :=
  (List.range ((text.length + length - 1) / length)).map fun i =>
    (text.drop (i * length)).take length

/-- The longest line that is shown in one row. -/
def maxLineLength : Nat := 120

/-- The length of the pieces of a longer line. -/
def pieceLength : Nat := 80

/-- The rows for a line that is too long for one row. -/
def longLineRows (line : RawText) (place : Text.Position) : List (String × RawText) :=
  let parts := pieces pieceLength line
  let index := place.column / pieceLength
  let before := ((parts.drop 1).take index).map fun part => ("|", part)
  let mark := ("|", RawText.ofString (justifyRight (place.column % pieceLength) "^"))
  let after := ((parts.drop (index + 1)).take 1).map fun part => ("|", part)
  (s!"{place.line} |", parts.headD []) :: before ++ [mark] ++ after

/-- The rows for a line with its neighbours. -/
def shortLineRows (all : List RawText) (line : RawText) (place : Text.Position) :
    List (String × RawText) :=
  let row (number : Nat) (found : Option RawText) : List (String × RawText) :=
    found.toList.map fun text => (s!"{number} |", text)
  let previous := if 2 ≤ place.line then all[place.line - 2]? else none
  row (place.line - 1) previous ++ row place.line (some line) ++
    [("|", RawText.ofString (justifyRight place.column "^"))] ++ row (place.line + 1) all[place.line]?

/-- The place of a document that an error points to, with the lines around it. -/
def SyntaxError.excerpt (error : SyntaxError) (document : RawText) : RawText :=
  let place := Text.positionAt document error.offset
  let all := Text.lines document
  let line := all.getD (place.line - 1) []
  let rows :=
    if maxLineLength < line.length then longLineRows line place
    else shortLineRows all line place
  s!"GraphQL request:{place.line}:{place.column}\n" ++ layoutExcerpt rows

/-- The message of an error with its excerpt. -/
def SyntaxError.report (error : SyntaxError) (document : RawText) : RawText :=
  error.message ++ "\n\n" ++ error.excerpt document

end ResolverTypings.Graphql
