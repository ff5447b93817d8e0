import ResolverTypings.Graphql.Lexer
import ResolverTypings.Graphql.Parser.Selection
import ResolverTypings.Graphql.Parser.TypeSystem

/-!
# Documents

A document is read as the list of its definitions, of which there is at least one. The
first word of a definition decides what is defined, behind a description as well.
-/
namespace ResolverTypings.Graphql

/-- An extension, from its first word on. -/
def extension : Parser Definition := do
  let rest ← get
  match ← peekNext with
  | .name word =>
    match typeBody? true none word with
    | some body =>
      advance
      advance
      body
    | none => throw ⟨.unexpected (.name word), rest.length - 1⟩
  | found => throw ⟨.unexpected found, rest.length - 1⟩

/-- The definition whose first word, behind its description, is given. -/
def definitionOf (described : Bool) (word : String) : Parser Definition := do
  match typeBody? false none word with
  | some _ =>
    let description ← description?
    advance
    (typeBody? false description word).getD unexpectedHere
  | none =>
    if operationKinds.contains word then operation
    else if word = "fragment" then fragmentDefinition
    else if described then failHere .descriptionOfUnknown
    else if word = "extend" then extension
    else unexpectedHere

/-- One definition. Behind a description the next token decides what is defined. -/
def definition : Parser Definition := do
  match ← current with
  | .punctuator .braceLeft => return .operation (← selectionSet)
  | .name word => definitionOf false word
  | .string _ | .blockString _ =>
    match ← peekNext with
    | .punctuator .braceLeft => failHere .descriptionOfQuery
    | .name word => definitionOf true word
    | found => throw ⟨.unexpected found, (← get).length - 1⟩
  | _ => unexpectedHere

/-- The definitions of a document, of which there is at least one. -/
def definitions : Parser (List Definition) := do
  moveTo (← get)
  manyUntil .endOfInput definition

/-- The definitions that a list of tokens holds. -/
def parseTokens (tokens : List Token) : Except Failure (List Definition) :=
  definitions.run' tokens

/-- The definitions of a document. -/
def parseDocument (document : Text.RawText) : Except SyntaxError (List Definition) :=
  let read := lexemes document
  match parseTokens (read.map (·.token)) with
  | .ok found => .ok found
  | .error failure =>
    let lexeme := read.getD (read.length - failure.left) ⟨.endOfInput, document.length⟩
    .error ⟨failure.fault, lexeme.offset⟩

end ResolverTypings.Graphql
