import ResolverTypings.Graphql.Parser.Value

/-!
# Selection sets and operations

What a query selects, and the operations and fragments that hold selection sets. The
room that a selection set leaves is that of the values of its arguments as well.
-/
namespace ResolverTypings.Graphql

open Text (RawText)

/-- A name that may stand for a fragment, which the word of type conditions may not. -/
def fragmentName : Parser String := do
  if (← current).value? = some (RawText.ofString "on") then unexpectedHere else name

/-- A fragment inside a selection set. -/
def fragment (room : Nat) (nested : Parser (List Selection)) : Parser Selection := do
  expectMark .spread
  let hasCondition ← skip? (.name "on")
  match hasCondition, ← current with
  | false, .name _ =>
    let _ ← fragmentName
    let _ ← directivesAt room false
    return .fragmentSpread
  | _, _ =>
    if hasCondition then
      let _ ← name
    let _ ← directivesAt room false
    let _ ← nested
    return .inlineFragment

/-- A field inside a selection set; its name is what stands behind an alias. -/
def selectedField (room : Nat) (nested : Parser (List Selection)) : Parser Selection := do
  let first ← name
  let key ← if ← skip? (.punctuator .colon) then name else pure first
  let _ ← argumentsAt room false
  let _ ← directivesAt room false
  return .field key (← if ← atMark .braceLeft then nested else pure [])

/-- A selection with some room in it, given how its nested selections are read. -/
def selection (room : Nat) (nested : Parser (List Selection)) : Parser Selection := do
  if ← atMark .spread then fragment room nested else selectedField room nested

/-- A selection set for which there is some room. -/
def selectionSetAt : (room : Nat) → Parser (List Selection)
  | 0 => failHere .tooDeep
  | room + 1 => manyIn .braceLeft .braceRight (selection room (selectionSetAt room))

/-- A selection set. -/
def selectionSet : Parser (List Selection) :=
  selectionSetAt maxDepth

/-- The declaration of a variable of an operation. -/
def variableDeclaration : Parser Unit := do
  let _ ← description?
  variableIn false
  expectMark .colon
  let _ ← typeRef
  if ← skip? (.punctuator .equals) then
    let _ ← value true
  let _ ← directives true

/-- An operation that is not just a selection set. -/
def operation : Parser Definition := do
  let _ ← description?
  operationKind
  if let .name _ ← current then
    let _ ← name
  let _ ← optionalIn .parenLeft .parenRight variableDeclaration
  let _ ← directives false
  return .operation (← selectionSet)

/-- The definition of a fragment. -/
def fragmentDefinition : Parser Definition := do
  let _ ← description?
  expectKeyword "fragment"
  let _ ← fragmentName
  expectKeyword "on"
  let _ ← name
  let _ ← directives false
  let _ ← selectionSet
  return .other

end ResolverTypings.Graphql
