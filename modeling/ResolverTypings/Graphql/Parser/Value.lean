import ResolverTypings.Graphql.Parser.Basic
import ResolverTypings.Graphql.Syntax

/-!
# Types, values and directives

The parts that operations and type definitions share, descriptions and the words for
the kinds of operations among them. Lists, objects and selection sets stand in one
another to a greatest depth. A parser of such a part is given the room that is left for
further ones, on which it recurses.
-/
namespace ResolverTypings.Graphql

open Text (RawText)

/-- How deeply lists, objects and selection sets may stand in one another. -/
def maxDepth : Nat := 200

/-! ## Types -/

/-- A type, given how the item of a list is read. -/
def typeRefWith (item : Parser TypeRef) : Parser TypeRef := do
  let base ←
    if ← skip? (.punctuator .bracketLeft) then
      let inner ← item
      expectMark .bracketRight
      pure (TypeRef.list inner)
    else
      pure (TypeRef.named (← name))
  if ← skip? (.punctuator .bang) then return .nonNull base else return base

/-- A type with room for lists. -/
def typeRefAt : (room : Nat) → Parser TypeRef
  | 0 => typeRefWith (failHere .tooDeep)
  | room + 1 => typeRefWith (typeRefAt room)

/-- A type. -/
def typeRef : Parser TypeRef :=
  typeRefAt maxDepth

/-! ## Values -/

/-- A variable; a constant value must not hold one. -/
def variableIn (isConstant : Bool) : Parser Unit := do
  let start ← get
  expectMark .dollar
  if isConstant then
    match ← current with
    | .name s => throw ⟨.variableInConstant s, start.length⟩
    | _ => throw ⟨.unexpected (.punctuator .dollar), start.length⟩
  else
    let _ ← name

/-- A value that holds no other; of a string the value is kept. -/
def flatValue (isConstant : Bool) : Parser (Option RawText) := do
  match ← current with
  | .string text | .blockString text =>
    advance
    return some text
  | .int _ | .float _ | .name _ =>
    advance
    return none
  | .punctuator .dollar =>
    variableIn isConstant
    return none
  | _ => unexpectedHere

/-- A member of an object, given how its value is read. -/
def member (value : Parser (Option RawText)) : Parser Unit := do
  let _ ← name
  expectMark .colon
  let _ ← value

/-- A value with room for lists and objects. -/
def valueAt (isConstant : Bool) : (room : Nat) → Parser (Option RawText)
  | 0 => do
    if (← atMark .bracketLeft) || (← atMark .braceLeft) then failHere .tooDeep
    else flatValue isConstant
  | room + 1 => do
    if ← skip? (.punctuator .bracketLeft) then
      let _ ← anyUntil (.punctuator .bracketRight) (valueAt isConstant room)
      return none
    else if ← skip? (.punctuator .braceLeft) then
      let _ ← anyUntil (.punctuator .braceRight) (member (valueAt isConstant room))
      return none
    else flatValue isConstant

/-- A value. -/
def value (isConstant : Bool) : Parser (Option RawText) :=
  valueAt isConstant maxDepth

/-! ## Directives -/

/-- A name, a colon and a value, for which there is some room. -/
def argumentAt (room : Nat) (isConstant : Bool) : Parser (String × Option RawText) := do
  let key ← name
  expectMark .colon
  return (key, ← valueAt isConstant room)

/-- The arguments of a field or directive. -/
def argumentsAt (room : Nat) (isConstant : Bool) : Parser (List (String × Option RawText)) :=
  optionalIn .parenLeft .parenRight (argumentAt room isConstant)

/-- The directives that are applied where there is some room. -/
def directivesAt (room : Nat) (isConstant : Bool) : Parser (List Directive) := do
  itemsWhile .atSign (do
    expectMark .atSign
    let key ← name
    return ⟨key, ← argumentsAt room isConstant⟩) (← get).length

/-- The directives that are applied outside of any list, object or selection set. -/
def directives (isConstant : Bool) : Parser (List Directive) :=
  directivesAt maxDepth isConstant

/-! ## Descriptions and words -/

/-- A description, if there is one. -/
def description? : Parser (Option RawText) := do
  match ← current with
  | .string text | .blockString text =>
    advance
    return some text
  | _ => return none

/-- The kinds of operations. -/
def operationKinds : List String := ["query", "mutation", "subscription"]

/-- The kind of an operation. -/
def operationKind : Parser Unit := do
  let start ← get
  let word ← name
  if operationKinds.contains word then return ()
  else throw ⟨.unexpected (.name word), start.length⟩

end ResolverTypings.Graphql
