import ResolverTypings.Graphql.Parser.Value

/-!
# Type definitions

The definitions and extensions of a type system. A definition is read from behind its
first word, and an extension of nothing is refused.
-/
namespace ResolverTypings.Graphql

open Text (RawText)

/-- The declaration of an argument or of a field of an input type. -/
def argumentDeclaration : Parser ArgumentDeclaration := do
  let description ← description?
  let key ← name
  expectMark .colon
  let type ← typeRef
  if ← skip? (.punctuator .equals) then
    let _ ← value true
  let _ ← directives true
  return { name := key, type, description }

/-- The declaration of a field. -/
def fieldDeclaration : Parser FieldDeclaration := do
  let description ← description?
  let key ← name
  let arguments ← optionalIn .parenLeft .parenRight argumentDeclaration
  expectMark .colon
  let type ← typeRef
  let directives ← directives true
  return { name := key, type, arguments, directives, description }

/-- The fields of an object type or interface. -/
def fieldDeclarations : Parser (List FieldDeclaration) :=
  optionalIn .braceLeft .braceRight fieldDeclaration

/-- The interfaces that a type implements. -/
def interfaces : Parser (List String) := do
  if ← skip? (.name "implements") then separatedBy .ampersand name else return []

/-- The words that are no enum values. -/
def reservedValues : List String := ["true", "false", "null"]

/-- The declaration of a value of an enum type. -/
def enumValue : Parser String := do
  let _ ← description?
  let found ← current
  if found.value?.any (reservedValues.map RawText.ofString).contains then
    failHere (.reservedEnumValue found)
  else
    let key ← name
    let _ ← directives true
    return key

/-- A type that serves as the root of a kind of operation. -/
def rootType : Parser String := do
  operationKind
  expectMark .colon
  name

/-- The members of a union. -/
def unionMembers : Parser (List String) := do
  if ← skip? (.punctuator .equals) then separatedBy .pipe name else return []

/-- The places where a directive may stand. -/
def directiveLocations : List String :=
  ["QUERY", "MUTATION", "SUBSCRIPTION", "FIELD", "FRAGMENT_DEFINITION", "FRAGMENT_SPREAD",
    "INLINE_FRAGMENT", "VARIABLE_DEFINITION", "SCHEMA", "SCALAR", "OBJECT", "FIELD_DEFINITION",
    "ARGUMENT_DEFINITION", "INTERFACE", "UNION", "ENUM", "ENUM_VALUE", "INPUT_OBJECT",
    "INPUT_FIELD_DEFINITION", "DIRECTIVE_DEFINITION"]

/-- A place where a directive may stand. -/
def directiveLocation : Parser Unit := do
  let start ← get
  let word ← name
  if directiveLocations.contains word then return ()
  else throw ⟨.unexpected (.name word), start.length⟩

/-- The definition of a directive, from its mark on. -/
def directiveDefinition : Parser Definition := do
  expectMark .atSign
  let _ ← name
  let _ ← optionalIn .parenLeft .parenRight argumentDeclaration
  let _ ← skip? (.name "repeatable")
  expectKeyword "on"
  let _ ← separatedBy .pipe directiveLocation
  return .other

/-- An extension must extend something. -/
def require (found : Bool) : Parser Unit := do
  if found then return () else unexpectedHere

/-- What stands behind the word `schema`. -/
def schemaBody (isExtension : Bool) : Parser Definition := do
  let applied ← directives true
  if isExtension then
    let roots ← optionalIn .braceLeft .braceRight rootType
    require (!applied.isEmpty || !roots.isEmpty)
    return .schemaExtension roots
  else
    return .schema (← manyIn .braceLeft .braceRight rootType)

/-- What stands behind the word `scalar`. -/
def scalarBody (isExtension : Bool) (description : Option RawText) : Parser Definition := do
  let key ← name
  let applied ← directives true
  if isExtension then
    require (!applied.isEmpty)
    return .other
  else return .scalar key description

/-- What stands behind the word `type`. -/
def objectBody (isExtension : Bool) (description : Option RawText) : Parser Definition := do
  let key ← name
  let implemented ← interfaces
  let applied ← directives true
  let fields ← fieldDeclarations
  if isExtension then
    require (!implemented.isEmpty || !applied.isEmpty || !fields.isEmpty)
  return .object { name := key, isExtension, directives := applied, fields, description }

/-- What stands behind the word `interface`. -/
def interfaceBody (isExtension : Bool) : Parser Definition := do
  let _ ← objectBody isExtension none
  return .other

/-- What stands behind the word `union`. -/
def unionBody (isExtension : Bool) : Parser Definition := do
  let _ ← name
  let applied ← directives true
  let members ← unionMembers
  if isExtension then require (!applied.isEmpty || !members.isEmpty)
  return .other

/-- What stands behind the word `enum`. -/
def enumBody (isExtension : Bool) (description : Option RawText) : Parser Definition := do
  let key ← name
  let applied ← directives true
  let values ← optionalIn .braceLeft .braceRight enumValue
  if isExtension then require (!applied.isEmpty || !values.isEmpty)
  return .enum { name := key, isExtension, values, description }

/-- What stands behind the word `input`. -/
def inputBody (isExtension : Bool) : Parser Definition := do
  let _ ← name
  let applied ← directives true
  let fields ← optionalIn .braceLeft .braceRight argumentDeclaration
  if isExtension then require (!applied.isEmpty || !fields.isEmpty)
  return .other

/-- The body of the type definition or extension that a word starts. -/
def typeBody? (isExtension : Bool) (description : Option RawText) :
    String → Option (Parser Definition)
  | "schema" => some (schemaBody isExtension)
  | "scalar" => some (scalarBody isExtension description)
  | "type" => some (objectBody isExtension description)
  | "interface" => some (interfaceBody isExtension)
  | "union" => some (unionBody isExtension)
  | "enum" => some (enumBody isExtension description)
  | "input" => some (inputBody isExtension)
  | "directive" => if isExtension then none else some directiveDefinition
  | _ => none

end ResolverTypings.Graphql
