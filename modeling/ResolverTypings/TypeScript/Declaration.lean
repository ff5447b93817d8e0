import ResolverTypings.Schema.Definition
import ResolverTypings.TypeScript.Type

/-!
# Declarations

The text of one definition. An object `X` has the alias `XRepresentation`, which is the
parent that its resolvers receive, and the interface `XResolver`; beside them stands an
interface `X`, or for an entity an alias `X`, and for a root of operations neither.
-/
namespace ResolverTypings.TypeScript

open Text (RawText)

/-- What keeps a definition from having a text. -/
inductive DeclarationError where
  | entityWithoutKeys (name : String)
  | resolverWithoutParent (name : String)
  deriving Repr, DecidableEq, Inhabited

/-- The message of an error. -/
def DeclarationError.message : DeclarationError → String
  | .entityWithoutKeys name => s!"Entity '{name}' declares no @key field sets"
  | .resolverWithoutParent name => s!"Resolver '{name}' has no parent definition"

/-- Settings for all declarations of a file. -/
structure Settings where
  /-- Whether the values of enums inside the service are left open. -/
  internalEnumValues : Bool := false
  deriving Repr, DecidableEq, Inhabited

/-! ## Members -/

/-- The text with the beginning of a comment line behind every line feed. -/
def commentLines (text : RawText) : RawText :=
  text.flatMap fun point => if point = .char '\n' then RawText.ofString "\n * " else [point]

/-- The comment that documents a definition; nothing without a text. -/
def comment (description : Option RawText) : RawText :=
  match description with
  | none => []
  | some text => if text.isEmpty then [] else "/**\n * " ++ commentLines text ++ "\n */\n"

/-- An argument. One that may be null is optional, and then its type does not say null
again, so that a default may stand in for it. -/
def argumentText (argument : Argument) : RawText :=
  comment argument.description ++ argument.name ++
    (if argument.type.isNonNull then ": " else "?: ") ++ typeText false argument.type

/-- A field; every field is optional. -/
def fieldText (field : Field) : RawText :=
  comment field.description ++ field.name ++ "?: " ++ typeText true field.type

/-- The type of the arguments of a resolver. -/
def argumentsText (arguments : List Argument) : RawText :=
  if arguments.isEmpty then "\x7b\x7d"
  else "\x7b\n" ++ RawText.intercalate "\n" (arguments.map argumentText) ++ "\n\x7d"

/-- The type of the parent that a resolver receives. -/
def parentText (resolver : Resolver) : String :=
  resolver.parent ++ "Representation<TInternalReps>" ++
    if resolver.requires.isEmpty then "" else " & " ++ recordText resolver.requires

/-- What stands behind the name of a field that cannot be resolved here. -/
def unresolvableText : String :=
  ": never // non-resolvable: marked @external and not @provide'd by any fields"

/-- A resolver: its signature, or a member that no value fits. -/
def resolverText (resolver : Resolver) : Except DeclarationError RawText :=
  if resolver.isUnresolvable then .ok (resolver.name ++ unresolvableText)
  else if resolver.parent.isEmpty then .error (.resolverWithoutParent resolver.name)
  else
    .ok (comment resolver.description ++ resolver.name ++
      (if resolver.isRootType then ": " else "?: ") ++
      "(parent: " ++ parentText resolver ++ ", args: " ++ argumentsText resolver.arguments ++
      ", context: TContext, info: any) => PromiseOrValue<" ++ typeText true resolver.type ++ ">")

/-! ## Objects -/

/-- The type parameters of a resolver interface. -/
def resolverParameters : String :=
  "<TContext = \x7b\x7d, TInternalReps = \x7b\x7d>"

/-- The alias for what the resolvers of an object receive, up to what stands in for a
missing internal representation. -/
def representationText (name : String) : String :=
  "type " ++ name ++ "Representation<TInternalReps extends Record<string, any>> = " ++
    "Index<TInternalReps, \"" ++ name ++ "\", "

/-- Members with a line end behind each, in the braces that close a declaration. -/
def bodyText (members : List RawText) : RawText :=
  "\x7b\n" ++ members.flatMap (· ++ RawText.ofString "\n") ++ "\n\x7d\n"

/-- The interface of the resolvers of an object. -/
def resolverInterface (object : ObjectType) (members : List RawText) : RawText :=
  comment object.description ++ "export interface " ++ object.name ++ "Resolver" ++
    resolverParameters ++ " " ++ bodyText members

/-- The interface of the public shape of an object. -/
def plainShape (object : ObjectType) : RawText :=
  comment object.description ++ "export interface " ++ object.name ++ " " ++
    bodyText (object.fields.map fieldText)

/-- The alias of the public shape of an entity. -/
def entityShape (object : ObjectType) : RawText :=
  comment object.description ++ "export type " ++ object.name ++
    "<TInternalReps = \x7b\x7d> = " ++ object.name ++ "Representation<TInternalReps> & " ++
    bodyText (object.fields.map fieldText)

/-- The member that finds an entity again from one of its keys. -/
def referenceMember (name : String) : String :=
  "  __resolveReference?: (parent: " ++ name ++
    "Representation<\x7b /* internal reps are not known here */ \x7d>," ++
    " args: \x7b\x7d, context: TContext, info: any) => PromiseOrValue<Nullable<" ++ name ++ ">>"

/-- The declarations of a plain object. -/
def plainText (object : ObjectType) : Except DeclarationError RawText := do
  let members ← object.resolvers.mapM resolverText
  return representationText object.name ++ "any>\n" ++
    (if object.isRoot then [] else plainShape object) ++ resolverInterface object members

/-- The declarations of an entity; any one of the keys is enough to identify it. -/
def entityText (object : ObjectType) (keys : List Record) : Except DeclarationError RawText := do
  if keys.isEmpty then throw (.entityWithoutKeys object.name)
  let members ← object.resolvers.mapM resolverText
  return representationText object.name ++ "\x7b\x7d> & (" ++
    String.intercalate " | " (keys.map recordText) ++ ")\n\n" ++
    entityShape object ++ resolverInterface object (referenceMember object.name :: members)

/-- The declarations of an object. -/
def objectText (object : ObjectType) : Except DeclarationError RawText :=
  match object.kind with
  | .plain => plainText object
  | .entity keys => entityText object keys

/-! ## Enums and scalars -/

/-- The values of an enum as alternatives. -/
def alternatives (values : List String) : String :=
  String.intercalate " | " (values.map fun value => "\"" ++ value ++ "\"")

/-- The declarations of an enum. Where the values inside the service are left open, the
union has a name of its own. -/
def enumText (settings : Settings) (enum : EnumType) : String :=
  if settings.internalEnumValues then
    "export type " ++ enum.name ++ "External = " ++ alternatives enum.values ++
      "\nexport type " ++ enum.name ++ " = any\n"
  else "export type " ++ enum.name ++ " = " ++ alternatives enum.values ++ "\n"

/-- The declaration of a scalar; any value will do. -/
def scalarText (scalar : ScalarType) : String :=
  "export type " ++ scalar.name ++ " = any\n"

end ResolverTypings.TypeScript
