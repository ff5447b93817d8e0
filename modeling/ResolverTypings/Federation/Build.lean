import ResolverTypings.Federation.Collected

/-!
# Building schemas

A schema is built from what has been collected: the field sets of the directives are
resolved against all declarations, whatever the order in which they came. First the
fields that some other field provides are noted; they stay noted for later builds. Then
each object gets a resolver per field, and an object with keys becomes an entity.
-/
namespace ResolverTypings.Federation

open Graphql (TypeRef FieldDeclaration ArgumentDeclaration)
open Text (RawText)

/-- The wrappers of a type around another type than the named one. -/
def wrap (leaf : FieldType) : TypeRef → FieldType
  | .named _ => leaf
  | .list base => .list (wrap leaf base)
  | .nonNull base => .nonNull (wrap leaf base)

/-- A type as a document writes it. -/
def fieldTypeOf (type : TypeRef) : FieldType :=
  wrap (.named type.name) type

/-! ## Field sets against declarations -/

/-- The declaration of a field of a type. -/
def findField (objects : Table String CollectedObject) (type field : String) :
    Except SchemaError FieldDeclaration :=
  match objects.get? type with
  | none => throw (.unknownType type)
  | some object =>
    match object.field? field with
    | none => throw (.unknownField type field)
    | some declaration => return declaration

/-- The record of a field set on a type. A field with a set below it has the record of
that set in the place of its named type. -/
def recordOf (objects : Table String CollectedObject) (type : String) :
    FieldSet → Except SchemaError Record
  | .empty => return []
  | .field name nested rest => do
    let declaration ← findField objects type name
    let memberType ←
      match nested with
      | .empty => pure (fieldTypeOf declaration.type)
      | .field .. => do
        let inner ← recordOf objects declaration.type.name nested
        pure (wrap (.record inner) declaration.type)
    return (name, memberType) :: (← recordOf objects type rest)

/-- What was found up to an error, if there was one. -/
abbrev Partial (α : Type) := List α × Option SchemaError

/-- Go on behind what was found unless there was an error. -/
def Partial.andThen {α : Type} (found more : Partial α) : Partial α :=
  match found.2 with
  | some _ => found
  | none => (found.1 ++ more.1, more.2)

/-- The types and fields that a field set on a type names. A field counts before it is
looked up, and it is looked up only where a set stands below it. -/
def namedFields (objects : Table String CollectedObject) (type : String) :
    FieldSet → Partial (String × String)
  | .empty => ([], none)
  | .field name nested rest =>
    let below : Partial (String × String) :=
      match nested with
      | .empty => ([], none)
      | .field .. =>
        match findField objects type name with
        | .error error => ([], some error)
        | .ok declaration => namedFields objects declaration.type.name nested
    (Partial.andThen ([(type, name)], none) below).andThen (namedFields objects type rest)

/-- The types and fields that the directives on a field provide. -/
def providedBy (objects : Table String CollectedObject) (declaration : FieldDeclaration) :
    List Graphql.Directive → Partial (String × String)
  | [] => ([], none)
  | directive :: rest =>
    match fieldSetOf directive with
    | .error error => ([], some error)
    | .ok set =>
      (namedFields objects declaration.type.name set).andThen
        (providedBy objects declaration rest)

/-- All declarations that have been collected. -/
def declarationsIn (objects : Table String CollectedObject) : List FieldDeclaration :=
  objects.flatMap (·.2.fields)

/-- The types and fields that the given declarations provide. -/
def providedByAll (objects : Table String CollectedObject) :
    List FieldDeclaration → Partial (String × String)
  | [] => ([], none)
  | declaration :: rest =>
    (providedBy objects declaration (directivesNamed declaration.directives "provides")).andThen
      (providedByAll objects rest)

/-! ## Definitions -/

/-- What the resolver of a field reads beside its parent: the record of the last
directive that says so, though all of them are resolved. -/
def requiredRecord (objects : Table String CollectedObject) (type : String) (before : Record) :
    List Graphql.Directive → Except SchemaError Record
  | [] => return before
  | directive :: rest => do
    let found ← recordOf objects type (← fieldSetOf directive)
    requiredRecord objects type found rest

/-- An argument. -/
def argumentOf (declaration : ArgumentDeclaration) : Argument where
  name := declaration.name
  type := fieldTypeOf declaration.type
  description := declaration.description

/-- A field. -/
def fieldOf (declaration : FieldDeclaration) : Field where
  name := declaration.name
  type := fieldTypeOf declaration.type
  description := declaration.description

namespace Collected

/-- The resolver of a field of an object. -/
def resolverOf (collected : Collected) (parent : String) (declaration : FieldDeclaration) :
    Except SchemaError Resolver := do
  let requires ← requiredRecord collected.objects parent []
    (directivesNamed declaration.directives "requires")
  let isExternal := !(directivesNamed declaration.directives "external").isEmpty
  return {
    name := declaration.name
    type := fieldTypeOf declaration.type
    parent
    arguments := declaration.arguments.map argumentOf
    requires
    description := declaration.description
    isRootType := collected.rootTypes.contains parent
    isUnresolvable := isExternal && !collected.provided.contains (parent, declaration.name) }

/-- The record of a key of an object. -/
def keyOf (collected : Collected) (type : String) (key : RawText) : Except SchemaError Record := do
  recordOf collected.objects type (← FieldSet.parse "key" key)

/-- An object type. One with keys is an entity and carries no mark of a root, though its
resolvers may. -/
def objectOf (collected : Collected) (name : String) (object : CollectedObject) :
    Except SchemaError ObjectType := do
  let resolvers ← object.fields.mapM (collected.resolverOf name)
  let keys ← object.keys.mapM (collected.keyOf name)
  return {
    name
    kind := if keys.isEmpty then .plain else .entity keys
    fields := object.fields.map fieldOf
    resolvers
    description := object.description
    isRootType := keys.isEmpty && collected.rootTypes.contains name }

/-- The schema of what has been collected and noted. -/
def schema (collected : Collected) : Except SchemaError Schema := do
  let objects ← collected.objects.mapM fun (name, object) => collected.objectOf name object
  return {
    objects
    enums := collected.enums.map fun (name, enum) => ⟨name, enum.values, enum.description⟩
    scalars := collected.scalars.map fun (name, description) => ⟨name, description⟩ }

/-- Note the fields that are provided, up to the first error. -/
def noteProvided (collected : Collected) : Collected × Option SchemaError :=
  let (pairs, error) := providedByAll collected.objects (declarationsIn collected.objects)
  ({ collected with provided := pairs.foldl addNew collected.provided }, error)

/-- Build the schema. The fields noted as provided are kept, also after an error. -/
def build (collected : Collected) : Except SchemaError Schema × Collected :=
  match collected.noteProvided with
  | (noted, some error) => (.error error, noted)
  | (noted, none) => (noted.schema, noted)

end Collected

/-- The schema of a single document. -/
def schemaOfDocument (document : RawText) : Except DocumentError Schema :=
  match Collected.addDocument {} document with
  | (_, some error) => .error error
  | (collected, none) => collected.build.1.mapError .schemaError

end ResolverTypings.Federation
