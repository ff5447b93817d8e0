import ResolverTypings.Federation.FieldSet
import ResolverTypings.Schema.Definition
import ResolverTypings.Text.Blank

/-!
# Collecting definitions

Documents are collected one after the other, and the definitions and extensions of one
name are merged. Of an object each field keeps its first declaration, the last
description counts, and each key counts once. Definitions of an enum add the values
that it does not have yet; a scalar takes the description of its last definition. Root
types come from definitions of the schema and not from its extensions.

An object whose key is not given as a string stops the collecting; what has been merged
by then stays.
-/
namespace ResolverTypings.Federation

open Graphql (Directive FieldDeclaration ObjectPart EnumPart)
open Text (RawText)

/-- An object type as merged so far. -/
structure CollectedObject where
  description : Option RawText := none
  fields : List FieldDeclaration := []
  /-- The texts of the key field sets, with single spaces between their words. -/
  keys : List RawText := []
  deriving Repr, DecidableEq, Inhabited

/-- An enum type as merged so far. -/
structure CollectedEnum where
  values : List String
  description : Option RawText
  deriving Repr, DecidableEq, Inhabited

/-- Everything collected so far. -/
structure Collected where
  rootTypes : List String := rootTypeNames
  objects : Table String CollectedObject := []
  enums : Table String CollectedEnum := []
  scalars : Table String (Option RawText) := []
  /-- The types with the fields that some field is known to provide. -/
  provided : List (String × String) := []
  deriving Repr, DecidableEq, Inhabited

/-- Add an element at the end of a list that does not have it. -/
def addNew {α : Type} [BEq α] (xs : List α) (x : α) : List α :=
  if xs.contains x then xs else xs ++ [x]

/-! ## Objects -/

/-- The declaration of a field. -/
def CollectedObject.field? (object : CollectedObject) (name : String) :
    Option FieldDeclaration :=
  object.fields.find? (·.name == name)

/-- Add a declaration unless the field has one. -/
def addField (fields : List FieldDeclaration) (field : FieldDeclaration) :
    List FieldDeclaration :=
  if fields.any (·.name == field.name) then fields else fields ++ [field]

/-- The keys that directives give, up to the first one without a field set. -/
def givenKeys : List Directive → List RawText × Option SchemaError
  | [] => ([], none)
  | directive :: rest =>
    match fieldSetText directive with
    | .error error => ([], some error)
    | .ok text =>
      let (keys, error) := givenKeys rest
      (Text.singleSpaced text :: keys, error)

/-- Merge a definition or an extension into an object. -/
def CollectedObject.merge (object : CollectedObject) (part : ObjectPart) :
    CollectedObject × Option SchemaError :=
  let (keys, error) := givenKeys (directivesNamed part.directives "key")
  ({ description := if part.isExtension then object.description
                    else part.description <|> object.description
     fields := part.fields.foldl addField object.fields
     keys := keys.foldl addNew object.keys }, error)

/-! ## Enums -/

/-- An enum from the first definition or extension that mentions it. -/
def CollectedEnum.first (part : EnumPart) : CollectedEnum where
  values := part.values
  description := if part.isExtension then none else part.description

/-- Merge a further definition or extension into an enum. The values it adds are those
that the enum did not have before. -/
def CollectedEnum.merge (enum : CollectedEnum) (part : EnumPart) : CollectedEnum where
  values := enum.values ++ part.values.filter (!enum.values.contains ·)
  description :=
    if part.isExtension then enum.description else part.description <|> enum.description

/-! ## Documents -/

namespace Collected

/-- Collect one definition. -/
def addDefinition (collected : Collected) :
    Graphql.Definition → Collected × Option SchemaError
  | .scalar name description =>
    ({ collected with scalars := collected.scalars.put name description }, none)
  | .enum part =>
    let enum := match collected.enums.get? part.name with
      | none => .first part
      | some enum => enum.merge part
    ({ collected with enums := collected.enums.put part.name enum }, none)
  | .object part =>
    let (object, error) := ((collected.objects.get? part.name).getD {}).merge part
    ({ collected with objects := collected.objects.put part.name object }, error)
  | .schema rootTypes =>
    ({ collected with rootTypes := rootTypes.foldl addNew collected.rootTypes }, none)
  | .operation _ | .schemaExtension _ | .other => (collected, none)

/-- Collect definitions up to the first error. -/
def addDefinitions (collected : Collected) :
    List Graphql.Definition → Collected × Option SchemaError
  | [] => (collected, none)
  | definition :: rest =>
    match collected.addDefinition definition with
    | (next, none) => next.addDefinitions rest
    | (next, some error) => (next, some error)

end Collected

/-- Why a document was not collected, or only in part. -/
inductive DocumentError where
  | syntaxError (error : Graphql.SyntaxError)
  | schemaError (error : SchemaError)
  deriving Repr, DecidableEq, Inhabited

/-- Collect a document. One with a syntax error adds nothing. -/
def Collected.addDocument (collected : Collected) (document : RawText) :
    Collected × Option DocumentError :=
  match Graphql.parseDocument document with
  | .error error => (collected, some (.syntaxError error))
  | .ok definitions =>
    let (next, error) := collected.addDefinitions definitions
    (next, error.map .schemaError)

end ResolverTypings.Federation
