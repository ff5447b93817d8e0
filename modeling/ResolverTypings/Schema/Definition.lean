import ResolverTypings.Schema.FieldType
import ResolverTypings.Text.RawText

/-!
# Schemas

What a GraphQL service declares, as far as its resolvers are concerned: object types
with a resolver for each field, enum types and custom scalars. A description is the
text that documents a definition, or nothing.
-/
namespace ResolverTypings

open Text (RawText)

/-- An argument that a resolver accepts. -/
structure Argument where
  name : String
  type : FieldType
  description : Option RawText := none
  deriving Repr, DecidableEq, Inhabited

/-- A field of the public shape of an object. -/
structure Field where
  name : String
  type : FieldType
  description : Option RawText := none
  deriving Repr, DecidableEq, Inhabited

/-- The resolver of one field of an object. -/
structure Resolver where
  name : String
  type : FieldType
  /-- The name of the object that owns the field. -/
  parent : String
  arguments : List Argument := []
  /-- What the resolver reads beside the representation of its parent. -/
  requires : Record := []
  description : Option RawText := none
  /-- Whether the owner is a root of operations. -/
  isRootType : Bool := false
  /-- Whether the field is resolved elsewhere and no field here provides it. -/
  isUnresolvable : Bool := false
  deriving Repr, DecidableEq, Inhabited

/-- Whether other services may refer to an object. An entity is identified by any one
of its keys. -/
inductive ObjectKind where
  | plain
  | entity (keys : List Record)
  deriving Repr, DecidableEq, Inhabited

/-- An object type with its resolvers. -/
structure ObjectType where
  name : String
  kind : ObjectKind := .plain
  fields : List Field := []
  resolvers : List Resolver := []
  description : Option RawText := none
  isRootType : Bool := false
  deriving Repr, DecidableEq, Inhabited

/-- An enum type. -/
structure EnumType where
  name : String
  values : List String := []
  description : Option RawText := none
  deriving Repr, DecidableEq, Inhabited

/-- A custom scalar. -/
structure ScalarType where
  name : String
  description : Option RawText := none
  deriving Repr, DecidableEq, Inhabited

/-- The names that make an object type a root of operations on their own. -/
def rootTypeNames : List String := ["Query", "Mutation", "Subscription"]

namespace ObjectType

/-- Whether an object is a root of operations, by its mark or by its name. -/
def isRoot (object : ObjectType) : Bool :=
  object.isRootType || rootTypeNames.contains object.name

/-- Whether an object is an entity. -/
def isEntity (object : ObjectType) : Bool :=
  match object.kind with
  | .plain => false
  | .entity _ => true

end ObjectType

/-- The definitions of a schema, by kind and in order. -/
structure Schema where
  objects : List ObjectType := []
  enums : List EnumType := []
  scalars : List ScalarType := []
  deriving Repr, DecidableEq, Inhabited

namespace Schema

/-- The objects that are entities. -/
def entities (schema : Schema) : List ObjectType :=
  schema.objects.filter (·.isEntity)

/-- The first object with a given name. -/
def object? (schema : Schema) (name : String) : Option ObjectType :=
  schema.objects.find? (·.name == name)

/-- The names of the objects that are roots of operations. -/
def rootNames (schema : Schema) : List String :=
  (schema.objects.filter (·.isRoot)).map (·.name)

end Schema
end ResolverTypings
