import ResolverTypings.Text.RawText

/-!
# GraphQL documents

The parts of a document that a schema is built from. Everything else of the grammar is
checked when a document is read and leaves no trace in the tree: the values of
arguments other than strings, aliases, interfaces, unions, input types and directive
definitions.
-/
namespace ResolverTypings.Graphql

open Text (RawText)

/-- A type as a document writes it. -/
inductive TypeRef where
  | named (name : String)
  | list (base : TypeRef)
  | nonNull (base : TypeRef)
  deriving Repr, DecidableEq, Inhabited

/-- The name inside the wrappers of a type. -/
def TypeRef.name : TypeRef → String
  | .named name => name
  | .list base => base.name
  | .nonNull base => base.name

/-- A directive as it is applied; an argument that is no string has no value here. -/
structure Directive where
  name : String
  arguments : List (String × Option RawText)
  deriving Repr, DecidableEq, Inhabited

/-- The declaration of an argument. -/
structure ArgumentDeclaration where
  name : String
  type : TypeRef
  description : Option RawText
  deriving Repr, DecidableEq, Inhabited

/-- The declaration of a field. -/
structure FieldDeclaration where
  name : String
  type : TypeRef
  arguments : List ArgumentDeclaration
  directives : List Directive
  description : Option RawText
  deriving Repr, DecidableEq, Inhabited

/-- What a selection set selects. A field without a selection set of its own has no
nested selections; one with a set has at least one. -/
inductive Selection where
  | field (name : String) (nested : List Selection)
  | fragmentSpread
  | inlineFragment
  deriving Repr, Inhabited

namespace Selection

mutual
/-- Equality of selections is decided by comparing what is nested in them. -/
def decEq : (s t : Selection) → Decidable (s = t)
  | .field a nested, .field b nested' =>
    if h : a = b then
      match decEqNested nested nested' with
      | isTrue hn => isTrue (by rw [h, hn])
      | isFalse hn => isFalse (by simp [hn])
    else isFalse (by simp [h])
  | .fragmentSpread, .fragmentSpread | .inlineFragment, .inlineFragment => isTrue rfl
  | .field .., .fragmentSpread | .field .., .inlineFragment
  | .fragmentSpread, .field .. | .fragmentSpread, .inlineFragment
  | .inlineFragment, .field .. | .inlineFragment, .fragmentSpread => isFalse (by simp)

/-- Equality of nested selections is decided one by one. -/
def decEqNested : (s t : List Selection) → Decidable (s = t)
  | [], [] => isTrue rfl
  | [], _ :: _ => isFalse (by simp)
  | _ :: _, [] => isFalse (by simp)
  | s :: restS, t :: restT =>
    match decEq s t, decEqNested restS restT with
    | isTrue hs, isTrue hr => isTrue (by rw [hs, hr])
    | isFalse hs, _ => isFalse (by simp [hs])
    | _, isFalse hr => isFalse (by simp [hr])
end

instance : DecidableEq Selection := decEq

end Selection

/-- A definition or an extension of an object type. -/
structure ObjectPart where
  name : String
  isExtension : Bool
  directives : List Directive
  fields : List FieldDeclaration
  description : Option RawText
  deriving Repr, DecidableEq, Inhabited

/-- A definition or an extension of an enum type. -/
structure EnumPart where
  name : String
  isExtension : Bool
  values : List String
  description : Option RawText
  deriving Repr, DecidableEq, Inhabited

/-- One definition of a document. -/
inductive Definition where
  | operation (selections : List Selection)
  /-- The types that serve as roots of operations. -/
  | schema (rootTypes : List String)
  /-- The types that an extension of the schema names as further roots. -/
  | schemaExtension (rootTypes : List String)
  | scalar (name : String) (description : Option RawText)
  | object (part : ObjectPart)
  | enum (part : EnumPart)
  | other
  deriving Repr, DecidableEq, Inhabited

end ResolverTypings.Graphql
