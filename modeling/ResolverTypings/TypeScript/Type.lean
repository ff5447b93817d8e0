import ResolverTypings.Schema.FieldType

/-!
# Types as TypeScript

A type is written for a place that may or may not be null, and null is said around the
whole text. A non-null wrapper settles the place for its base; the items of a list and
the members of a record are places that may be null; a record itself never is.
-/
namespace ResolverTypings.TypeScript

/-- The name of a type; the built-in scalars with a counterpart have names of their
own. -/
def typeName (name : String) : String :=
  if name = "Int" then "number"
  else if name = "Boolean" then "boolean"
  else if name = "ID" ∨ name = "String" then "string"
  else name

/-- A type that is null or missing where the place may be null. -/
def orNull (nullable : Bool) (text : String) : String :=
  if nullable then "Nullable<" ++ text ++ ">" else text

mutual
/-- The text of a type at a place. -/
def typeText (nullable : Bool) : FieldType → String
  | .named name => orNull nullable (typeName name)
  | .nonNull base => typeText false base
  | .list base => orNull nullable ("Array<" ++ typeText true base ++ ">")
  | .record members => "\x7b " ++ membersText members ++ "\x7d"

/-- The texts of the members of a record, each with a comma behind it. -/
def membersText : List (String × FieldType) → String
  | [] => ""
  | (name, type) :: rest => name ++ ": " ++ typeText true type ++ ", " ++ membersText rest
end

/-- The text of a record. -/
def recordText (record : Record) : String :=
  typeText true (.record record)

end ResolverTypings.TypeScript
