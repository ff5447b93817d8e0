import ResolverTypings.Federation.SchemaError
import ResolverTypings.Graphql.Document

/-!
# Field sets

A field set names fields of a type, and below a field those of the type it leads to.
Directives hold it as a string, which is read as the selection set of a query: braces
are put around it, and the first definition of the document that results is taken.
-/
namespace ResolverTypings.Federation

open Graphql (Directive Selection)
open Text (RawText)

/-- A field set: none, or a field with the set nested below it and the fields that
follow. A field that selects nothing further has the empty set below it. -/
inductive FieldSet where
  | empty
  | field (name : String) (nested rest : FieldSet)
  deriving Repr, DecidableEq, Inhabited

namespace FieldSet

mutual
/-- The field of a selection with the set below it. -/
def ofSelection : Selection → Except FragmentKind (String × FieldSet)
  | .field name nested => do return (name, ← ofSelections nested)
  | .fragmentSpread => throw .spread
  | .inlineFragment => throw .inlined

/-- The fields of selections, none of which may be a fragment. -/
def ofSelections : List Selection → Except FragmentKind FieldSet
  | [] => return .empty
  | first :: rest => do
    let (name, nested) ← ofSelection first
    return .field name nested (← ofSelections rest)
end

/-- The selections of the first definition of a document. -/
def firstSelections : List Graphql.Definition → List Selection
  | .operation selections :: _ => selections
  | _ => []

/-- The document that a field set is read as. -/
def document (text : RawText) : RawText :=
  "\x7b " ++ text ++ " \x7d"

/-- The field set that a directive holds as text. -/
def parse (directive : String) (text : RawText) : Except SchemaError FieldSet :=
  match Graphql.parseDocument (document text) with
  | .error error => throw (.invalidFieldSet directive text error)
  | .ok definitions =>
    (ofSelections (firstSelections definitions)).mapError (.fragmentInFieldSet directive)

end FieldSet

/-- The directives with a given name. -/
def directivesNamed (directives : List Directive) (name : String) : List Directive :=
  directives.filter (·.name == name)

/-- The text of the field set of a directive: its first string argument of that name. -/
def fieldSetText (directive : Directive) : Except SchemaError RawText :=
  match directive.arguments.findSome? fun (name, value) => if name = "fields" then value else none with
  | some text => return text
  | none => throw (.missingFieldSet directive.name)

/-- The field set of a directive. -/
def fieldSetOf (directive : Directive) : Except SchemaError FieldSet := do
  FieldSet.parse directive.name (← fieldSetText directive)

end ResolverTypings.Federation
