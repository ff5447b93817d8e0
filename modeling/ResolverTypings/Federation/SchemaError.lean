import ResolverTypings.Graphql.SyntaxError

/-!
# Schema errors

What can be wrong with a schema whose documents are well formed: every error is about
a federation directive or about the field set that it holds.
-/
namespace ResolverTypings.Federation

open Text (RawText)

/-- The two ways to select a fragment. -/
inductive FragmentKind where
  | spread
  | inlined
  deriving Repr, DecidableEq, Inhabited

/-- What is wrong with a schema. -/
inductive SchemaError where
  /-- A directive without the string argument that holds its field set. -/
  | missingFieldSet (directive : String)
  /-- A field set that does not follow the grammar. -/
  | invalidFieldSet (directive : String) (text : RawText) (error : Graphql.SyntaxError)
  | fragmentInFieldSet (directive : String) (kind : FragmentKind)
  | unknownType (type : String)
  | unknownField (type field : String)
  deriving Repr, DecidableEq, Inhabited

/-- What a fragment is called in messages. -/
def FragmentKind.describe : FragmentKind → String
  | .spread => "fragment_spread"
  | .inlined => "inline_fragment"

/-- The message of an error. -/
def SchemaError.message : SchemaError → RawText
  | .missingFieldSet directive => s!"@{directive} requires a 'fields' string argument"
  | .invalidFieldSet directive text error =>
    "Invalid @" ++ directive ++ " field set '" ++ text ++ "': " ++ error.message
  | .fragmentInFieldSet directive kind =>
    s!"@{directive} field sets may only select fields, got {kind.describe}"
  | .unknownType type => s!"Unknown type '{type}' in field selection"
  | .unknownField type field => s!"Type '{type}' has no field '{field}'"

end ResolverTypings.Federation
