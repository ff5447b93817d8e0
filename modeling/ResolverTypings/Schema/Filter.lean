import ResolverTypings.Schema.Definition

/-!
# Filters

A filter drops definitions by the start or the end of their names. An empty text asks
for nothing, like no text at all.
-/
namespace ResolverTypings

/-- Which names to leave out, and which ones to keep alone. -/
structure NameFilter where
  excludePrefix : Option String := none
  excludeSuffix : Option String := none
  includePrefix : Option String := none
  includeSuffix : Option String := none
  deriving Repr, DecidableEq, Inhabited

/-- Whether a text starts with another. -/
def startsWith (name start : String) : Bool :=
  start.toList.isPrefixOf name.toList

/-- Whether a text ends with another. -/
def endsWith (name ending : String) : Bool :=
  ending.toList.isSuffixOf name.toList

/-- The text of a criterion that asks for something. -/
def criterion (text : Option String) : Option String :=
  text.filter (!·.isEmpty)

namespace NameFilter

/-- Whether a name passes. -/
def accepts (filter : NameFilter) (name : String) : Bool :=
  (criterion filter.excludePrefix).all (!startsWith name ·) &&
  (criterion filter.excludeSuffix).all (!endsWith name ·) &&
  (criterion filter.includePrefix).all (startsWith name ·) &&
  (criterion filter.includeSuffix).all (endsWith name ·)

end NameFilter

namespace Schema

/-- The schema without the definitions whose names do not pass. -/
def filter (schema : Schema) (names : NameFilter) : Schema where
  objects := schema.objects.filter fun object => names.accepts object.name
  enums := schema.enums.filter fun enum => names.accepts enum.name
  scalars := schema.scalars.filter fun scalar => names.accepts scalar.name

/-- Apply filters one after the other. -/
def filterAll (schema : Schema) (filters : List NameFilter) : Schema :=
  filters.foldl filter schema

@[simp] theorem filterAll_nil (schema : Schema) : schema.filterAll [] = schema := rfl

@[simp] theorem filterAll_cons (schema : Schema) (names : NameFilter) (rest : List NameFilter) :
    schema.filterAll (names :: rest) = (schema.filter names).filterAll rest := rfl

/-- What passes all filters stays, in its order. -/
theorem objects_filterAll (schema : Schema) (filters : List NameFilter) :
    (schema.filterAll filters).objects =
      schema.objects.filter fun object => filters.all (·.accepts object.name) := by
  induction filters generalizing schema with
  | nil => exact (List.filter_eq_self.2 fun _ _ => rfl).symm
  | cons names rest ih => simp [ih, filter, List.filter_filter, Bool.and_comm]

end Schema
end ResolverTypings
