import ResolverTypings.TypeScript.Declaration

/-!
# Declaration files

A file is laid out as fragments, each of which stands for one definition and is named
for it: a line of the interface `Resolvers`, and the declarations of the definition
itself. The fragments are joined to a text at the end.
-/
namespace ResolverTypings.TypeScript

open Text (RawText)

/-- A piece of a file with the name of the definition that it stands for. -/
structure Fragment where
  owner : String
  text : RawText
  deriving Repr, DecidableEq, Inhabited

/-- The fragments of a file in order. -/
structure Outline where
  /-- The lines inside the interface of all resolvers. -/
  entries : List Fragment
  declarations : List Fragment
  deriving Repr, DecidableEq, Inhabited

/-- What stands at the head of every file. -/
def fileHead : String :=
  "// This is a machine generated file.\n" ++
  "// Use \"gql-tsgen generate\" to regenerate.\n" ++
  "type PromiseOrValue<T> = Promise<T> | T\n" ++
  "type Nullable<T> = T | null | undefined\n" ++
  "type Index<Map extends Record<string, any>, Key extends string, IfMissing> = " ++
  "Map[Key] extends object ? Map[Key] : IfMissing\n"

/-! ## Entries -/

/-- The entry of an object; that of a root of operations is required. -/
def objectEntry (rootNames : List String) (object : ObjectType) : Fragment where
  owner := object.name
  text := "  " ++ object.name ++ (if rootNames.contains object.name then ": " else "?: ") ++
    object.name ++ "Resolver<TContext, TInternalReps>"

/-- The entry of a scalar. -/
def scalarEntry (scalar : ScalarType) : Fragment where
  owner := scalar.name
  text := "  " ++ scalar.name ++ ": any"

/-- The entry of an enum. -/
def enumEntry (enum : EnumType) : Fragment where
  owner := enum.name
  text := "  " ++ enum.name ++ ": \x7b [external: " ++ enum.name ++ "External]: any \x7d"

/-- The entries of a schema. Enums have one only where their internal values are left
open. -/
def entries (settings : Settings) (schema : Schema) : List Fragment :=
  schema.objects.map (objectEntry schema.rootNames) ++ schema.scalars.map scalarEntry ++
    if settings.internalEnumValues then schema.enums.map enumEntry else []

/-! ## Files -/

/-- The declarations of a schema. -/
def declarations (settings : Settings) (schema : Schema) :
    Except DeclarationError (List Fragment) := do
  let objects ← schema.objects.mapM fun object => Fragment.mk object.name <$> objectText object
  return objects ++ (schema.enums.map fun enum => ⟨enum.name, enumText settings enum⟩) ++
    schema.scalars.map fun scalar => ⟨scalar.name, scalarText scalar⟩

/-- The outline of the file for a schema. -/
def outline (settings : Settings) (schema : Schema) : Except DeclarationError Outline := do
  return { entries := entries settings schema, declarations := ← declarations settings schema }

/-- The interface that ties the interfaces of all resolvers together. -/
def resolversText (entries : List Fragment) : RawText :=
  RawText.intercalate "\n"
    ([RawText.ofString ("export interface Resolvers" ++ resolverParameters ++ " \x7b")] ++
      entries.map (·.text) ++ [RawText.ofString "\x7d\n"])

/-- The text of a file. -/
def Outline.text (outline : Outline) : RawText :=
  RawText.intercalate "\n"
    (RawText.ofString fileHead :: resolversText outline.entries :: outline.declarations.map (·.text))

/-- The file for a schema. -/
def generate (settings : Settings) (schema : Schema) : Except DeclarationError RawText :=
  Outline.text <$> outline settings schema

/-- A banner in front of a file. It gets a line end if it has none of its own, and an
empty line behind it. -/
def addBanner (banner text : RawText) : RawText :=
  banner ++ (if banner.getLast? = some (.char '\n') then "\n" else "\n\n") ++ text

end ResolverTypings.TypeScript
