import Mathlib.Data.List.Nodup
import Mathlib.Data.List.Perm.Basic
import ResolverTypings.Proofs.TypeScript.Declarations

/-!
# Declarations at the top level

A file is nothing but declarations, one behind the other, and each of them gives a name to
something. Names are made in two ways. A definition is declared under its own name, and the
head of the file, the interface of all resolvers, and suffixes behind the names of objects and
enums give the rest. Names of the second kind never meet one another, since their last letters
tell apart where they come from, and so a file declares a name twice only if a definition is
called by such a name.
-/
namespace ResolverTypings

/-- The names of the definitions of a schema. -/
def Schema.names (schema : Schema) : List String :=
  schema.objects.map (·.name) ++ schema.enums.map (·.name) ++ schema.scalars.map (·.name)

namespace TypeScript

open Text (RawText)

/-- The words that open a declaration. -/
inductive Opening where
  | hiddenType
  | exportedType
  | exportedInterface
  deriving Repr, DecidableEq, Inhabited

/-- The text of the words that open a declaration. -/
def Opening.text : Opening → String
  | .hiddenType => "type "
  | .exportedType => "export type "
  | .exportedInterface => "export interface "

/-- A declaration at the top level of a file. -/
structure TopLevel where
  /-- The comments and empty lines above it. -/
  above : RawText := []
  opening : Opening
  name : String
  /-- What stands behind the name on its line. -/
  behind : String
  /-- The lines below that one. -/
  below : RawText := []
  deriving Repr, DecidableEq, Inhabited

/-- The text of a declaration. -/
def TopLevel.text (declaration : TopLevel) : RawText :=
  declaration.above ++ declaration.opening.text ++ declaration.name ++ declaration.behind ++
    "\n" ++ declaration.below

/-! ## The declarations of a file -/

/-- Lines with a line end behind each. -/
def lineBlock (lines : List RawText) : RawText :=
  lines.flatMap (· ++ RawText.ofString "\n")

/-- The helpers at the head of every file. -/
def headLevel : List TopLevel :=
  [ { above := "// This is a machine generated file.\n" ++
        "// Use \"gql-tsgen generate\" to regenerate.\n"
      opening := .hiddenType
      name := "PromiseOrValue"
      behind := "<T> = Promise<T> | T" },
    { opening := .hiddenType
      name := "Nullable"
      behind := "<T> = T | null | undefined" },
    { opening := .hiddenType
      name := "Index"
      behind := "<Map extends Record<string, any>, Key extends string, IfMissing> = " ++
        "Map[Key] extends object ? Map[Key] : IfMissing" } ]

/-- The interface of all resolvers. -/
def resolversLevel (entries : List Fragment) : TopLevel where
  above := "\n"
  opening := .exportedInterface
  name := "Resolvers"
  behind := resolverParameters ++ " \x7b"
  below := lineBlock (entries.map (·.text)) ++ "\x7d\n"

/-- The alias of what the resolvers of an object receive. -/
def aliasLevel (object : ObjectType) : TopLevel where
  above := "\n"
  opening := .hiddenType
  name := object.name ++ "Representation"
  behind := "<TInternalReps extends Record<string, any>> = Index<TInternalReps, \"" ++
    object.name ++ "\", " ++
    match object.kind with
    | .plain => "any>"
    | .entity keys => "\x7b\x7d> & (" ++ String.intercalate " | " (keys.map recordText) ++ ")"
  below := if object.isEntity then RawText.ofString "\n" else []

/-- The public shape of an object. -/
def shapeLevel (object : ObjectType) : TopLevel where
  above := comment object.description
  opening := if object.isEntity then .exportedType else .exportedInterface
  name := object.name
  behind :=
    if object.isEntity then
      "<TInternalReps = \x7b\x7d> = " ++ object.name ++ "Representation<TInternalReps> & \x7b"
    else " \x7b"
  below := lineBlock (object.fields.map fieldText) ++ "\n\x7d\n"

/-- The interface of the resolvers of an object. -/
def resolverLevel (object : ObjectType) : TopLevel where
  above := comment object.description
  opening := .exportedInterface
  name := object.name ++ "Resolver"
  behind := resolverParameters ++ " \x7b"
  below := lineBlock (interfaceMembers object) ++ "\n\x7d\n"

/-- The declarations of an object. -/
def objectLevel (object : ObjectType) : List TopLevel :=
  aliasLevel object :: (if declaresShape object then [shapeLevel object] else []) ++
    [resolverLevel object]

/-- The declarations of an enum. -/
def enumLevel (settings : Settings) (enum : EnumType) : List TopLevel :=
  if settings.internalEnumValues then
    [ { above := "\n"
        opening := .exportedType
        name := enum.name ++ "External"
        behind := " = " ++ alternatives enum.values },
      { opening := .exportedType
        name := enum.name
        behind := " = any" } ]
  else
    [ { above := "\n"
        opening := .exportedType
        name := enum.name
        behind := " = " ++ alternatives enum.values } ]

/-- The declaration of a scalar. -/
def scalarLevel (scalar : ScalarType) : TopLevel where
  above := "\n"
  opening := .exportedType
  name := scalar.name
  behind := " = any"

/-- The declarations of a file in order. -/
def topLevel (settings : Settings) (schema : Schema) : List TopLevel :=
  headLevel ++ resolversLevel (entries settings schema) :: schema.objects.flatMap objectLevel ++
    schema.enums.flatMap (enumLevel settings) ++ schema.scalars.map scalarLevel

/-- What holds of each kind of declaration of an object holds of all declarations of it. -/
theorem forall_mem_objectLevel {P : TopLevel → Prop} {object : ObjectType}
    (halias : P (aliasLevel object)) (hshape : P (shapeLevel object))
    (hresolver : P (resolverLevel object)) : ∀ declaration ∈ objectLevel object, P declaration := by
  unfold objectLevel
  simp only [List.cons_append, List.forall_mem_cons, List.forall_mem_append,
    List.not_mem_nil, false_imp_iff, implies_true, and_true]
  refine ⟨halias, ?_, hresolver⟩
  split
  · exact List.forall_mem_singleton.2 hshape
  · exact List.forall_mem_nil _

/-- What holds of the declarations of each part of a schema holds of all in its file. -/
theorem forall_mem_topLevel {P : TopLevel → Prop} {settings : Settings} {schema : Schema}
    (hhead : ∀ declaration ∈ headLevel, P declaration)
    (hresolvers : P (resolversLevel (entries settings schema)))
    (hobjects : ∀ object ∈ schema.objects, ∀ declaration ∈ objectLevel object, P declaration)
    (henums : ∀ enum ∈ schema.enums, ∀ declaration ∈ enumLevel settings enum, P declaration)
    (hscalars : ∀ scalar ∈ schema.scalars, P (scalarLevel scalar)) :
    ∀ declaration ∈ topLevel settings schema, P declaration := by
  simp only [topLevel, List.forall_mem_append, List.forall_mem_cons, List.forall_mem_flatMap,
    List.forall_mem_map]
  exact ⟨⟨⟨hhead, hresolvers, hobjects⟩, henums⟩, hscalars⟩

/-! ## The text of a file

Each text of a definition begins on a new line, and that line end counts as standing above
the first declaration of the definition. -/

theorem lineBlock_cons (line : RawText) (lines : List RawText) :
    lineBlock (line :: lines) = line ++ "\n" ++ lineBlock lines :=
  List.flatMap_cons

theorem intercalate_cons_eq_flatMap (first : RawText) (rest : List RawText) :
    RawText.intercalate "\n" (first :: rest) =
      first ++ rest.flatMap (RawText.ofString "\n" ++ ·) := by
  induction rest generalizing first with
  | nil => simp
  | cons next rest ih => simp [RawText.intercalate_cons_cons, ih]

theorem intercalate_append_last (lines : List RawText) (last : RawText) :
    RawText.intercalate "\n" (lines ++ [last]) = lineBlock lines ++ last := by
  induction lines with
  | nil => simp [lineBlock]
  | cons line lines ih =>
    have hne : lines ++ [last] ≠ [] := by simp
    rw [List.cons_append, RawText.intercalate_cons_of_ne_nil hne, ih, lineBlock_cons]
    simp only [List.append_assoc]

theorem intercalate_append_lineEnd {lines : List RawText} (hne : lines ≠ []) :
    RawText.intercalate "\n" lines ++ "\n" = lineBlock lines := by
  obtain ⟨front, last, rfl⟩ := List.eq_nil_or_concat lines |>.resolve_left hne
  rw [List.concat_eq_append, intercalate_append_last]
  simp [lineBlock]

/-- The interface of all resolvers has a line for each entry. -/
theorem resolversText_eq (entries : List Fragment) :
    resolversText entries = "export interface Resolvers" ++ resolverParameters ++ " \x7b" ++ "\n" ++
      lineBlock (entries.map (·.text)) ++ "\x7d\n" := by
  rw [resolversText, intercalate_append_last, List.singleton_append, lineBlock_cons]
  simp only [RawText.ofString_append]

theorem text_resolversLevel (entries : List Fragment) :
    (resolversLevel entries).text = "\n" ++ resolversText entries := by
  rw [resolversText_eq]
  simp [TopLevel.text, resolversLevel, Opening.text, RawText.ofString]

theorem text_aliasLevel (object : ObjectType) :
    (aliasLevel object).text = "\n" ++ aliasText object := by
  unfold aliasLevel aliasText representationText ObjectType.isEntity
  cases object.kind <;> simp [TopLevel.text, Opening.text, RawText.ofString]

theorem text_shapeLevel (object : ObjectType) :
    (shapeLevel object).text = shapeText object := by
  unfold shapeLevel shapeText plainShape entityShape ObjectType.isEntity
  cases object.kind <;>
    simp [TopLevel.text, Opening.text, bodyText, lineBlock, RawText.ofString]

theorem text_resolverLevel (object : ObjectType) :
    (resolverLevel object).text = resolverInterface object (interfaceMembers object) := by
  simp [TopLevel.text, resolverLevel, Opening.text, resolverInterface, bodyText, lineBlock,
    RawText.ofString]

theorem flatMap_objectLevel (object : ObjectType) :
    (objectLevel object).flatMap (·.text) = "\n" ++ objectDeclarations object := by
  unfold objectLevel objectDeclarations
  cases declaresShape object <;>
    simp [text_aliasLevel, text_shapeLevel, text_resolverLevel, List.append_assoc]

theorem flatMap_enumLevel (settings : Settings) (enum : EnumType) :
    (enumLevel settings enum).flatMap (·.text) = "\n" ++ RawText.ofString (enumText settings enum) := by
  unfold enumLevel enumText
  cases settings.internalEnumValues <;>
    simp [TopLevel.text, Opening.text, RawText.ofString]

theorem text_scalarLevel (scalar : ScalarType) :
    (scalarLevel scalar).text = "\n" ++ scalarText scalar := by
  simp [TopLevel.text, scalarLevel, scalarText, Opening.text, RawText.ofString]

theorem flatMap_headLevel : headLevel.flatMap (·.text) = fileHead := by
  simp only [headLevel, List.flatMap_cons, List.flatMap_nil, TopLevel.text, Opening.text,
    List.append_nil, List.nil_append, ← RawText.ofString_append, RawText.ofString_inj]
  decide +kernel

/-- The texts of several definitions, if each of them is a group of declarations. -/
theorem flatMap_flatMap {α : Type} {levels : α → List TopLevel} {text : α → RawText}
    (h : ∀ x, (levels x).flatMap (·.text) = "\n" ++ text x) (xs : List α) :
    (xs.flatMap levels).flatMap (·.text) =
      (xs.map text).flatMap (RawText.ofString "\n" ++ ·) := by
  rw [List.flatMap_assoc, List.flatMap_map]
  exact List.flatMap_congr fun x _ => h x

/-- A file is its declarations, one behind the other. -/
theorem text_layout (settings : Settings) (schema : Schema) :
    (layout settings schema).text = (topLevel settings schema).flatMap (·.text) := by
  rw [Outline.text, intercalate_cons_eq_flatMap, topLevel]
  simp only [List.flatMap_append, List.flatMap_cons, flatMap_headLevel, text_resolversLevel,
    flatMap_flatMap flatMap_objectLevel, flatMap_flatMap (flatMap_enumLevel settings),
    List.flatMap_map, text_scalarLevel, layout, objectFragment, List.map_append,
    List.map_map, Function.comp_def, List.append_assoc]

/-! ## Names -/

/-- The names of definitions that are declared under their own names. -/
def ownNames (schema : Schema) : List String :=
  (schema.objects.filter declaresShape).map (·.name) ++ schema.enums.map (·.name) ++
    schema.scalars.map (·.name)

/-- The names that a file gives beside those of definitions. -/
def madeNames (settings : Settings) (schema : Schema) : List String :=
  ["PromiseOrValue", "Nullable", "Index", "Resolvers"] ++
    schema.objects.map (·.name ++ "Representation") ++ schema.objects.map (·.name ++ "Resolver") ++
    if settings.internalEnumValues then schema.enums.map (·.name ++ "External") else []

/-- Whether no definition that is declared under its own name is called by a name that the
file gives to something else. -/
def ClashFree (settings : Settings) (schema : Schema) : Prop :=
  (madeNames settings schema).Disjoint (ownNames schema)

instance (settings : Settings) (schema : Schema) : Decidable (ClashFree settings schema) :=
  inferInstanceAs (Decidable (∀ name ∈ madeNames settings schema, name ∉ ownNames schema))

theorem names_objectLevel_perm (objects : List ObjectType) :
    ((objects.flatMap objectLevel).map (·.name)).Perm
      (objects.map (·.name ++ "Representation") ++ objects.map (·.name ++ "Resolver") ++
        (objects.filter declaresShape).map (·.name)) := by
  induction objects with
  | nil => rfl
  | cons object objects ih =>
    -- The names of one object stand apart on the right, so the two sides are counted.
    rw [List.perm_iff_count]
    intro name
    have hrest := ih.count_eq name
    simp only [List.count_append] at hrest
    cases hshape : declaresShape object <;>
      simp [objectLevel, aliasLevel, shapeLevel, resolverLevel, hshape, List.count_cons, hrest] <;>
      omega

theorem names_enumLevel_perm (settings : Settings) (enums : List EnumType) :
    ((enums.flatMap (enumLevel settings)).map (·.name)).Perm
      ((if settings.internalEnumValues then enums.map (·.name ++ "External") else []) ++
        enums.map (·.name)) := by
  induction enums with
  | nil => cases settings.internalEnumValues <;> rfl
  | cons enum enums ih =>
    rw [List.perm_iff_count]
    intro name
    have hrest := ih.count_eq name
    simp only [List.count_append] at hrest
    cases hvalues : settings.internalEnumValues with
    | false =>
      simp only [hvalues] at hrest
      simp [enumLevel, hvalues, List.count_cons, hrest]
    | true =>
      simp only [hvalues] at hrest
      simp [enumLevel, hvalues, List.count_cons, hrest]
      omega

/-- The names of the declarations of a file are the names of both kinds. -/
theorem names_topLevel_perm (settings : Settings) (schema : Schema) :
    ((topLevel settings schema).map (·.name)).Perm
      (madeNames settings schema ++ ownNames schema) := by
  rw [List.perm_iff_count]
  intro name
  have hobjects := (names_objectLevel_perm schema.objects).count_eq name
  have henums := (names_enumLevel_perm settings schema.enums).count_eq name
  have hscalars : (schema.scalars.map scalarLevel).map (·.name) = schema.scalars.map (·.name) := by
    simp [scalarLevel]
  have hhead : headLevel.map (·.name) = ["PromiseOrValue", "Nullable", "Index"] := rfl
  have hresolvers : (resolversLevel (entries settings schema)).name = "Resolvers" := rfl
  simp only [List.count_append] at hobjects henums
  simp only [topLevel, madeNames, ownNames, List.map_append, List.map_cons, List.count_append,
    List.count_cons, hobjects, henums, hscalars, hhead, hresolvers]
  omega

/-! ## Clashes -/

/-- The last letter of a name. -/
def lastLetter (name : String) : Option Char :=
  name.toList.getLast?

/-- Distinct names that end in some of the given letters. -/
structure EndingIn (letters : List Char) (names : List String) : Prop where
  nodup : names.Nodup
  ends : ∀ name ∈ names, ∃ letter ∈ letters, lastLetter name = some letter

namespace EndingIn

theorem append {letters more : List Char} {xs ys : List String} (hxs : EndingIn letters xs)
    (hys : EndingIn more ys) (hletters : letters.Disjoint more) :
    EndingIn (letters ++ more) (xs ++ ys) where
  nodup := by
    refine hxs.nodup.append hys.nodup fun name hx hy => ?_
    obtain ⟨letter, hmem, hlast⟩ := hxs.ends name hx
    obtain ⟨other, hother, hlast'⟩ := hys.ends name hy
    obtain rfl : letter = other := Option.some.inj (hlast.symm.trans hlast')
    exact hletters hmem hother
  ends := by
    intro name hname
    rcases List.mem_append.1 hname with hx | hy
    · obtain ⟨letter, hmem, hlast⟩ := hxs.ends name hx
      exact ⟨letter, List.mem_append_left _ hmem, hlast⟩
    · obtain ⟨letter, hmem, hlast⟩ := hys.ends name hy
      exact ⟨letter, List.mem_append_right _ hmem, hlast⟩

/-- A suffix keeps names apart, and the last letter is its own. -/
theorem suffixed {α : Type} {name : α → String} {xs : List α} (hdistinct : (xs.map name).Nodup)
    {suffix : String} {letter : Char} (hletter : lastLetter suffix = some letter) :
    EndingIn [letter] (xs.map (name · ++ suffix)) where
  nodup := by
    have hinj : Function.Injective (· ++ suffix) := fun _ _ => (String.append_left_inj suffix).1
    simpa [List.map_map, Function.comp_def] using hdistinct.map hinj
  ends := by
    intro text htext
    obtain ⟨x, -, rfl⟩ := List.mem_map.1 htext
    refine ⟨letter, List.mem_singleton_self letter, ?_⟩
    rw [lastLetter] at hletter ⊢
    rw [String.toList_append, List.getLast?_append, hletter]
    rfl

end EndingIn

/-- The names that a file makes never meet one another. -/
theorem nodup_madeNames (settings : Settings) {schema : Schema} (hdistinct : schema.names.Nodup) :
    (madeNames settings schema).Nodup := by
  obtain ⟨hobjects, henums⟩ := List.nodup_append.1 hdistinct.of_append_left |>.imp_right And.left
  have hfixed : EndingIn ['e', 'x', 's'] ["PromiseOrValue", "Nullable", "Index", "Resolvers"] :=
    ⟨by decide, by simp [lastLetter]⟩
  have hrepresentations : EndingIn ['n'] (schema.objects.map (·.name ++ "Representation")) :=
    .suffixed hobjects (by decide)
  have hresolvers : EndingIn ['r'] (schema.objects.map (·.name ++ "Resolver")) :=
    .suffixed hobjects (by decide)
  have hexternal : EndingIn ['l'] (schema.enums.map (·.name ++ "External")) :=
    .suffixed henums (by decide)
  have hobjectNames := (hfixed.append hrepresentations (by simp)).append hresolvers (by simp)
  unfold madeNames
  split
  · exact (hobjectNames.append hexternal (by simp)).nodup
  · rw [List.append_nil]
    exact hobjectNames.nodup

theorem nodup_ownNames {schema : Schema} (hdistinct : schema.names.Nodup) :
    (ownNames schema).Nodup := by
  have hobjects : ((schema.objects.filter declaresShape).map (·.name)).Sublist
      (schema.objects.map (·.name)) := List.filter_sublist.map _
  exact hdistinct.sublist ((hobjects.append_right _).append_right _)

/-- A file declares no name twice exactly if no definition is called by a name that the file
makes. -/
theorem nodup_names_topLevel_iff (settings : Settings) {schema : Schema}
    (hdistinct : schema.names.Nodup) :
    ((topLevel settings schema).map (·.name)).Nodup ↔ ClashFree settings schema := by
  rw [(names_topLevel_perm settings schema).nodup_iff, List.nodup_append']
  exact ⟨fun h => h.2.2, fun h => ⟨nodup_madeNames settings hdistinct,
    nodup_ownNames hdistinct, h⟩⟩

end TypeScript
end ResolverTypings
