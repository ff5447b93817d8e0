import ResolverTypings.Proofs.Federation.Translatable

/-!
# Roots of operations

A document makes a type a root by its name or by naming it in a definition or an extension
of the schema. A file treats a type as a root if its entry and its resolvers are required and
its public shape is not declared. The one is not quite the other: entities that are roots have
a shape all the same and may lose the mark of a root, and extensions of the schema do not
count. The main statement says that a file errs in these cases and in no other.
-/
namespace ResolverTypings.Federation

open Graphql (Definition)
open Text (RawText)
open TypeScript

/-! ## Roots of a document -/

/-- The types that a definition or an extension of the schema names as roots. -/
def rootsNamedBy : Definition → List String
  | .schema rootTypes | .schemaExtension rootTypes => rootTypes
  | _ => []

/-- Whether a document makes a type a root of operations. -/
def isRootIn (definitions : List Definition) (name : String) : Bool :=
  (rootTypeNames ++ definitions.flatMap rootsNamedBy).contains name

/-- Whether a document makes a type a root of operations without extending the schema. -/
def isDefinedRootIn (definitions : List Definition) (name : String) : Bool :=
  (rootTypeNames ++ rootTypesOf definitions).contains name

theorem isDefinedRootIn_of_contains {definitions : List Definition} {name : String}
    (h : rootTypeNames.contains name = true) : isDefinedRootIn definitions name = true := by
  simp only [isDefinedRootIn, List.contains_iff_mem, List.mem_append] at h ⊢
  exact .inl h

theorem isRootIn_of_isDefinedRootIn {definitions : List Definition} {name : String}
    (h : isDefinedRootIn definitions name = true) : isRootIn definitions name = true := by
  simp only [isDefinedRootIn, isRootIn, List.contains_iff_mem, List.mem_append,
    rootTypesOf, List.mem_flatMap] at h ⊢
  rcases h with h | ⟨definition, hmem, hname⟩
  · exact .inl h
  · refine .inr ⟨definition, hmem, ?_⟩
    cases definition with
    | schema rootTypes => exact hname
    | _ => simp at hname

theorem Collected.contains_rootTypes_addAll (definitions : List Definition) (name : String) :
    (({} : Collected).addAll definitions).rootTypes.contains name =
      isDefinedRootIn definitions name := by
  rw [Bool.eq_iff_iff, isDefinedRootIn, List.contains_iff_mem, List.contains_iff_mem,
    List.mem_append, addAll_eq, mem_foldl_addNew]

/-! ## Roots in a file -/

/-- What a file says about an object that is a root of operations, or is none: its entry is
required just if it is one, its public shape is declared just if it is none, and the
resolvers of a root are required. -/
structure TreatsAs (file : Outline) (object : ObjectType) (isRoot : Bool) : Prop where
  entry : file.entryOf? object.name = some (entryLine isRoot object.name)
  declarations : file.declarationsOf? object.name = some (aliasText object ++
    (if isRoot then [] else shapeText object) ++
    resolverInterface object (interfaceMembers object))
  members : isRoot = true → ∀ resolver ∈ object.resolvers, ∃ type : RawText,
    resolverText resolver = .ok (memberHead resolver ++ memberMark true ++ type)

/-- The declarations of an object tell whether its public shape is among them. -/
theorem objectDeclarations_eq_iff (object : ObjectType) (isRoot : Bool) :
    objectDeclarations object = aliasText object ++ (if isRoot then [] else shapeText object) ++
        resolverInterface object (interfaceMembers object) ↔
      declaresShape object = !isRoot := by
  have hshape := shapeText_ne_empty object
  rw [objectDeclarations, List.append_left_inj, List.append_right_inj]
  cases declaresShape object <;> cases isRoot <;> simp [hshape, hshape.symm]

theorem treatsAs_layout_iff {schema : Schema} (hdistinct : (schema.objects.map (·.name)).Nodup)
    {object : ObjectType} (hobject : object ∈ schema.objects) (settings : Settings)
    (isRoot : Bool) :
    TreatsAs (layout settings schema) object isRoot ↔
      object.isRoot = isRoot ∧ declaresShape object = !isRoot ∧
        (isRoot = true → ∀ resolver ∈ object.resolvers, ∃ type : RawText,
          resolverText resolver = .ok (memberHead resolver ++ memberMark true ++ type)) := by
  rw [← objectDeclarations_eq_iff, ← entryLine_inj object.name]
  constructor
  · intro ⟨hentry, hdeclarations, hmembers⟩
    rw [entryOf?_layout hdistinct hobject] at hentry
    rw [declarationsOf?_layout hdistinct hobject] at hdeclarations
    exact ⟨Option.some.inj hentry, Option.some.inj hdeclarations, hmembers⟩
  · intro ⟨hentry, hdeclarations, hmembers⟩
    refine ⟨?_, ?_, hmembers⟩
    · rw [entryOf?_layout hdistinct hobject, hentry]
    · rw [declarationsOf?_layout hdistinct hobject, hdeclarations]

/-! ## Roots among the objects of a schema -/

section Built

variable {definitions : List Definition} {schema : Schema}
  (hbuilt : (({} : Collected).addAll definitions).build.1 = .ok schema)
  {object : ObjectType} (hobject : object ∈ schema.objects)

include hbuilt hobject

/-- An object without keys has the mark of a root, and the three names need none. -/
theorem isRoot_of_build : object.isRoot =
    (!object.isEntity && isDefinedRootIn definitions object.name ||
      rootTypeNames.contains object.name) := by
  obtain ⟨⟨name, source⟩, -, hsource⟩ :=
    exists_mem_of_forall₂ (Collected.forall₂_of_build hbuilt) hobject
  obtain ⟨resolvers, keys, -, -, rfl⟩ := Collected.objectOf_eq_ok_iff.1 hsource
  rw [← Collected.contains_rootTypes_addAll]
  cases keys <;> rfl

/-- The resolvers of a root have its mark, with keys or without. -/
theorem isRootType_of_build {resolver : Resolver} (hresolver : resolver ∈ object.resolvers) :
    resolver.isRootType = isDefinedRootIn definitions object.name := by
  obtain ⟨⟨name, source⟩, -, hsource⟩ :=
    exists_mem_of_forall₂ (Collected.forall₂_of_build hbuilt) hobject
  obtain ⟨rfl, -, hresolvers⟩ := Collected.forall₂_of_objectOf hsource
  obtain ⟨declaration, -, requires, rfl⟩ := exists_mem_of_forall₂ hresolvers hresolver
  exact Collected.contains_rootTypes_addAll definitions object.name

/-- A file is right about an object that is no root, and about a root just if it has no keys
and is one without an extension of the schema. -/
theorem treatsAs_layout_isRootIn_iff (htext : object.HasText) (settings : Settings) :
    TreatsAs (layout settings schema) object (isRootIn definitions object.name) ↔
      (isRootIn definitions object.name = true →
        isDefinedRootIn definitions object.name = true ∧ object.isEntity = false) := by
  have hdistinct : (schema.objects.map (·.name)).Nodup := by
    rw [Collected.objectNames_of_build hbuilt]
    exact (Collected.isDistinct_addAll definitions).objectNames
  rw [treatsAs_layout_iff hdistinct hobject, declaresShape, isRoot_of_build hbuilt hobject]
  cases hin : isRootIn definitions object.name with
  | false =>
    -- Nothing makes the object a root, so that no mark of one is left.
    have hnotDefined : isDefinedRootIn definitions object.name = false :=
      Bool.eq_false_iff.2 fun h => by simp [isRootIn_of_isDefinedRootIn h] at hin
    have hnotByName : rootTypeNames.contains object.name = false :=
      Bool.eq_false_iff.2 fun h => by
        rw [isDefinedRootIn_of_contains h] at hnotDefined
        cases hnotDefined
    rw [hnotDefined, hnotByName]
    simp
  | true =>
    constructor
    · -- The shape of an entity is always declared, and without keys only the mark counts.
      rintro ⟨hmarked, hnoShape, -⟩ -
      rw [hmarked] at hnoShape
      refine ⟨?_, by simpa using hnoShape⟩
      rcases Bool.or_eq_true_iff.1 hmarked with h | h
      · exact (Bool.and_eq_true_iff.1 h).2
      · exact isDefinedRootIn_of_contains h
    · intro h
      obtain ⟨hdefined, hplain⟩ := h rfl
      refine ⟨by simp [hdefined, hplain], by simp [hdefined, hplain], ?_⟩
      intro _ resolver hresolver
      obtain ⟨type, htype⟩ := exists_resolverMember_eq
        ((isRootType_of_build hbuilt hobject hresolver).trans hdefined)
      exact ⟨type, resolverText_eq_ok_iff.2 ⟨htext.resolvers resolver hresolver, htype.symm⟩⟩

end Built

/-- **Which roots are treated as roots.** A document that is accepted leads to a file. For
every object type of the document the file is right about whether it is a root of operations,
unless it is a root that has keys or that only an extension of the schema names. -/
theorem treatsAs_iff_of_document {document : RawText} {definitions : List Definition}
    {schema : Schema} (hparsed : Graphql.parseDocument document = .ok definitions)
    (hbuilt : schemaOfDocument document = .ok schema) (settings : Settings) :
    ∃ file, outline settings schema = .ok file ∧ generate settings schema = .ok file.text ∧
      ∀ part, Definition.object part ∈ definitions → ∃ object,
        schema.object? part.name = some object ∧
        (TreatsAs file object (isRootIn definitions part.name) ↔
          (isRootIn definitions part.name = true →
            isDefinedRootIn definitions part.name = true ∧ object.isEntity = false)) := by
  obtain ⟨_, hcollected, hbuild⟩ := schemaOfDocument_eq_ok_iff.1 hbuilt
  obtain ⟨found, hfound, -, rfl⟩ := Collected.addDocument_eq_none_iff.1 hcollected
  obtain rfl : definitions = found := Except.ok.inj (hparsed.symm.trans hfound)
  have hdistinct := Collected.isDistinct_addAll definitions
  have hnamed := Collected.isNamed_addAll hparsed
  have hnames := Collected.objectNames_of_build hbuild
  have htext : ∀ object ∈ schema.objects, object.HasText := fun object hobject =>
    (Collected.isRegular_of_build hdistinct hnamed hbuild object hobject).hasText
  refine ⟨layout settings schema, outline_eq_ok_iff.2 ⟨htext, rfl⟩,
    generate_eq_ok_iff.2 ⟨htext, rfl⟩, fun part hpart => ?_⟩
  have hname := Collected.mem_keys_addAll hpart {}
  rw [← hnames] at hname
  obtain ⟨object, hobject, hname⟩ := List.mem_map.1 hname
  refine ⟨object, ?_, ?_⟩
  · rw [Schema.object?, ← hname]
    exact find?_eq_some_of_nodup (hnames ▸ hdistinct.objectNames) hobject
  · rw [← hname]
    exact treatsAs_layout_isRootIn_iff hbuild hobject (htext object hobject) settings

/-- A root that an extension declares, and an entity that is no root. -/
def plainRoot : String :=
  "schema \x7b query: Root \x7d extend type Root \x7b user: User \x7d
    type User @key(fields: \"id\") \x7b id: ID \x7d"

theorem treatsAs_iff_plainRoot : ∃ definitions schema,
    Graphql.parseDocument plainRoot = .ok definitions ∧ schemaOfDocument plainRoot = .ok schema ∧
      isRootIn definitions "Root" = true ∧ isRootIn definitions "User" = false ∧
      schema.objects.map (·.isEntity) = [false, true] ∧
      ∃ file, outline {} schema = .ok file ∧ generate {} schema = .ok file.text ∧
        ∀ part, Definition.object part ∈ definitions → ∃ object,
          schema.object? part.name = some object ∧
          (TreatsAs file object (isRootIn definitions part.name) ↔
            (isRootIn definitions part.name = true →
              isDefinedRootIn definitions part.name = true ∧ object.isEntity = false)) := by
  have hroots : (Graphql.parseDocument plainRoot).map (fun definitions =>
      (isRootIn definitions "Root", isRootIn definitions "User")) = .ok (true, false) := by
    decide +kernel
  have hkinds : (schemaOfDocument plainRoot).map (fun schema =>
      schema.objects.map (·.isEntity)) = .ok [false, true] := by
    decide +kernel
  obtain ⟨definitions, hparsed, hroots⟩ := map_eq_ok_iff.1 hroots
  obtain ⟨schema, hbuilt, hkinds⟩ := map_eq_ok_iff.1 hkinds
  obtain ⟨hroot, huser⟩ := Prod.mk.inj hroots
  exact ⟨definitions, schema, hparsed, hbuilt, hroot, huser, hkinds,
    treatsAs_iff_of_document hparsed hbuilt {}⟩

/-- A document makes an object a root of operations, and its file takes the object for an
ordinary one: the entry is optional and the public shape declared. -/
def MissesRoot (document : RawText) (object : ObjectType) : Prop :=
  ∃ definitions schema file, Graphql.parseDocument document = .ok definitions ∧
    schemaOfDocument document = .ok schema ∧ outline {} schema = .ok file ∧
    schema.object? object.name = some object ∧ isRootIn definitions object.name = true ∧
    TreatsAs file object false ∧ ¬ TreatsAs file object true

theorem missesRoot_of_isRoot_eq_false {document : RawText} {object : ObjectType}
    (hroot : (Graphql.parseDocument document).map (isRootIn · object.name) = .ok true)
    (hbuilt : schemaOfDocument document = .ok { objects := [object] })
    (htext : ∀ resolver ∈ object.resolvers, resolver.parent ≠ "")
    (hkind : object.kind ≠ .entity []) (hunmarked : object.isRoot = false) :
    MissesRoot document object := by
  obtain ⟨definitions, hparsed, hroot⟩ := map_eq_ok_iff.1 hroot
  have hdistinct : (({ objects := [object] } : Schema).objects.map (·.name)).Nodup :=
    List.nodup_singleton _
  have htreats := treatsAs_layout_iff hdistinct (List.mem_singleton_self object) {}
  have hobject : object.HasText := ⟨hkind, fun resolver hresolver _ => htext resolver hresolver⟩
  refine ⟨definitions, _, _, hparsed, hbuilt,
    outline_eq_ok_iff.2 ⟨fun _ h => List.mem_singleton.1 h ▸ hobject, rfl⟩, ?_, hroot, ?_, ?_⟩
  · simp [Schema.object?]
  · exact (htreats false).2 ⟨hunmarked, by simp [declaresShape, hunmarked], by simp⟩
  · intro h
    have hmarked := ((htreats true).1 h).1
    simp [hunmarked] at hmarked

/-- A root with a key. -/
def keyedRoot : String :=
  "schema \x7b query: Root \x7d type Root @key(fields: \"id\") \x7b id: ID! \x7d"

/-- A root that an extension of the schema names. -/
def extendedRoot : String :=
  "extend schema \x7b query: Root \x7d type Root \x7b id: ID! \x7d"

/-- An object with a single field, as it is built. -/
def rootWith (kind : ObjectKind) (isMarked : Bool) : ObjectType where
  name := "Root"
  kind := kind
  fields := [{ name := "id", type := .nonNull (.named "ID") }]
  resolvers := [{
    name := "id", type := .nonNull (.named "ID"), parent := "Root", isRootType := isMarked }]

/-- Neither a root with keys nor one that an extension names is treated as a root, though the
resolvers of the former have its mark. -/
theorem missesRoot_keyedRoot_and_extendedRoot :
    MissesRoot keyedRoot (rootWith (.entity [[("id", .nonNull (.named "ID"))]]) true) ∧
      MissesRoot extendedRoot (rootWith .plain false) := by
  constructor
  all_goals
    refine missesRoot_of_isRoot_eq_false ?_ ?_ ?_ ?_ ?_ <;> decide +kernel

end ResolverTypings.Federation
