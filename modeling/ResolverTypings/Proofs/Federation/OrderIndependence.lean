import ResolverTypings.Proofs.Federation.Building
import ResolverTypings.Proofs.Federation.Compatibility
import ResolverTypings.Proofs.Federation.Runs

/-!
# The order of definitions

Definitions that do not conflict make the same schema in any order, up to the order of its
own lists, and however they are split over documents. One order makes none if and only if
the other makes none: a fault of a definition is its own, and with the same declarations
the same field sets resolve.
-/
namespace ResolverTypings

/-! ## Schemas up to order -/

/-- The kinds of two objects, up to the order of keys. -/
inductive ObjectKind.SameUpToOrder : ObjectKind → ObjectKind → Prop where
  | plain : SameUpToOrder .plain .plain
  | entity {keys keys' : List Record} :
      keys.Perm keys' → SameUpToOrder (.entity keys) (.entity keys')

/-- Two objects up to the order of their fields, resolvers and keys. -/
structure ObjectType.SameUpToOrder (object object' : ObjectType) : Prop where
  name : object.name = object'.name
  kind : object.kind.SameUpToOrder object'.kind
  fields : object.fields.Perm object'.fields
  resolvers : object.resolvers.Perm object'.resolvers
  description : object.description = object'.description
  isRootType : object.isRootType = object'.isRootType

/-- Two enums up to the order of their values. -/
structure EnumType.SameUpToOrder (enum enum' : EnumType) : Prop where
  name : enum.name = enum'.name
  values : enum.values.Perm enum'.values
  description : enum.description = enum'.description

/-- Two schemas up to the order of their definitions and of what these list. -/
structure Schema.SameUpToOrder (schema schema' : Schema) : Prop where
  objects : RearrangesBy ObjectType.SameUpToOrder schema.objects schema'.objects
  enums : RearrangesBy EnumType.SameUpToOrder schema.enums schema'.enums
  scalars : schema.scalars.Perm schema'.scalars

namespace Federation

open Graphql (Definition FieldDeclaration ObjectPart)
open Text (RawText)

/-! ## Building -/

namespace Collected

section

variable {collected collected' : Collected}
  (covered : CoveredBy collected.objects collected'.objects)
  (hroots : ∀ name, name ∈ collected.rootTypes ↔ name ∈ collected'.rootTypes)
  (hprovided : ∀ target, target ∈ collected.provided ↔ target ∈ collected'.provided)

include covered hroots hprovided in
theorem resolverOf_eq_ok {parent : String} {declaration : FieldDeclaration} {resolver : Resolver}
    (h : collected.resolverOf parent declaration = .ok resolver) :
    collected'.resolverOf parent declaration = .ok resolver := by
  obtain ⟨requires, hrequires, rfl⟩ := resolverOf_eq_ok_iff.1 h
  refine resolverOf_eq_ok_iff.2 ⟨requires, covered.requiredRecord hrequires, ?_⟩
  simp [resolverWith, hroots, hprovided]

include covered hroots hprovided in
theorem objectOf_sameUpToOrder {name : String} {object object' : CollectedObject}
    (hsame : object.SameUpToOrder object') {built : ObjectType}
    (h : collected.objectOf name object = .ok built) :
    ∃ built', built.SameUpToOrder built' ∧ collected'.objectOf name object' = .ok built' := by
  obtain ⟨resolvers, keys, hresolvers, hkeys, rfl⟩ := objectOf_eq_ok_iff.1 h
  obtain ⟨resolvers', hresolvers', hresolversPerm⟩ := exists_mapM_of_perm
    (fun _ _ hresolver => resolverOf_eq_ok covered hroots hprovided hresolver)
    hsame.fields hresolvers
  obtain ⟨keys', hkeys', hkeysPerm⟩ := exists_mapM_of_perm
    (fun _ _ hkey => keyOf_eq_ok_of_covered covered hkey) hsame.keys hkeys
  refine ⟨collected'.objectWith name object' resolvers' keys', ?_,
    objectOf_eq_ok_iff.2 ⟨resolvers', keys', hresolvers', hkeys', rfl⟩⟩
  have hempty : keys.isEmpty = keys'.isEmpty := hkeysPerm.isEmpty_eq
  constructor
  case name => rfl
  case kind =>
    cases hkey : keys'.isEmpty with
    | true => simpa [objectWith, hempty, hkey] using ObjectKind.SameUpToOrder.plain
    | false => simpa [objectWith, hempty, hkey] using ObjectKind.SameUpToOrder.entity hkeysPerm
  case fields => exact hsame.fields.map fieldOf
  case resolvers => exact hresolversPerm
  case description => exact hsame.description
  case isRootType => simp [objectWith, hempty, hroots]

end

/-- Collections that are the same up to order make the same schema up to order. -/
theorem SameUpToOrder.build {collected collected' : Collected}
    (same : collected.SameUpToOrder collected') (same' : collected'.SameUpToOrder collected)
    (hdistinct : collected.IsDistinct) (hdistinct' : collected'.IsDistinct)
    (hsound : collected.NotedSoundly) (hsound' : collected'.NotedSoundly)
    {schema : Schema} (h : collected.build.1 = .ok schema) :
    ∃ schema', collected'.build.1 = .ok schema' ∧ schema.SameUpToOrder schema' := by
  obtain ⟨hnoted, hschema⟩ := build_eq_ok_iff.1 h
  obtain ⟨objects, hobjects, rfl⟩ := schema_eq_ok_iff.1 hschema
  have covered := same.coveredBy hdistinct hdistinct'
  have covered' := same'.coveredBy hdistinct' hdistinct
  have hnoted' : collected'.noteProvided.2 = none := by
    rw [snd_noteProvided, providedByAll_eq_none_iff] at hnoted ⊢
    intro declaration hmem
    exact covered.providedBy (hnoted declaration (same'.declarationsIn_subset hdistinct' hmem))
  have hprovided : ∀ target, target ∈ collected.noteProvided.1.provided ↔
      target ∈ collected'.noteProvided.1.provided := by
    intro target
    rw [mem_provided_iff hsound hnoted, mem_provided_iff hsound' hnoted']
    exact ⟨covered.isProvided (same.declarationsIn_subset hdistinct),
      covered'.isProvided (same'.declarationsIn_subset hdistinct')⟩
  have hobject : ∀ (entry entry' : String × CollectedObject) (built : ObjectType),
      collected.noteProvided.1.objectOf entry.1 entry.2 = .ok built →
      entry.1 = entry'.1 ∧ entry.2.SameUpToOrder entry'.2 →
      ∃ built', built.SameUpToOrder built' ∧
        collected'.noteProvided.1.objectOf entry'.1 entry'.2 = .ok built' := by
    rintro ⟨name, object⟩ ⟨_, object'⟩ built hbuilt ⟨rfl, hsame⟩
    have hcovered : CoveredBy collected.noteProvided.1.objects
        collected'.noteProvided.1.objects := covered
    exact objectOf_sameUpToOrder hcovered same.rootTypes hprovided hsame hbuilt
  obtain ⟨objects', hobjects', hrearranged⟩ := RearrangesBy.mapM hobject
    (Table.rearrangesBy_of_get? hdistinct.objectNames hdistinct'.objectNames same.objects)
    hobjects
  refine ⟨_, build_eq_ok_iff.2 ⟨hnoted', schema_eq_ok_iff.2 ⟨objects', hobjects', rfl⟩⟩, ?_⟩
  constructor
  case objects => exact hrearranged
  case enums =>
    exact (Table.rearrangesBy_of_get? hdistinct.enumNames hdistinct'.enumNames same.enums).map
      fun _ _ henum => ⟨henum.1, henum.2.values, henum.2.description⟩
  case scalars =>
    refine RearrangesBy.to_perm ?_
    exact (Table.rearrangesBy_of_get? hdistinct.scalarNames hdistinct'.scalarNames
      same.scalars).map fun _ _ hscalar => by rw [Prod.ext hscalar.1 hscalar.2]

/-- Definitions that make a schema do so in any order. -/
theorem exists_build_of_perm {definitions definitions' : List Definition}
    (hperm : definitions.Perm definitions') (hcompatible : Compatible definitions)
    {schema : Schema} (h : (({} : Collected).addAll definitions).build.1 = .ok schema) :
    ∃ schema', (({} : Collected).addAll definitions').build.1 = .ok schema' ∧
      schema.SameUpToOrder schema' := by
  have hsound : ∀ definitions, (({} : Collected).addAll definitions).NotedSoundly :=
    addAll_induction (fun _ definition h => h.addDefinition definition) .empty
  have same := sameUpToOrder_addAll hperm hcompatible
  have same' := sameUpToOrder_addAll hperm.symm (hcompatible.perm hperm)
  exact same.build same' (isDistinct_addAll _) (isDistinct_addAll _) (hsound _) (hsound _) h

theorem addDefinitions_append (collected : Collected) (definitions more : List Definition) :
    collected.addDefinitions (definitions ++ more) =
      match collected.addDefinitions definitions with
      | (next, none) => next.addDefinitions more
      | (next, some error) => (next, some error) := by
  induction definitions generalizing collected with
  | nil => rfl
  | cons definition rest ih =>
    cases hstep : collected.addDefinition definition with
    | mk next error =>
      cases error with
      | none => simpa [addDefinitions, hstep] using ih next
      | some error => simp [addDefinitions, hstep]

end Collected

/-! ## Documents -/

/-- The definitions of documents that all follow the grammar, in order. -/
def definitionsOf (documents : List (String × RawText)) :
    Except Graphql.SyntaxError (List Definition) := do
  let definitions ← documents.mapM fun document => Graphql.parseDocument document.2
  return definitions.flatten

/-- Read documents in order under their names, up to an error. -/
def SchemaReader.readDocuments (reader : SchemaReader) :
    List (String × RawText) → SchemaReader × Option ReadError
  | [] => (reader, none)
  | (name, document) :: rest =>
    match reader.readDocument name document with
    | (next, none) => next.readDocuments rest
    | (next, some error) => (next, some error)

/-- Read documents in order with a new reader and build the schema of everything read. -/
def schemaOfDocuments (documents : List (String × RawText)) : Except ReadError Schema :=
  match ({} : SchemaReader).readDocuments documents with
  | (_, some error) => .error error
  | (reader, none) => reader.build.2

/-- Documents are read like one document with all their definitions. -/
theorem SchemaReader.readDocuments_eq {documents : List (String × RawText)}
    {definitions : List Definition} (h : definitionsOf documents = .ok definitions)
    (reader : SchemaReader) :
    (reader.readDocuments documents).1.collected =
        (reader.collected.addDefinitions definitions).1 ∧
      ((reader.readDocuments documents).2 = none ↔
        (reader.collected.addDefinitions definitions).2 = none) := by
  simp only [definitionsOf, bind_eq_ok_iff, pure_eq_ok_iff, mapM_eq_ok_iff] at h
  obtain ⟨parsed, hparsed, rfl⟩ := h
  -- The next document is read only if no definition before it has a fault.
  induction hparsed generalizing reader with
  | nil => exact ⟨rfl, by simp [readDocuments, Collected.addDefinitions]⟩
  | @cons document first documents rest hfirst _ ih =>
    obtain ⟨name, text⟩ := document
    rw [List.flatten_cons, Collected.addDefinitions_append]
    cases hadd : reader.collected.addDefinitions first with
    | mk next error =>
      cases error with
      | none =>
        have hread : reader.readDocument name text = (⟨next, name⟩, none) := by
          simp [readDocument, Collected.addDocument, hfirst, hadd]
        simpa [readDocuments, hread] using ih ⟨next, name⟩
      | some error =>
        have hread : reader.readDocument name text = (⟨next, name⟩, some (.schemaError error)) := by
          simp [readDocument, Collected.addDocument, hfirst, hadd, DocumentError.toReadError]
        simp [readDocuments, hread]

theorem schemaOfDocuments_eq_ok_iff {documents : List (String × RawText)}
    {definitions : List Definition} (hparsed : definitionsOf documents = .ok definitions)
    {schema : Schema} :
    schemaOfDocuments documents = .ok schema ↔ definitions.findSome? faultOf = none ∧
      (({} : Collected).addAll definitions).build.1 = .ok schema := by
  obtain ⟨hcollected, herror⟩ := SchemaReader.readDocuments_eq hparsed {}
  obtain ⟨hfault, hall⟩ := Collected.addDefinitions_eq {} definitions
  rw [hfault] at herror
  unfold schemaOfDocuments
  cases hread : ({} : SchemaReader).readDocuments documents with
  | mk reader error =>
    rw [hread] at hcollected herror
    cases error with
    | some error =>
      have hfaulty : definitions.findSome? faultOf ≠ none := by
        intro hnone
        cases herror.2 hnone
      constructor
      · intro hbuilt
        cases hbuilt
      · rintro ⟨hnone, -⟩
        exact absurd hnone hfaulty
    | none =>
      have hnone := herror.1 rfl
      rw [SchemaReader.build_eq_ok_iff, hcollected, hall hnone]
      simp [hnone]

/-- **Order does not matter.** Take documents whose definitions do not conflict, and
documents with the same definitions in another order and split in another way. Either both
make a schema or neither does, and the schemas are the same up to the order of their
definitions and of the fields, resolvers, keys and values in them. -/
theorem schemaOfDocuments_perm {documents documents' : List (String × RawText)}
    {definitions definitions' : List Definition}
    (hparsed : definitionsOf documents = .ok definitions)
    (hparsed' : definitionsOf documents' = .ok definitions')
    (hperm : definitions.Perm definitions') (hcompatible : Compatible definitions) :
    ((∃ schema, schemaOfDocuments documents = .ok schema) ↔
        ∃ schema, schemaOfDocuments documents' = .ok schema) ∧
      ∀ schema schema', schemaOfDocuments documents = .ok schema →
        schemaOfDocuments documents' = .ok schema' → schema.SameUpToOrder schema' := by
  have hfaults : definitions.findSome? faultOf = none ↔
      definitions'.findSome? faultOf = none := by
    simp only [List.findSome?_eq_none_iff, hperm.mem_iff]
  simp only [schemaOfDocuments_eq_ok_iff hparsed, schemaOfDocuments_eq_ok_iff hparsed', hfaults]
  refine ⟨⟨?_, ?_⟩, ?_⟩
  · rintro ⟨schema, hfault, hbuilt⟩
    obtain ⟨schema', hbuilt', -⟩ := Collected.exists_build_of_perm hperm hcompatible hbuilt
    exact ⟨schema', hfault, hbuilt'⟩
  · rintro ⟨schema', hfault, hbuilt'⟩
    obtain ⟨schema, hbuilt, -⟩ :=
      Collected.exists_build_of_perm hperm.symm (hcompatible.perm hperm) hbuilt'
    exact ⟨schema, hfault, hbuilt⟩
  · rintro schema schema' ⟨-, hbuilt⟩ ⟨-, hbuilt'⟩
    obtain ⟨found, hfound, hsame⟩ := Collected.exists_build_of_perm hperm hcompatible hbuilt
    obtain rfl : found = schema' := Except.ok.inj (hfound.symm.trans hbuilt')
    exact hsame

/-! ### Extensions and roots the other way round -/

/-- The extension of a type with a key. -/
def userPart : ObjectPart where
  name := "User"
  isExtension := true
  directives := [⟨"key", [("fields", some "id")]⟩]
  fields := [⟨"id", .named "ID", [], [], none⟩, ⟨"pet", .named "Pet", [], [], none⟩]
  description := none

/-- The extension of a type with an external field. -/
def petPart : ObjectPart where
  name := "Pet"
  isExtension := true
  directives := []
  fields := [⟨"age", .named "Int", [], [⟨"external", []⟩], none⟩]
  description := none

/-- A root with a field that provides the external one. -/
def rootPart : ObjectPart where
  name := "Root"
  isExtension := false
  directives := []
  fields := [⟨"user", .named "User", [],
    [⟨"provides", [("fields", some "pet\x7bage\x7d")]⟩], none⟩]
  description := none

/-- Types before the root that leads to them, and the schema last. -/
def rootsLast : List (String × RawText) := [
  ("users", "extend type User @key(fields: \"id\") \x7b id: ID pet: Pet \x7d"),
  ("pets", "extend type Pet \x7b age: Int @external \x7d"),
  ("roots", "type Root \x7b user: User @provides(fields: \"pet\x7bage\x7d\") \x7d
    schema \x7b query: Root \x7d")]

/-- The same from the schema on, with the types in one document. -/
def rootsFirst : List (String × RawText) := [
  ("schema", "schema \x7b query: Root \x7d"),
  ("roots", "type Root \x7b user: User @provides(fields: \"pet\x7bage\x7d\") \x7d"),
  ("types", "extend type Pet \x7b age: Int @external \x7d
    extend type User @key(fields: \"id\") \x7b id: ID pet: Pet \x7d")]

/-- The two orders make the objects in different orders. -/
theorem schemaOfDocuments_perm_rootsLast : ∃ schema schema',
    schemaOfDocuments rootsLast = .ok schema ∧ schemaOfDocuments rootsFirst = .ok schema' ∧
      schema.objects.map (·.name) = ["User", "Pet", "Root"] ∧
      schema'.objects.map (·.name) = ["Root", "Pet", "User"] ∧
      schema.SameUpToOrder schema' := by
  have hlast : definitionsOf rootsLast =
      .ok [.object userPart, .object petPart, .object rootPart, .schema ["Root"]] := by
    decide +kernel
  have hfirst : definitionsOf rootsFirst =
      .ok [.schema ["Root"], .object rootPart, .object petPart, .object userPart] := by
    decide +kernel
  have hnames : (({} : Collected).addAll
      [.object userPart, .object petPart, .object rootPart, .schema ["Root"]]).build.1.map
        (·.objects.map (·.name)) = .ok ["User", "Pet", "Root"] := by
    decide +kernel
  have hnames' : (({} : Collected).addAll
      [.schema ["Root"], .object rootPart, .object petPart, .object userPart]).build.1.map
        (·.objects.map (·.name)) = .ok ["Root", "Pet", "User"] := by
    decide +kernel
  obtain ⟨schema, hbuilt, hnames⟩ := map_eq_ok_iff.1 hnames
  obtain ⟨schema', hbuilt', hnames'⟩ := map_eq_ok_iff.1 hnames'
  have hschema := (schemaOfDocuments_eq_ok_iff hlast).2 ⟨by decide +kernel, hbuilt⟩
  have hschema' := (schemaOfDocuments_eq_ok_iff hfirst).2 ⟨by decide +kernel, hbuilt'⟩
  have hsame := (schemaOfDocuments_perm hlast hfirst (by decide +kernel)
    (by decide +kernel)).2 schema schema' hschema hschema'
  exact ⟨schema, schema', hschema, hschema', hnames, hnames', hsame⟩

end Federation
end ResolverTypings
