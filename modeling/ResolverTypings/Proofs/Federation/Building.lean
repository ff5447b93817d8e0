import ResolverTypings.Federation.Reader
import ResolverTypings.Proofs.Federation.Provided

/-!
# When building succeeds

A schema is built if no field set fails to resolve, and then it is made of the collected
definitions one by one. The fields noted as provided have a say in a single mark of each
resolver: neither the errors nor the order of what is built depend on them.
-/
namespace ResolverTypings.Federation

open Graphql (FieldDeclaration)
open Text (RawText)

namespace Collected

/-! ## Definitions one by one -/

/-- The resolver of a field that reads the given record beside its parent. -/
def resolverWith (collected : Collected) (parent : String) (declaration : FieldDeclaration)
    (requires : Record) : Resolver where
  name := declaration.name
  type := fieldTypeOf declaration.type
  parent := parent
  arguments := declaration.arguments.map argumentOf
  requires := requires
  description := declaration.description
  isRootType := collected.rootTypes.contains parent
  isUnresolvable := !(directivesNamed declaration.directives "external").isEmpty &&
    !collected.provided.contains (parent, declaration.name)

theorem resolverOf_eq_ok_iff {collected : Collected} {parent : String}
    {declaration : FieldDeclaration} {resolver : Resolver} :
    collected.resolverOf parent declaration = .ok resolver ↔
      ∃ requires, requiredRecord collected.objects parent []
          (directivesNamed declaration.directives "requires") = .ok requires ∧
        resolver = collected.resolverWith parent declaration requires := by
  simp only [resolverOf, bind_eq_ok_iff, pure_eq_ok_iff]
  rfl

theorem keyOf_eq_ok_iff {collected : Collected} {type : String} {key : RawText} {record : Record} :
    collected.keyOf type key = .ok record ↔ ∃ set, FieldSet.parse "key" key = .ok set ∧
      recordOf collected.objects type set = .ok record := by
  simp [keyOf, bind_eq_ok_iff]

/-- The record of a key stays the same where more is declared. -/
theorem keyOf_eq_ok_of_covered {collected later : Collected}
    (covered : CoveredBy collected.objects later.objects) {type : String} {key : RawText} {record : Record}
    (h : collected.keyOf type key = .ok record) : later.keyOf type key = .ok record := by
  obtain ⟨set, hset, hrecord⟩ := keyOf_eq_ok_iff.1 h
  exact keyOf_eq_ok_iff.2 ⟨set, hset, covered.recordOf hrecord⟩

/-- The object type with the given resolvers and keys. -/
def objectWith (collected : Collected) (name : String) (object : CollectedObject)
    (resolvers : List Resolver) (keys : List Record) : ObjectType where
  name := name
  kind := if keys.isEmpty then .plain else .entity keys
  fields := object.fields.map fieldOf
  resolvers := resolvers
  description := object.description
  isRootType := keys.isEmpty && collected.rootTypes.contains name

theorem objectOf_eq_ok_iff {collected : Collected} {name : String} {object : CollectedObject}
    {built : ObjectType} :
    collected.objectOf name object = .ok built ↔ ∃ resolvers keys,
      object.fields.mapM (collected.resolverOf name) = .ok resolvers ∧
        object.keys.mapM (collected.keyOf name) = .ok keys ∧
        built = collected.objectWith name object resolvers keys := by
  simp only [objectOf, bind_eq_ok_iff, pure_eq_ok_iff]
  constructor
  · rintro ⟨resolvers, hresolvers, keys, hkeys, rfl⟩
    exact ⟨resolvers, keys, hresolvers, hkeys, rfl⟩
  · rintro ⟨resolvers, keys, hresolvers, hkeys, rfl⟩
    exact ⟨resolvers, hresolvers, keys, hkeys, rfl⟩

/-- An object with keys is an entity with these keys. -/
theorem kind_objectWith_eq_entity_iff {collected : Collected} {name : String}
    {object : CollectedObject} {resolvers : List Resolver} {keys found : List Record} :
    (collected.objectWith name object resolvers keys).kind = .entity found ↔
      keys = found ∧ keys ≠ [] := by
  cases keys <;> simp [objectWith]

/-- The resolvers of an object that is built belong to its declarations, one to each. -/
theorem forall₂_of_objectOf {collected : Collected} {name : String} {object : CollectedObject}
    {built : ObjectType} (h : collected.objectOf name object = .ok built) :
    built.name = name ∧ built.fields = object.fields.map fieldOf ∧
      List.Forall₂ (fun declaration resolver => ∃ requires,
        resolver = collected.resolverWith name declaration requires)
        object.fields built.resolvers := by
  obtain ⟨resolvers, keys, hresolvers, -, rfl⟩ := objectOf_eq_ok_iff.1 h
  refine ⟨rfl, rfl, (mapM_eq_ok_iff.1 hresolvers).imp fun declaration resolver hresolver => ?_⟩
  obtain ⟨requires, -, heq⟩ := resolverOf_eq_ok_iff.1 hresolver
  exact ⟨requires, heq⟩

/-- An enum as it is built. -/
def enumOf (entry : String × CollectedEnum) : EnumType :=
  ⟨entry.1, entry.2.values, entry.2.description⟩

/-- A scalar as it is built. -/
def scalarOf (entry : String × Option RawText) : ScalarType :=
  ⟨entry.1, entry.2⟩

theorem schema_eq_ok_iff {collected : Collected} {schema : Schema} :
    collected.schema = .ok schema ↔ ∃ objects,
      collected.objects.mapM (fun entry => collected.objectOf entry.1 entry.2) = .ok objects ∧
        schema = ⟨objects, collected.enums.map enumOf, collected.scalars.map scalarOf⟩ := by
  simp only [Collected.schema, bind_eq_ok_iff, pure_eq_ok_iff]
  rfl

/-! ## The whole build -/

theorem fst_build (collected : Collected) :
    collected.build.1 = match collected.noteProvided.2 with
      | some error => .error error
      | none => collected.noteProvided.1.schema := by
  cases h : collected.noteProvided with
  | mk noted error => cases error <;> simp [build, h]

theorem build_eq_ok_iff {collected : Collected} {schema : Schema} :
    collected.build.1 = .ok schema ↔
      collected.noteProvided.2 = none ∧ collected.noteProvided.1.schema = .ok schema := by
  rw [fst_build]
  cases collected.noteProvided.2 <;> simp

/-- The objects of a schema that is built, one by one. -/
theorem forall₂_of_build {collected : Collected} {schema : Schema}
    (h : collected.build.1 = .ok schema) :
    List.Forall₂ (fun entry built =>
        collected.noteProvided.1.objectOf entry.1 entry.2 = .ok built)
      collected.objects schema.objects := by
  obtain ⟨objects, hobjects, rfl⟩ := schema_eq_ok_iff.1 (build_eq_ok_iff.1 h).2
  exact mapM_eq_ok_iff.1 hobjects

/-- The objects of a schema have the names of those collected, in the same order. -/
theorem objectNames_of_build {collected : Collected} {schema : Schema}
    (h : collected.build.1 = .ok schema) :
    schema.objects.map (·.name) = collected.objects.keys := by
  refine (map_eq_map_of_forall₂ (fun entry built hobject => ?_) (forall₂_of_build h)).symm
  exact (forall₂_of_objectOf hobject).1.symm

/-- Schemas differ only if different fields are noted. -/
theorem schema_withProvided_congr (collected : Collected) {noted other : List (String × String)}
    (h : ∀ target, target ∈ noted ↔ target ∈ other) :
    (collected.withProvided noted).schema = (collected.withProvided other).schema := by
  have hcontains : ∀ target, noted.contains target = other.contains target := by
    intro target
    rw [Bool.eq_iff_iff, List.contains_iff_mem, List.contains_iff_mem, h]
  have hresolver : (collected.withProvided noted).resolverOf =
      (collected.withProvided other).resolverOf := by
    funext parent declaration
    simp only [resolverOf, withProvided, hcontains]
  have hobject : (collected.withProvided noted).objectOf =
      (collected.withProvided other).objectOf := by
    funext name object
    simp only [objectOf, hresolver]
    rfl
  simp only [Collected.schema, hobject]
  rfl

/-- What a build comes to does not depend on fields noted before, if they are provided. -/
theorem build_eq_of_notedSoundly {collected : Collected} (h : collected.NotedSoundly) :
    collected.build.1 = (collected.withProvided []).build.1 := by
  have hempty : (collected.withProvided []).NotedSoundly := by
    intro target htarget
    simp [withProvided] at htarget
  rw [fst_build, fst_build]
  cases herror : collected.noteProvided.2 with
  | some error =>
    have herror' : (collected.withProvided []).noteProvided.2 = some error := herror
    rw [herror']
  | none =>
    have herror' : (collected.withProvided []).noteProvided.2 = none := herror
    rw [herror']
    refine schema_withProvided_congr collected fun target => ?_
    exact (mem_provided_iff h herror).trans (mem_provided_iff hempty herror').symm

/-- A document is collected as a whole if it can be read and none of its definitions has a
fault. -/
theorem addDocument_eq_none_iff {collected next : Collected} {document : RawText} :
    collected.addDocument document = (next, none) ↔ ∃ definitions,
      Graphql.parseDocument document = .ok definitions ∧
        definitions.findSome? faultOf = none ∧ next = collected.addAll definitions := by
  unfold addDocument
  cases Graphql.parseDocument document with
  | error error => simp
  | ok definitions =>
    obtain ⟨hfault, hall⟩ := addDefinitions_eq collected definitions
    simp only [Except.ok.injEq, exists_eq_left', Prod.mk.injEq, Option.map_eq_none_iff, hfault]
    constructor
    · rintro ⟨rfl, hnone⟩
      exact ⟨hnone, hall hnone⟩
    · rintro ⟨hnone, rfl⟩
      exact ⟨hall hnone, hnone⟩

end Collected

/-- A single document makes a schema if it is collected as a whole and can be built. -/
theorem schemaOfDocument_eq_ok_iff {document : RawText} {schema : Schema} :
    schemaOfDocument document = .ok schema ↔ ∃ collected,
      Collected.addDocument {} document = (collected, none) ∧ collected.build.1 = .ok schema := by
  unfold schemaOfDocument
  cases Collected.addDocument {} document with
  | mk collected error =>
    cases error with
    | some error => simp
    | none => cases hbuilt : collected.build.1 <;> simp [hbuilt, Except.mapError]

theorem SchemaReader.build_eq_ok_iff {reader : SchemaReader} {schema : Schema} :
    reader.build.2 = .ok schema ↔ reader.collected.build.1 = .ok schema := by
  simp only [SchemaReader.build]
  cases reader.collected.build.1 <;> simp [Except.mapError]

end ResolverTypings.Federation
