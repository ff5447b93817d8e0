import ResolverTypings.Proofs.Federation.Building
import ResolverTypings.Proofs.Federation.Runs

/-!
# Schemas grow

A schema that is built after more has been read continues the one built before. Nothing
moves and nothing that was resolved comes out in another way; an object may become a root,
a plain object an entity, and a field that nothing provided may become callable.
-/
namespace ResolverTypings

/-! ## Later schemas -/

/-- A resolver may turn into one of a root, and one that cannot be called into one that
can. All else stays. -/
structure Resolver.GrowsTo (resolver later : Resolver) : Prop where
  name : later.name = resolver.name
  type : later.type = resolver.type
  parent : later.parent = resolver.parent
  arguments : later.arguments = resolver.arguments
  requires : later.requires = resolver.requires
  description : later.description = resolver.description
  isRootType : resolver.isRootType = true → later.isRootType = true
  isUnresolvable : later.isUnresolvable = true → resolver.isUnresolvable = true

/-- An object keeps its fields, its resolvers and its keys at the front. -/
structure ObjectType.GrowsTo (object later : ObjectType) : Prop where
  name : later.name = object.name
  fields : object.fields <+: later.fields
  resolvers : ExtendsBy Resolver.GrowsTo object.resolvers later.resolvers
  kind : ∀ keys, object.kind = .entity keys → ∃ more, later.kind = .entity (keys ++ more)

/-- An enum keeps its values at the front. -/
structure EnumType.GrowsTo (enum later : EnumType) : Prop where
  name : later.name = enum.name
  values : enum.values <+: later.values

/-- The definitions of a schema are the first ones of the later schema. -/
structure Schema.GrowsTo (schema later : Schema) : Prop where
  objects : ExtendsBy ObjectType.GrowsTo schema.objects later.objects
  enums : ExtendsBy EnumType.GrowsTo schema.enums later.enums
  scalars : schema.scalars.map (·.name) <+: later.scalars.map (·.name)

namespace Federation

open Graphql (FieldDeclaration)

/-! ## From collected definitions to schemas -/

namespace Collected

section

variable {collected later : Collected} (covered : CoveredBy collected.objects later.objects)
  (hroots : collected.rootTypes ⊆ later.rootTypes)
  (hprovided : collected.provided ⊆ later.provided)

include covered hroots hprovided in
theorem resolverOf_growsTo {parent : String} {declaration : FieldDeclaration}
    {resolver resolver' : Resolver} (h : collected.resolverOf parent declaration = .ok resolver)
    (h' : later.resolverOf parent declaration = .ok resolver') : resolver.GrowsTo resolver' := by
  obtain ⟨requires, hrequires, rfl⟩ := resolverOf_eq_ok_iff.1 h
  obtain ⟨requires', hrequires', rfl⟩ := resolverOf_eq_ok_iff.1 h'
  obtain rfl : requires = requires' :=
    Except.ok.inj ((covered.requiredRecord hrequires).symm.trans hrequires')
  refine ⟨rfl, rfl, rfl, rfl, rfl, rfl, ?_, ?_⟩
  · intro hroot
    simp only [resolverWith, List.contains_iff_mem] at hroot ⊢
    exact hroots hroot
  · intro hmark
    simp only [resolverWith, Bool.and_eq_true, Bool.not_eq_true', List.contains_eq_mem,
      decide_eq_false_iff_not] at hmark ⊢
    exact ⟨hmark.1, fun hmem => hmark.2 (hprovided hmem)⟩

include covered hroots hprovided in
theorem objectOf_growsTo {name : String} {object object' : CollectedObject}
    (hgrows : object.GrowsTo object') {built built' : ObjectType}
    (h : collected.objectOf name object = .ok built)
    (h' : later.objectOf name object' = .ok built') : built.GrowsTo built' := by
  obtain ⟨resolvers, keys, hresolvers, hkeys, rfl⟩ := objectOf_eq_ok_iff.1 h
  obtain ⟨resolvers', keys', hresolvers', hkeys', rfl⟩ := objectOf_eq_ok_iff.1 h'
  have hkey : ∀ key key' record record', key = key' → collected.keyOf name key = .ok record →
      later.keyOf name key' = .ok record' → record = record' := by
    rintro key _ record record' rfl hrecord hrecord'
    exact Except.ok.inj ((keyOf_eq_ok_of_covered covered hrecord).symm.trans hrecord')
  have hprefix : keys <+: keys' :=
    (ExtendsBy.mapM hkey (.of_isPrefix hgrows.keys) hkeys hkeys').to_isPrefix
  refine ⟨rfl, hgrows.fields.map fieldOf, ?_, ?_⟩
  · exact ExtendsBy.mapM (fun declaration _ _ _ heq hresolver hresolver' =>
      resolverOf_growsTo covered hroots hprovided hresolver (heq ▸ hresolver'))
      (.of_isPrefix hgrows.fields) hresolvers hresolvers'
  · intro found hfound
    obtain ⟨more, rfl⟩ := hprefix
    cases keys with
    | nil => simp [objectWith] at hfound
    | cons key rest =>
      obtain rfl : key :: rest = found := by simpa [objectWith] using hfound
      exact ⟨more, rfl⟩

end

/-- Building keeps growth, if all fields noted before are noted as well. -/
theorem schema_growsTo {collected later : Collected} (hgrows : collected.GrowsTo later)
    (hprovided : collected.provided ⊆ later.provided) {schema schema' : Schema}
    (h : collected.schema = .ok schema) (h' : later.schema = .ok schema') :
    schema.GrowsTo schema' := by
  obtain ⟨objects, hobjects, rfl⟩ := schema_eq_ok_iff.1 h
  obtain ⟨objects', hobjects', rfl⟩ := schema_eq_ok_iff.1 h'
  refine ⟨?_, ?_, ?_⟩
  · refine ExtendsBy.mapM ?_ hgrows.objects hobjects hobjects'
    rintro ⟨name, object⟩ ⟨_, object'⟩ built built' ⟨rfl, hobject⟩ hbuilt hbuilt'
    exact objectOf_growsTo hgrows.coveredBy hgrows.rootTypes hprovided hobject hbuilt hbuilt'
  · exact ExtendsBy.map (fun _ _ henum => ⟨henum.1.symm, henum.2⟩) hgrows.enums
  · simp only [List.map_map]
    exact ExtendsBy.prefix_map (fun _ _ hscalar => hscalar.1) hgrows.scalars

end Collected

/-- **Schemas only grow.** If builds succeed after a run and after any continuation of it,
documents that fail included, the later schema continues the earlier one. -/
theorem schema_growsTo_of_run {steps more : List Step} {schema later : Schema}
    (hbefore : (SchemaReader.run {} steps).build.2 = .ok schema)
    (hafter : (SchemaReader.run {} (steps ++ more)).build.2 = .ok later) :
    schema.GrowsTo later := by
  rw [SchemaReader.build_eq_ok_iff, Collected.build_eq_ok_iff] at hbefore hafter
  have hgrows : (SchemaReader.run {} steps).collected.GrowsTo
      (SchemaReader.run {} (steps ++ more)).collected := by
    rw [SchemaReader.run_append]
    exact SchemaReader.growsTo_run _ more
  have hprovided : (SchemaReader.run {} steps).collected.noteProvided.1.provided ⊆
      (SchemaReader.run {} (steps ++ more)).collected.noteProvided.1.provided := by
    intro target htarget
    rw [Collected.mem_provided_iff (SchemaReader.notedSoundly_run _) hbefore.1] at htarget
    rw [Collected.mem_provided_iff (SchemaReader.notedSoundly_run _) hafter.1]
    exact hgrows.isProvided htarget
  refine Collected.schema_growsTo ?_ hprovided hbefore.2 hafter.2
  exact ⟨hgrows.rootTypes, hgrows.objects, hgrows.enums, hgrows.scalars⟩

/-- A field that leads to a type without keys. -/
def beforeKeys : List Step := [
  .read "roots" "type Root \x7b user: User \x7d",
  .read "users" "type User \x7b id: ID @external \x7d"]

/-- A key for the type, in a document that fails behind it, and a root. -/
def laterKeys : List Step := [
  .read "keys" "extend type User @key(fields: \"id\") \x7b age: Int \x7d
    type Pet @key enum Kind \x7b CAT \x7d",
  .read "schema" "schema \x7b query: Root \x7d"]

/-- What a document adds before it fails makes a plain object an entity. -/
theorem schema_growsTo_laterKeys :
    ∃ schema later, (SchemaReader.run {} beforeKeys).build.2 = .ok schema ∧
      (SchemaReader.run {} (beforeKeys ++ laterKeys)).build.2 = .ok later ∧
      schema.entities.length = 0 ∧ later.entities.length = 1 ∧ schema.GrowsTo later := by
  have hbefore : (SchemaReader.run {} beforeKeys).build.2.map (·.entities.length) = .ok 0 := by
    decide +kernel
  have hafter : (SchemaReader.run {} (beforeKeys ++ laterKeys)).build.2.map
      (·.entities.length) = .ok 1 := by
    decide +kernel
  obtain ⟨schema, hbefore, hnone⟩ := map_eq_ok_iff.1 hbefore
  obtain ⟨later, hafter, hone⟩ := map_eq_ok_iff.1 hafter
  exact ⟨schema, later, hbefore, hafter, hnone, hone, schema_growsTo_of_run hbefore hafter⟩

end Federation
end ResolverTypings
