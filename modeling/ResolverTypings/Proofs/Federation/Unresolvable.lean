import ResolverTypings.Proofs.Federation.Building
import ResolverTypings.Proofs.Federation.Runs

/-!
# Fields that are resolved elsewhere

A resolver is marked as one that cannot be called if its field is external and no field
here provides it. The mark means just that, wherever the providing field stands and
however deeply its field set selects the one provided.
-/
namespace ResolverTypings.Federation

open Graphql (FieldDeclaration)

/-- Whether a declaration says that its field is resolved elsewhere. -/
def IsExternal (declaration : FieldDeclaration) : Prop :=
  ∃ directive ∈ declaration.directives, directive.name = "external"

namespace Collected

theorem isUnresolvable_resolverWith_iff (collected : Collected) (parent : String)
    (declaration : FieldDeclaration) (requires : Record) :
    (collected.resolverWith parent declaration requires).isUnresolvable = true ↔
      IsExternal declaration ∧ (parent, declaration.name) ∉ collected.provided := by
  simp [resolverWith, IsExternal, directivesNamed]

end Collected

/-- A schema has an object for each collected one and a resolver for each of its fields,
and a resolver is marked if and only if the declaration of its field is external and no
collected declaration has a directive whose field set leads to the field. -/
structure MarksUnprovided (objects : Table String CollectedObject) (schema : Schema) : Prop where
  objectNames : schema.objects.map (·.name) = objects.keys
  resolverNames : ∀ object ∈ schema.objects,
    object.resolvers.map (·.name) = object.fields.map (·.name)
  isUnresolvable_iff : ∀ object ∈ schema.objects, ∀ resolver ∈ object.resolvers,
    ∃ declaration, findField objects object.name resolver.name = .ok declaration ∧
      (resolver.isUnresolvable = true ↔
        IsExternal declaration ∧ ¬ IsProvided objects (object.name, resolver.name))

/-- **What the mark means.** After any run on a new reader, a build that succeeds marks
just the resolvers of external fields that nothing collected provides. -/
theorem marksUnprovided_of_run {steps : List Step} {schema : Schema}
    (hbuilt : (SchemaReader.run {} steps).build.2 = .ok schema) :
    MarksUnprovided (SchemaReader.run {} steps).collected.objects schema := by
  have hdistinct := SchemaReader.isDistinct_run steps
  have hsound := SchemaReader.notedSoundly_run steps
  rw [SchemaReader.build_eq_ok_iff] at hbuilt
  generalize (SchemaReader.run {} steps).collected = collected at *
  have hobjects := Collected.forall₂_of_build hbuilt
  have hok := (Collected.build_eq_ok_iff.1 hbuilt).1
  constructor
  case objectNames =>
    refine (map_eq_map_of_forall₂ (fun entry built hobject => ?_) hobjects).symm
    exact (Collected.forall₂_of_objectOf hobject).1.symm
  case resolverNames =>
    intro object hobject
    obtain ⟨⟨name, source⟩, -, hobject⟩ := exists_mem_of_forall₂ hobjects hobject
    obtain ⟨-, hfields, hresolvers⟩ := Collected.forall₂_of_objectOf hobject
    rw [hfields, List.map_map]
    refine (map_eq_map_of_forall₂ ?_ hresolvers).symm
    rintro declaration _ ⟨requires, rfl⟩
    rfl
  case isUnresolvable_iff =>
    intro object hobject resolver hresolver
    obtain ⟨⟨name, source⟩, hentry, hobject⟩ := exists_mem_of_forall₂ hobjects hobject
    obtain ⟨rfl, -, hresolvers⟩ := Collected.forall₂_of_objectOf hobject
    obtain ⟨declaration, hmem, requires, rfl⟩ := exists_mem_of_forall₂ hresolvers hresolver
    refine ⟨declaration, hdistinct.findField_eq_ok hentry hmem, ?_⟩
    rw [Collected.isUnresolvable_resolverWith_iff, Collected.mem_provided_iff hsound hok]
    rfl

/-- A field set is read before the types it leads to, and a build and a document fail
before these are there. -/
def nestedProvision : List Step := [
  .read "roots" "type Root \x7b user: User @provides(fields: \"pet\x7bage\x7d\") \x7d",
  .build,
  .read "cut" "type Pet \x7b",
  .read "users" "type User \x7b pet: Pet @external \x7d",
  .read "pets" "type Pet \x7b age: Int @external size: Int @external \x7d"]

/-- What is selected on the way counts as well as what it leads to. -/
theorem marksUnprovided_nestedProvision :
    ∃ schema, (SchemaReader.run {} nestedProvision).build.2 = .ok schema ∧
      schema.objects.map (fun object => object.resolvers.map (·.isUnresolvable)) =
        [[false], [false], [false, true]] ∧
      MarksUnprovided (SchemaReader.run {} nestedProvision).collected.objects schema := by
  have hmarks : (SchemaReader.run {} nestedProvision).build.2.map (fun schema =>
      schema.objects.map fun object => object.resolvers.map (·.isUnresolvable)) =
        .ok [[false], [false], [false, true]] := by
    decide +kernel
  obtain ⟨schema, hbuilt, hmarks⟩ := map_eq_ok_iff.1 hmarks
  exact ⟨schema, hbuilt, hmarks, marksUnprovided_of_run hbuilt⟩

end ResolverTypings.Federation
