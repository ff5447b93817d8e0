import ResolverTypings.Proofs.Federation.Records
import ResolverTypings.Proofs.TypeScript.Declarations
import ResolverTypings.Schema.Filter

/-!
# Schemas have files

What keeps an object from having a text never happens in a schema that was built: entities
have keys, and resolvers know their parent. Filters only leave objects out. So a schema has a
file, whatever was read and whichever filters it went through.
-/
namespace ResolverTypings.Federation

open Graphql (FieldDeclaration)
open TypeScript (Settings generate recordText resolverText)

/-- Whether a declaration says that the resolver of its field reads more than the parent. -/
def IsRequiring (declaration : FieldDeclaration) : Prop :=
  ∃ directive ∈ declaration.directives, directive.name = "requires"

/-- A resolver is about a field of an object if it has the field's name, type and description
and the object as its parent. -/
structure ResolvesIn (parent : String) (field : Field) (resolver : Resolver) : Prop where
  name : resolver.name = field.name
  type : resolver.type = field.type
  description : resolver.description = field.description
  parent : resolver.parent = parent

/-- An object as its declarations make it: with a name and a resolver for each field, with
keys if it is an entity, and with members in all records. A resolver reads a record beside its
parent just if the declaration of its field says so. -/
structure IsRegular (objects : Table String CollectedObject) (object : ObjectType) : Prop where
  name : object.name ≠ ""
  keys : ∀ keys, object.kind = .entity keys → keys ≠ [] ∧ ∀ key ∈ keys, key.isFilled
  resolvers : List.Forall₂ (ResolvesIn object.name) object.fields object.resolvers
  requires : ∀ resolver ∈ object.resolvers, ∃ declaration,
    findField objects object.name resolver.name = .ok declaration ∧
      (resolver.requires ≠ [] ↔ IsRequiring declaration) ∧
      (IsRequiring declaration → resolver.requires.isFilled)

/-- A callable resolver shows the record that it reads as an intersection with its parent. -/
def ShowsRequires (resolver : Resolver) : Prop :=
  ∃ before behind, resolverText resolver = .ok (before ++
    "(parent: " ++ resolver.parent ++ "Representation<TInternalReps>" ++
      (if resolver.requires = [] then "" else " & " ++ recordText resolver.requires) ++
    ", args: " ++ behind)

namespace IsRegular

variable {objects : Table String CollectedObject} {object : ObjectType}

theorem parent_eq (h : IsRegular objects object) {resolver : Resolver}
    (hresolver : resolver ∈ object.resolvers) : resolver.parent = object.name := by
  obtain ⟨field, -, hresolves⟩ := exists_mem_of_forall₂ h.resolvers hresolver
  exact hresolves.parent

theorem hasText (h : IsRegular objects object) : object.HasText where
  kind := fun hkind => (h.keys [] hkind).1 rfl
  resolvers := fun resolver hresolver _ => by
    rw [h.parent_eq hresolver]
    exact h.name

theorem showsRequires (h : IsRegular objects object) {resolver : Resolver}
    (hresolver : resolver ∈ object.resolvers) (hcallable : resolver.isUnresolvable = false) :
    ShowsRequires resolver := by
  refine ⟨TypeScript.comment resolver.description ++ resolver.name ++
      TypeScript.memberMark resolver.isRootType,
    TypeScript.argumentsText resolver.arguments ++
      ", context: TContext, info: any) => PromiseOrValue<" ++
      TypeScript.typeText true resolver.type ++ ">", ?_⟩
  rw [TypeScript.resolverText_eq_ok_iff]
  refine ⟨h.hasText.resolvers resolver hresolver, ?_⟩
  simp [TypeScript.resolverMember, hcallable, TypeScript.signatureText, TypeScript.parentText,
    String.append_assoc]

end IsRegular

/-! ## Objects that are built -/

namespace Collected

theorem resolvesIn_of_resolverOf {collected : Collected} {parent : String}
    {declaration : FieldDeclaration} {resolver : Resolver}
    (h : collected.resolverOf parent declaration = .ok resolver) :
    ResolvesIn parent (fieldOf declaration) resolver := by
  obtain ⟨requires, -, rfl⟩ := resolverOf_eq_ok_iff.1 h
  exact ⟨rfl, rfl, rfl, rfl⟩

theorem requires_resolverOf {collected : Collected} {parent : String}
    {declaration : FieldDeclaration} {resolver : Resolver}
    (h : collected.resolverOf parent declaration = .ok resolver) :
    (resolver.requires ≠ [] ↔ IsRequiring declaration) ∧
      (IsRequiring declaration → resolver.requires.isFilled) := by
  obtain ⟨requires, hrequires, rfl⟩ := resolverOf_eq_ok_iff.1 h
  have hnamed : directivesNamed declaration.directives "requires" ≠ [] ↔
      IsRequiring declaration := by
    simp [directivesNamed, IsRequiring, List.filter_eq_nil_iff]
  rw [← hnamed]
  rcases isFilled_requiredRecord hrequires with ⟨hnone, rfl⟩ | ⟨hsome, hfilled⟩
  · simp [resolverWith, hnone]
  · exact ⟨iff_of_true (Record.ne_nil_of_isFilled hfilled) hsome, fun _ => hfilled⟩

theorem isRegular_of_objectOf {collected : Collected} {name : String} {source : CollectedObject}
    {object : ObjectType} (hdistinct : collected.IsDistinct) (hnamed : collected.IsNamed)
    (hsource : (name, source) ∈ collected.objects)
    (h : collected.objectOf name source = .ok object) :
    IsRegular collected.objects object := by
  obtain ⟨resolvers, keys, hresolvers, hkeys, rfl⟩ := objectOf_eq_ok_iff.1 h
  rw [mapM_eq_ok_iff] at hresolvers hkeys
  constructor
  case name => exact Graphql.ne_empty_of_isName (hnamed _ hsource).1
  case keys =>
    intro found hfound
    obtain ⟨rfl, hne⟩ := kind_objectWith_eq_entity_iff.1 hfound
    refine ⟨hne, fun key hkey => ?_⟩
    obtain ⟨text, -, hrecord⟩ := exists_mem_of_forall₂ hkeys hkey
    exact isFilled_of_keyOf hrecord
  case resolvers =>
    exact List.forall₂_map_left_iff.2 (hresolvers.imp fun _ _ => resolvesIn_of_resolverOf)
  case requires =>
    intro resolver hresolver
    obtain ⟨declaration, hmem, hbuilt⟩ := exists_mem_of_forall₂ hresolvers hresolver
    have hname : resolver.name = declaration.name := (resolvesIn_of_resolverOf hbuilt).name
    refine ⟨declaration, ?_, requires_resolverOf hbuilt⟩
    rw [hname]
    exact hdistinct.findField_eq_ok hsource hmem

/-- Whatever is built is as its declarations make it. -/
theorem isRegular_of_build {collected : Collected} {schema : Schema}
    (hdistinct : collected.IsDistinct) (hnamed : collected.IsNamed)
    (h : collected.build.1 = .ok schema) :
    ∀ object ∈ schema.objects, IsRegular collected.objects object := by
  intro object hobject
  obtain ⟨⟨name, source⟩, hsource, hbuilt⟩ := exists_mem_of_forall₂ (forall₂_of_build h) hobject
  -- Noting what is provided leaves the objects as they are.
  have hnoted : collected.noteProvided.1.IsNamed := hnamed
  have hregular : IsRegular collected.noteProvided.1.objects object :=
    isRegular_of_objectOf hdistinct.noteProvided hnoted hsource hbuilt
  exact hregular

end Collected

/-- **Building never leads to a schema without a file.** After any run on a new reader, a
schema that is built has a file under all settings, whichever filters it goes through, and
every object in it is as its declarations make it. -/
theorem exists_generate_of_run {steps : List Step} {schema : Schema}
    (hbuilt : (SchemaReader.run {} steps).build.2 = .ok schema) (filters : List NameFilter)
    (settings : Settings) :
    (∃ text, generate settings (schema.filterAll filters) = .ok text) ∧
      ∀ object ∈ (schema.filterAll filters).objects,
        IsRegular (SchemaReader.run {} steps).collected.objects object ∧
          ∀ resolver ∈ object.resolvers, resolver.isUnresolvable = false →
            ShowsRequires resolver := by
  have hdistinct := SchemaReader.isDistinct_run steps
  have hnamed := SchemaReader.isNamed_run steps
  rw [SchemaReader.build_eq_ok_iff] at hbuilt
  have hregular : ∀ object ∈ (schema.filterAll filters).objects,
      IsRegular (SchemaReader.run {} steps).collected.objects object := by
    intro object hobject
    rw [Schema.objects_filterAll] at hobject
    exact Collected.isRegular_of_build hdistinct hnamed hbuilt object
      (List.mem_of_mem_filter hobject)
  refine ⟨⟨_, TypeScript.generate_eq_ok_iff.2 ⟨fun object hobject => ?_, rfl⟩⟩, ?_⟩
  · exact (hregular object hobject).hasText
  · intro object hobject
    exact ⟨hregular object hobject, fun _ => (hregular object hobject).showsRequires⟩

/-- Entities with a nested key and with one key in two spellings, behind a document that is
cut off. -/
def nestedKeys : List Step := [
  .read "cut" "type Pet \x7b",
  .read "users" "type User @key(fields: \"id org\x7bid\x7d\")
    \x7b id: ID! org: Org name: String @external age: Int @requires(fields: \"name\") \x7d",
  .read "orgs" "extend type Org @key(fields: \"id\") @key(fields: \" id \") \x7b id: ID \x7d
    type SecretPet \x7b id: ID \x7d"]

/-- A filter leaves out a plain object and keeps both entities. -/
theorem exists_generate_nestedKeys :
    ∃ schema, (SchemaReader.run {} nestedKeys).build.2 = .ok schema ∧
      schema.objects.map (·.isEntity) = [true, true, false] ∧
      (∃ text, generate {} (schema.filterAll [{ excludePrefix := some "Secret" }]) = .ok text) ∧
      ∀ object ∈ (schema.filterAll [{ excludePrefix := some "Secret" }]).objects,
        IsRegular (SchemaReader.run {} nestedKeys).collected.objects object ∧
          ∀ resolver ∈ object.resolvers, resolver.isUnresolvable = false →
            ShowsRequires resolver := by
  have hkinds : (SchemaReader.run {} nestedKeys).build.2.map
      (fun schema => schema.objects.map (·.isEntity)) = .ok [true, true, false] := by
    decide +kernel
  obtain ⟨schema, hbuilt, hkinds⟩ := map_eq_ok_iff.1 hkinds
  exact ⟨schema, hbuilt, hkinds,
    exists_generate_of_run hbuilt [{ excludePrefix := some "Secret" }] {}⟩

end ResolverTypings.Federation
