import ResolverTypings.Proofs.Federation.Growth

/-!
# Definitions without conflicts

Definitions that say nothing different of one name are collected to the same in any order:
the parts of each name are merged to the same fields, keys, values and description, up to
the order of the lists. So the same fields are declared, and every field set that resolves
against the one collection resolves against the other.
-/
namespace ResolverTypings.Federation

open Graphql (Definition EnumPart FieldDeclaration ObjectPart)

/-! ## Definitions without conflicts -/

/-- The parts of one object among definitions. -/
def objectPartsNamed (name : String) (definitions : List Definition) : List ObjectPart :=
  Table.partsOf (·.name) name (objectParts definitions)

/-- The parts of one enum among definitions. -/
def enumPartsNamed (name : String) (definitions : List Definition) : List EnumPart :=
  Table.partsOf (·.name) name (enumParts definitions)

/-- No two definitions say different things of one name: fields and values are declared
once, scalars are defined once, and at most one definition of a type describes it. -/
structure Compatible (definitions : List Definition) : Prop where
  fields : ∀ name,
    (((objectPartsNamed name definitions).flatMap (·.fields)).map (·.name)).Nodup
  objectDescriptions : ∀ name, (objectDescriptions (objectPartsNamed name definitions)).length ≤ 1
  values : ∀ name, ((enumPartsNamed name definitions).flatMap (·.values)).Nodup
  enumDescriptions : ∀ name, (enumDescriptions (enumPartsNamed name definitions)).length ≤ 1
  scalars : ((scalarsOf definitions).map (·.1)).Nodup

/-- It is enough to look at the names that occur. -/
theorem compatible_iff {definitions : List Definition} :
    Compatible definitions ↔
      (∀ name ∈ (objectParts definitions).map (·.name),
        (((objectPartsNamed name definitions).flatMap (·.fields)).map (·.name)).Nodup ∧
          (objectDescriptions (objectPartsNamed name definitions)).length ≤ 1) ∧
      (∀ name ∈ (enumParts definitions).map (·.name),
        ((enumPartsNamed name definitions).flatMap (·.values)).Nodup ∧
          (enumDescriptions (enumPartsNamed name definitions)).length ≤ 1) ∧
      ((scalarsOf definitions).map (·.1)).Nodup := by
  constructor
  · intro h
    exact ⟨fun name _ => ⟨h.fields name, h.objectDescriptions name⟩,
      fun name _ => ⟨h.values name, h.enumDescriptions name⟩, h.scalars⟩
  · rintro ⟨hobjects, henums, hscalars⟩
    have hobjects' : ∀ name, name ∉ (objectParts definitions).map (·.name) →
        objectPartsNamed name definitions = [] :=
      fun _ => (Table.partsOf_eq_nil_iff _).2
    have henums' : ∀ name, name ∉ (enumParts definitions).map (·.name) →
        enumPartsNamed name definitions = [] :=
      fun _ => (Table.partsOf_eq_nil_iff _).2
    refine ⟨fun name => ?_, fun name => ?_, fun name => ?_, fun name => ?_, hscalars⟩
    · by_cases hname : name ∈ (objectParts definitions).map (·.name)
      · exact (hobjects name hname).1
      · simp [hobjects' name hname]
    · by_cases hname : name ∈ (objectParts definitions).map (·.name)
      · exact (hobjects name hname).2
      · simp [hobjects' name hname, objectDescriptions]
    · by_cases hname : name ∈ (enumParts definitions).map (·.name)
      · exact (henums name hname).1
      · simp [henums' name hname]
    · by_cases hname : name ∈ (enumParts definitions).map (·.name)
      · exact (henums name hname).2
      · simp [henums' name hname, enumDescriptions]

instance : DecidablePred Compatible :=
  fun _ => decidable_of_iff _ compatible_iff.symm

section Perm

variable {definitions definitions' : List Definition} (hperm : definitions.Perm definitions')

include hperm

theorem perm_objectPartsNamed (name : String) :
    (objectPartsNamed name definitions).Perm (objectPartsNamed name definitions') :=
  Table.perm_partsOf _ name (hperm.filterMap _)

theorem perm_enumPartsNamed (name : String) :
    (enumPartsNamed name definitions).Perm (enumPartsNamed name definitions') :=
  Table.perm_partsOf _ name (hperm.filterMap _)

theorem Compatible.perm (h : Compatible definitions) : Compatible definitions' where
  fields name :=
    (((perm_objectPartsNamed hperm name).flatMap_right _).map _).nodup (h.fields name)
  objectDescriptions name :=
    ((perm_objectPartsNamed hperm name).filterMap _).length_eq ▸ h.objectDescriptions name
  values name := ((perm_enumPartsNamed hperm name).flatMap_right _).nodup (h.values name)
  enumDescriptions name :=
    ((perm_enumPartsNamed hperm name).filterMap _).length_eq ▸ h.enumDescriptions name
  scalars := ((hperm.filterMap _).map _).nodup h.scalars

end Perm

/-- A list of at most one element has no other order. -/
theorem eq_of_perm_of_length_le_one {α : Type} {xs ys : List α} (h : xs.Perm ys)
    (hlength : xs.length ≤ 1) : xs = ys := by
  match xs with
  | [] => exact h.nil_eq
  | [x] => exact (List.singleton_perm.1 h).symm ▸ rfl
  | _ :: _ :: _ => simp at hlength

/-! ## Collections up to order -/

/-- Two merged objects up to the order of their fields and keys. -/
structure CollectedObject.SameUpToOrder (object object' : CollectedObject) : Prop where
  description : object.description = object'.description
  fields : object.fields.Perm object'.fields
  keys : object.keys.Perm object'.keys

/-- Two merged enums up to the order of their values. -/
structure CollectedEnum.SameUpToOrder (enum enum' : CollectedEnum) : Prop where
  values : enum.values.Perm enum'.values
  description : enum.description = enum'.description

/-- Two collections with nothing noted, up to the order of their tables and of what the
entries list. -/
structure Collected.SameUpToOrder (collected collected' : Collected) : Prop where
  rootTypes : ∀ name, name ∈ collected.rootTypes ↔ name ∈ collected'.rootTypes
  objects : ∀ name, Option.Rel CollectedObject.SameUpToOrder
    (collected.objects.get? name) (collected'.objects.get? name)
  enums : ∀ name, Option.Rel CollectedEnum.SameUpToOrder
    (collected.enums.get? name) (collected'.enums.get? name)
  scalars : ∀ name, Option.Rel (· = ·)
    (collected.scalars.get? name) (collected'.scalars.get? name)

section Merging

variable {definitions definitions' : List Definition} (hperm : definitions.Perm definitions')
  (hcompatible : Compatible definitions)

include hperm hcompatible

theorem sameUpToOrder_mergedObject (name : String) :
    CollectedObject.SameUpToOrder
      ((objectPartsNamed name definitions).foldl CollectedObject.withPart {})
      ((objectPartsNamed name definitions').foldl CollectedObject.withPart {}) := by
  have hparts := perm_objectPartsNamed hperm name
  have hfields : ∀ {ds : List Definition}, Compatible ds →
      ((objectPartsNamed name ds).foldl CollectedObject.withPart {}).fields =
        (objectPartsNamed name ds).flatMap (·.fields) := by
    intro ds h
    rw [CollectedObject.fields_foldl_withPart, addField_eq, foldl_addLabelled_of_nodup]
    · rfl
    · exact h.fields name
  have hdescriptions : objectDescriptions (objectPartsNamed name definitions) =
      objectDescriptions (objectPartsNamed name definitions') :=
    eq_of_perm_of_length_le_one (hparts.filterMap _) (hcompatible.objectDescriptions name)
  refine ⟨?_, ?_, ?_⟩
  · rw [CollectedObject.description_foldl_withPart, CollectedObject.description_foldl_withPart,
      hdescriptions]
  · rw [hfields hcompatible, hfields (hcompatible.perm hperm)]
    exact hparts.flatMap_right _
  · rw [CollectedObject.keys_foldl_withPart, CollectedObject.keys_foldl_withPart]
    -- A key may be given by several parts, and the order decides which of them adds it.
    refine (List.perm_ext_iff_of_nodup (nodup_foldl_addNew List.nodup_nil _)
      (nodup_foldl_addNew List.nodup_nil _)).2 fun key => ?_
    rw [mem_foldl_addNew, mem_foldl_addNew, (hparts.flatMap_right keysOf).mem_iff]

theorem sameUpToOrder_mergedEnum (name : String) :
    CollectedEnum.SameUpToOrder
      ((enumPartsNamed name definitions).foldl CollectedEnum.merge CollectedEnum.empty)
      ((enumPartsNamed name definitions').foldl CollectedEnum.merge CollectedEnum.empty) := by
  have hparts := perm_enumPartsNamed hperm name
  have hvalues : ∀ {ds : List Definition}, Compatible ds →
      ((enumPartsNamed name ds).foldl CollectedEnum.merge CollectedEnum.empty).values =
        (enumPartsNamed name ds).flatMap (·.values) := by
    intro ds h
    rw [CollectedEnum.values_foldl_merge]
    · rfl
    · exact h.values name
  have hdescriptions : enumDescriptions (enumPartsNamed name definitions) =
      enumDescriptions (enumPartsNamed name definitions') :=
    eq_of_perm_of_length_le_one (hparts.filterMap _) (hcompatible.enumDescriptions name)
  refine ⟨?_, ?_⟩
  · rw [hvalues hcompatible, hvalues (hcompatible.perm hperm)]
    exact hparts.flatMap_right _
  · rw [CollectedEnum.description_foldl_merge, CollectedEnum.description_foldl_merge,
      hdescriptions]

/-- A scalar that is defined once has one part. -/
theorem scalarsNamed_eq (name : String) :
    Table.partsOf (·.1) name (scalarsOf definitions) =
      Table.partsOf (·.1) name (scalarsOf definitions') := by
  refine eq_of_perm_of_length_le_one (Table.perm_partsOf _ name (hperm.filterMap _)) ?_
  have hsub : ((Table.partsOf (·.1) name (scalarsOf definitions)).map (·.1)).Nodup :=
    hcompatible.scalars.sublist (List.filter_sublist.map _)
  have hname : ∀ label ∈ (Table.partsOf (·.1) name (scalarsOf definitions)).map (·.1),
      label = name := by
    intro label hlabel
    obtain ⟨part, hpart, rfl⟩ := List.mem_map.1 hlabel
    simpa using (List.mem_filter.1 hpart).2
  rw [← List.length_map (·.1)]
  rw [List.eq_replicate_of_mem hname, List.nodup_replicate] at hsub
  exact hsub

/-- Definitions without conflicts are collected to the same in any order. -/
theorem sameUpToOrder_addAll :
    (({} : Collected).addAll definitions).SameUpToOrder
      (({} : Collected).addAll definitions') := by
  rw [Collected.addAll_eq, Collected.addAll_eq]
  refine ⟨fun name => ?_, fun name => ?_, fun name => ?_, fun name => ?_⟩
  · have hroots : (rootTypesOf definitions).Perm (rootTypesOf definitions') :=
      hperm.flatMap_right _
    rw [mem_foldl_addNew, mem_foldl_addNew, hroots.mem_iff]
  · exact Table.rel_get?_gather _ _ _ (hperm.filterMap _) name
      (sameUpToOrder_mergedObject hperm hcompatible name)
  · exact Table.rel_get?_gather _ _ _ (hperm.filterMap _) name
      (sameUpToOrder_mergedEnum hperm hcompatible name)
  · simp only [Collected.gatherScalars]
    refine Table.rel_get?_gather _ _ _ (hperm.filterMap _) name ?_
    exact congrArg (List.foldl _ none) (scalarsNamed_eq hperm hcompatible name)

end Merging

/-! ## What is declared -/

namespace Collected.SameUpToOrder
variable {collected collected' : Collected} (same : collected.SameUpToOrder collected')

include same

/-- An object has a counterpart with the same fields and keys. -/
theorem object {name : String} {object : CollectedObject}
    (h : collected.objects.get? name = some object) :
    ∃ object', collected'.objects.get? name = some object' ∧ object.SameUpToOrder object' :=
  exists_of_rel (same.objects name) h

theorem coveredBy (hdistinct : collected.IsDistinct) (hdistinct' : collected'.IsDistinct) :
    CoveredBy collected.objects collected'.objects := by
  intro type field declaration hfound
  obtain ⟨object, hobject, hfield⟩ := findField_eq_ok_iff.1 hfound
  obtain ⟨object', hobject', hsame⟩ := same.object hobject
  have hfields := (hdistinct.objects _ (Table.mem_of_get? hobject)).fields
  have hfields' := (hdistinct'.objects _ (Table.mem_of_get? hobject')).fields
  refine findField_eq_ok_iff.2 ⟨object', hobject', ?_⟩
  rw [CollectedObject.field?_eq_some_iff hfields] at hfield
  rw [CollectedObject.field?_eq_some_iff hfields']
  exact ⟨hsame.fields.subset hfield.1, hfield.2⟩

theorem declarationsIn_subset (hdistinct : collected.IsDistinct) :
    declarationsIn collected.objects ⊆ declarationsIn collected'.objects := by
  intro declaration hmem
  obtain ⟨⟨name, object⟩, hentry, hfield⟩ := List.mem_flatMap.1 hmem
  obtain ⟨object', hobject', hsame⟩ :=
    same.object ((Table.get?_eq_some_iff hdistinct.objectNames).2 hentry)
  exact List.mem_flatMap.2 ⟨_, Table.mem_of_get? hobject', hsame.fields.subset hfield⟩

end Collected.SameUpToOrder
end ResolverTypings.Federation
