import ResolverTypings.Proofs.Federation.Provided

/-!
# Growth

Collecting never takes anything back. Objects, enums and scalars keep their places, an
object keeps its fields and keys at the front of its lists, an enum its values, and a
declaration that is found once is found ever after. Names and keys stay distinct.
-/
namespace ResolverTypings.Federation

open Graphql (Definition EnumPart FieldDeclaration ObjectPart)

/-! ## Objects and enums -/

/-- The fields and keys of an object are the first ones of the later object. -/
structure CollectedObject.GrowsTo (object later : CollectedObject) : Prop where
  fields : object.fields <+: later.fields
  keys : object.keys <+: later.keys

namespace CollectedObject.GrowsTo

theorem refl (object : CollectedObject) : object.GrowsTo object :=
  ⟨List.prefix_refl _, List.prefix_refl _⟩

theorem trans (first second third : CollectedObject) (h : first.GrowsTo second)
    (h' : second.GrowsTo third) : first.GrowsTo third :=
  ⟨h.fields.trans h'.fields, h.keys.trans h'.keys⟩

theorem withPart (object : CollectedObject) (part : ObjectPart) :
    object.GrowsTo (object.withPart part) where
  fields := by
    rw [fields_withPart, addField_eq]
    exact prefix_foldl_addLabelled _ _ _
  keys := prefix_foldl_addNew _ _

/-- The first declaration of a field stays the first. -/
theorem field? {object later : CollectedObject} (h : object.GrowsTo later) {name : String}
    {declaration : FieldDeclaration} (hfound : object.field? name = some declaration) :
    later.field? name = some declaration := by
  obtain ⟨more, hmore⟩ := h.fields
  simp only [CollectedObject.field?] at hfound ⊢
  rw [← hmore, List.find?_append, hfound]
  rfl

end CollectedObject.GrowsTo

/-- The values of an enum are the first ones of the later enum. -/
def CollectedEnum.GrowsTo (enum later : CollectedEnum) : Prop :=
  enum.values <+: later.values

namespace CollectedEnum.GrowsTo

theorem refl (enum : CollectedEnum) : enum.GrowsTo enum :=
  List.prefix_refl _

theorem trans (first second third : CollectedEnum) (h : first.GrowsTo second)
    (h' : second.GrowsTo third) : first.GrowsTo third :=
  List.IsPrefix.trans h h'

theorem merge (enum : CollectedEnum) (part : EnumPart) : enum.GrowsTo (enum.merge part) :=
  List.prefix_append _ _

end CollectedEnum.GrowsTo

/-! ## Everything collected -/

namespace Collected

/-- Everything collected is still in its place later. -/
structure GrowsTo (collected later : Collected) : Prop where
  rootTypes : collected.rootTypes ⊆ later.rootTypes
  objects : Table.GrowsTo CollectedObject.GrowsTo collected.objects later.objects
  enums : Table.GrowsTo CollectedEnum.GrowsTo collected.enums later.enums
  scalars : Table.GrowsTo (fun _ _ => True) collected.scalars later.scalars

namespace GrowsTo
variable {collected later : Collected}

theorem refl (collected : Collected) : collected.GrowsTo collected where
  rootTypes := fun _ h => h
  objects := Table.GrowsTo.refl CollectedObject.GrowsTo.refl _
  enums := Table.GrowsTo.refl CollectedEnum.GrowsTo.refl _
  scalars := Table.GrowsTo.refl (fun _ => trivial) _

theorem trans {third : Collected} (h : collected.GrowsTo later) (h' : later.GrowsTo third) :
    collected.GrowsTo third where
  rootTypes := fun _ hmem => h'.rootTypes (h.rootTypes hmem)
  objects := h.objects.trans CollectedObject.GrowsTo.trans h'.objects
  enums := h.enums.trans CollectedEnum.GrowsTo.trans h'.enums
  scalars := h.scalars.trans (fun _ _ _ _ _ => trivial) h'.scalars

theorem addDefinition (collected : Collected) (definition : Definition) :
    collected.GrowsTo (collected.addDefinition definition).1 := by
  rw [fst_addDefinition]
  constructor
  · intro name hname
    exact mem_foldl_addNew.2 (.inl hname)
  · exact Table.growsTo_gather _ _ _ CollectedObject.GrowsTo.refl CollectedObject.GrowsTo.trans
      CollectedObject.GrowsTo.withPart _ _
  · exact Table.growsTo_gather _ _ _ CollectedEnum.GrowsTo.refl CollectedEnum.GrowsTo.trans
      CollectedEnum.GrowsTo.merge _ _
  · simp only [gatherScalars]
    exact Table.growsTo_gather _ _ _ (fun _ => trivial) (fun _ _ _ _ _ => trivial)
      (fun _ _ => trivial) _ _

/-- Noting provided fields leaves everything else as it is. -/
theorem noteProvided (collected : Collected) : collected.GrowsTo collected.noteProvided.1 where
  rootTypes := fun _ h => h
  objects := (refl collected).objects
  enums := (refl collected).enums
  scalars := (refl collected).scalars

end GrowsTo
end Collected

/-! ## Declarations -/

theorem findField_eq_ok_iff {objects : Table String CollectedObject} {type field : String}
    {declaration : FieldDeclaration} :
    findField objects type field = .ok declaration ↔
      ∃ object, objects.get? type = some object ∧ object.field? field = some declaration := by
  unfold findField
  cases objects.get? type with
  | none => simp [throw_eq_error]
  | some object =>
    cases hfield : object.field? field <;>
      simp [hfield, throw_eq_error, pure, Except.pure]

namespace Collected.GrowsTo
variable {collected later : Collected}

theorem coveredBy (h : collected.GrowsTo later) : CoveredBy collected.objects later.objects := by
  intro type field declaration hfound
  obtain ⟨object, hobject, hfield⟩ := findField_eq_ok_iff.1 hfound
  obtain ⟨larger, hlarger, hgrows⟩ := h.objects.get? hobject
  exact findField_eq_ok_iff.2 ⟨larger, hlarger, hgrows.field? hfield⟩

theorem declarationsIn_subset (h : collected.GrowsTo later) :
    declarationsIn collected.objects ⊆ declarationsIn later.objects := by
  intro declaration hmem
  obtain ⟨entry, hentry, hfield⟩ := List.mem_flatMap.1 hmem
  obtain ⟨larger, hlarger, -, hgrows⟩ := ExtendsBy.exists_mem h.objects hentry
  exact List.mem_flatMap.2 ⟨larger, hlarger, hgrows.fields.subset hfield⟩

theorem isProvided (h : collected.GrowsTo later) {target : String × String}
    (hprovided : IsProvided collected.objects target) : IsProvided later.objects target :=
  h.coveredBy.isProvided h.declarationsIn_subset hprovided

end Collected.GrowsTo

namespace Collected.NotedSoundly

theorem empty : ({} : Collected).NotedSoundly := by
  intro target htarget
  simp at htarget

theorem addDefinition {collected : Collected} (h : collected.NotedSoundly)
    (definition : Definition) : (collected.addDefinition definition).1.NotedSoundly := by
  intro target htarget
  have hold : target ∈ collected.provided := by
    rw [fst_addDefinition] at htarget
    exact htarget
  exact (Collected.GrowsTo.addDefinition collected definition).isProvided (h target hold)

end Collected.NotedSoundly

/-! ## Distinct names -/

/-- The names of the fields of an object and its keys are distinct. -/
structure CollectedObject.IsDistinct (object : CollectedObject) : Prop where
  fields : (object.fields.map (·.name)).Nodup
  keys : object.keys.Nodup

/-- Where names are distinct, a field has one declaration. -/
theorem CollectedObject.field?_eq_some_iff {object : CollectedObject}
    (h : (object.fields.map (·.name)).Nodup) {name : String} {declaration : FieldDeclaration} :
    object.field? name = some declaration ↔
      declaration ∈ object.fields ∧ declaration.name = name := by
  constructor
  · intro hfound
    exact ⟨List.mem_of_find?_eq_some hfound, by simpa using List.find?_some hfound⟩
  · rintro ⟨hmem, rfl⟩
    exact find?_eq_some_of_nodup h hmem

theorem CollectedObject.IsDistinct.withPart {object : CollectedObject}
    (h : object.IsDistinct) (part : ObjectPart) : (object.withPart part).IsDistinct where
  fields := by
    rw [fields_withPart, addField_eq]
    exact nodup_foldl_addLabelled _ h.fields _
  keys := nodup_foldl_addNew h.keys _

/-- The names in each table are distinct, and so are those in each object. -/
structure Collected.IsDistinct (collected : Collected) : Prop where
  objectNames : collected.objects.keys.Nodup
  enumNames : collected.enums.keys.Nodup
  scalarNames : collected.scalars.keys.Nodup
  objects : ∀ entry ∈ collected.objects, entry.2.IsDistinct

namespace Collected.IsDistinct

theorem empty : ({} : Collected).IsDistinct where
  objectNames := List.nodup_nil
  enumNames := List.nodup_nil
  scalarNames := List.nodup_nil
  objects := by simp

theorem addDefinition {collected : Collected} (h : collected.IsDistinct)
    (definition : Definition) : (collected.addDefinition definition).1.IsDistinct := by
  rw [fst_addDefinition]
  constructor
  · exact Table.nodup_keys_gather _ _ _ h.objectNames _
  · exact Table.nodup_keys_gather _ _ _ h.enumNames _
  · simp only [gatherScalars]
    exact Table.nodup_keys_gather _ _ _ h.scalarNames _
  · exact Table.forall_mem_gather _ _ _ ⟨List.nodup_nil, List.nodup_nil⟩
      (fun _ part hobject => hobject.withPart part) h.objects _

theorem noteProvided {collected : Collected} (h : collected.IsDistinct) :
    collected.noteProvided.1.IsDistinct :=
  ⟨h.objectNames, h.enumNames, h.scalarNames, h.objects⟩

/-- The declaration that is found is the one that stands in the object of its type. -/
theorem findField_eq_ok {collected : Collected} (h : collected.IsDistinct)
    {type : String} {object : CollectedObject} (hobject : (type, object) ∈ collected.objects)
    {declaration : FieldDeclaration} (hmem : declaration ∈ object.fields) :
    findField collected.objects type declaration.name = .ok declaration := by
  refine findField_eq_ok_iff.2 ⟨object, (Table.get?_eq_some_iff h.objectNames).2 hobject, ?_⟩
  exact (CollectedObject.field?_eq_some_iff (h.objects _ hobject).fields).2 ⟨hmem, rfl⟩

end Collected.IsDistinct
end ResolverTypings.Federation
