import ResolverTypings.Proofs.Federation.Building
import ResolverTypings.Proofs.Federation.Runs

/-!
# The directives of a document

Which object a directive of a document ends up at, and what it means for its field set that
the document makes a schema: each one is read and resolved then, those that the schema shows
nothing of among them.
-/
namespace ResolverTypings.Federation

open Graphql (Definition Directive FieldDeclaration ObjectPart)
open Text (RawText)

/-! ## Objects of a document -/

namespace Collected

/-- An object is what the definitions and extensions of its name are merged into. -/
theorem getD_get?_addAll (definitions : List Definition) (name : String) :
    ((({} : Collected).addAll definitions).objects.get? name).getD {} =
      (Table.partsOf (·.name) name (objectParts definitions)).foldl CollectedObject.withPart {} := by
  rw [addAll_eq]
  exact Table.getD_get?_gather _ _ _ _ _ _

end Collected

/-- Whether a document declares a field of a type, in a definition or an extension. -/
def Declares (definitions : List Definition) (type field : String) : Prop :=
  ∃ part, .object part ∈ definitions ∧ part.name = type ∧ field ∈ part.fields.map (·.name)

theorem mem_partsOf_iff {definitions : List Definition} {name : String} {part : ObjectPart} :
    part ∈ Table.partsOf (·.name) name (objectParts definitions) ↔
      .object part ∈ definitions ∧ part.name = name := by
  have hpart : part ∈ objectParts definitions ↔ .object part ∈ definitions := by
    unfold objectParts
    rw [List.mem_filterMap]
    constructor
    · rintro ⟨definition, hmem, hfound⟩
      cases definition <;> cases hfound
      exact hmem
    · exact fun hmem => ⟨_, hmem, rfl⟩
  simp [Table.partsOf, hpart]

theorem field?_eq_some_iff_mem {object : CollectedObject} {field : String} :
    (∃ declaration, object.field? field = some declaration) ↔
      field ∈ object.fields.map (·.name) := by
  rw [← Option.isSome_iff_exists, CollectedObject.field?, List.find?_isSome]
  simp

/-- The fields that are found are those that the document declares. -/
theorem declares_iff {definitions : List Definition} {type field : String} :
    Declares definitions type field ↔ ∃ declaration,
      findField (({} : Collected).addAll definitions).objects type field = .ok declaration := by
  have hobject := Collected.getD_get?_addAll definitions type
  have hfields : field ∈ (((({} : Collected).addAll definitions).objects.get? type).getD {}).fields.map
      (·.name) ↔ Declares definitions type field := by
    rw [hobject, CollectedObject.fields_foldl_withPart, addField_eq, mem_map_foldl_addLabelled]
    simp only [List.map_nil, List.not_mem_nil, false_or, List.map_flatMap, List.mem_flatMap,
      mem_partsOf_iff, Declares, and_assoc]
  rw [← hfields]
  simp only [findField_eq_ok_iff]
  cases (({} : Collected).addAll definitions).objects.get? type with
  | none => simp
  | some object => simp [← field?_eq_some_iff_mem]

/-! ## Keys -/

/-- Keys are given as texts by all directives, unless one of them stops the collecting. -/
theorem givenKeys_eq_none_iff {directives : List Directive} :
    (givenKeys directives).2 = none ↔
      ∀ directive ∈ directives, ∃ text, fieldSetText directive = .ok text := by
  induction directives with
  | nil => simp [givenKeys]
  | cons first rest ih =>
    rw [givenKeys, List.forall_mem_cons]
    cases htext : fieldSetText first with
    | error error => simp
    | ok text => simpa using ih

theorem mem_givenKeys_of_mem {directives : List Directive} (hok : (givenKeys directives).2 = none)
    {directive : Directive} (hmem : directive ∈ directives) {text : RawText}
    (htext : fieldSetText directive = .ok text) :
    Text.singleSpaced text ∈ (givenKeys directives).1 := by
  induction directives with
  | nil => cases hmem
  | cons first rest ih =>
    rw [givenKeys] at hok ⊢
    cases hfirst : fieldSetText first with
    | error error => simp [hfirst] at hok
    | ok found =>
      simp only [hfirst] at hok ⊢
      rcases List.mem_cons.1 hmem with rfl | hmem
      · obtain rfl := Except.ok.inj (htext.symm.trans hfirst)
        exact List.mem_cons_self
      · exact List.mem_cons_of_mem _ (ih hok hmem)

theorem exists_of_mem_givenKeys {directives : List Directive} {key : RawText}
    (h : key ∈ (givenKeys directives).1) : ∃ directive ∈ directives, ∃ text,
      fieldSetText directive = .ok text ∧ Text.singleSpaced text = key := by
  induction directives with
  | nil => cases h
  | cons first rest ih =>
    rw [givenKeys] at h
    cases htext : fieldSetText first with
    | error error => simp [htext] at h
    | ok text =>
      simp only [htext] at h
      rcases List.mem_cons.1 h with rfl | h
      · exact ⟨first, List.mem_cons_self, text, htext, rfl⟩
      · obtain ⟨directive, hmem, hdirective⟩ := ih h
        exact ⟨directive, List.mem_cons_of_mem _ hmem, hdirective⟩

theorem keys_eq_of_get?_addAll {definitions : List Definition} {type : String}
    {object : CollectedObject}
    (hobject : (({} : Collected).addAll definitions).objects.get? type = some object) :
    object.keys =
      ((Table.partsOf (·.name) type (objectParts definitions)).flatMap keysOf).foldl addNew [] := by
  have hmerged := Collected.getD_get?_addAll definitions type
  rw [hobject, Option.getD_some] at hmerged
  rw [hmerged, CollectedObject.keys_foldl_withPart]

/-- A key of a document is one of the keys of its object, with single spaces. -/
theorem exists_mem_keys_addAll {definitions : List Definition}
    (hok : definitions.findSome? faultOf = none) {part : ObjectPart}
    (hpart : .object part ∈ definitions) {directive : Directive}
    (hmem : directive ∈ directivesNamed part.directives "key") :
    ∃ text object, fieldSetText directive = .ok text ∧
      (({} : Collected).addAll definitions).objects.get? part.name = some object ∧
      Text.singleSpaced text ∈ object.keys := by
  have hfault : (givenKeys (directivesNamed part.directives "key")).2 = none :=
    List.findSome?_eq_none_iff.1 hok _ hpart
  obtain ⟨text, htext⟩ := givenKeys_eq_none_iff.1 hfault directive hmem
  have hkeys := Collected.mem_keys_addAll hpart {}
  rw [← Table.isSome_get?_iff] at hkeys
  obtain ⟨object, hobject⟩ := Option.isSome_iff_exists.1 hkeys
  refine ⟨text, object, htext, hobject, ?_⟩
  rw [keys_eq_of_get?_addAll hobject, mem_foldl_addNew]
  exact .inr (List.mem_flatMap.2
    ⟨part, mem_partsOf_iff.2 ⟨hpart, rfl⟩, mem_givenKeys_of_mem hfault hmem htext⟩)

/-- Every key of an object comes from a directive of the document. -/
theorem exists_directive_of_mem_keys {definitions : List Definition} {type : String}
    {object : CollectedObject}
    (hobject : (({} : Collected).addAll definitions).objects.get? type = some object)
    {key : RawText} (hkey : key ∈ object.keys) : ∃ part, .object part ∈ definitions ∧
      part.name = type ∧ ∃ directive ∈ directivesNamed part.directives "key", ∃ text,
        fieldSetText directive = .ok text ∧ Text.singleSpaced text = key := by
  rw [keys_eq_of_get?_addAll hobject, mem_foldl_addNew] at hkey
  obtain ⟨part, hpart, hmem⟩ := List.mem_flatMap.1 (hkey.resolve_left (by simp))
  obtain ⟨hdefined, hname⟩ := mem_partsOf_iff.1 hpart
  exact ⟨part, hdefined, hname, exists_of_mem_givenKeys hmem⟩

/-! ## Required fields -/

section Required

variable {objects : Table String CollectedObject}

theorem requiredRecord_singleton_eq_ok_iff {type : String} {before record : Record}
    {directive : Directive} : requiredRecord objects type before [directive] = .ok record ↔
      ∃ set, fieldSetOf directive = .ok set ∧ recordOf objects type set = .ok record := by
  simp [requiredRecord, bind_eq_ok_iff]

/-- All directives are resolved, and the last one counts. -/
theorem requiredRecord_of_mem {type : String} {before record : Record}
    {directives : List Directive}
    (h : requiredRecord objects type before directives = .ok record) {directive : Directive}
    (hmem : directive ∈ directives) : ∃ found,
      requiredRecord objects type [] [directive] = .ok found ∧
        (directives.getLast? = some directive → record = found) := by
  induction directives generalizing before with
  | nil => cases hmem
  | cons first rest ih =>
    simp only [requiredRecord, bind_eq_ok_iff] at h
    obtain ⟨set, hset, found, hfound, hrest⟩ := h
    by_cases hbehind : directive ∈ rest
    · obtain ⟨later, hlater, hlast⟩ := ih hrest hbehind
      refine ⟨later, hlater, fun h => hlast ?_⟩
      rwa [List.getLast?_cons_of_ne_nil (List.ne_nil_of_mem hbehind)] at h
    · obtain rfl : directive = first := (List.mem_cons.1 hmem).resolve_right hbehind
      refine ⟨found, requiredRecord_singleton_eq_ok_iff.2 ⟨set, hset, hfound⟩, fun h => ?_⟩
      rcases rest with _ | ⟨next, rest⟩
      · exact (Except.ok.inj hrest).symm
      · rw [List.getLast?_cons_of_ne_nil (by simp)] at h
        exact absurd (List.mem_of_getLast? h) hbehind

/-- Directives that are resolved one by one are resolved together. -/
theorem exists_requiredRecord {type : String} {directives : List Directive}
    (h : ∀ directive ∈ directives, ∃ record,
      requiredRecord objects type [] [directive] = .ok record) (before : Record) :
    ∃ record, requiredRecord objects type before directives = .ok record := by
  induction directives generalizing before with
  | nil => exact ⟨before, rfl⟩
  | cons first rest ih =>
    obtain ⟨⟨found, hfound⟩, hrest⟩ := List.forall_mem_cons.1 h
    obtain ⟨set, hset, hfound⟩ := requiredRecord_singleton_eq_ok_iff.1 hfound
    obtain ⟨record, hrecord⟩ := ih hrest found
    refine ⟨record, ?_⟩
    simp only [requiredRecord, bind_eq_ok_iff]
    exact ⟨set, hset, found, hfound, hrecord⟩

end Required

/-! ## Documents that make a schema -/

/-- What is read makes a schema, or it does not for what its definitions say. -/
theorem schemaOfDocument_cases {document : RawText} {definitions : List Definition}
    (hparse : Graphql.parseDocument document = .ok definitions) :
    (∃ error, schemaOfDocument document = .error (.schemaError error)) ∨ ∃ schema,
      schemaOfDocument document = .ok schema ∧ definitions.findSome? faultOf = none ∧
        (({} : Collected).addAll definitions).build.1 = .ok schema := by
  cases hschema : schemaOfDocument document with
  | ok schema =>
    obtain ⟨collected, hadd, hbuild⟩ := schemaOfDocument_eq_ok_iff.1 hschema
    obtain ⟨found, hfound, hfault, rfl⟩ := Collected.addDocument_eq_none_iff.1 hadd
    obtain rfl : definitions = found := Except.ok.inj (hparse.symm.trans hfound)
    exact .inr ⟨schema, rfl, hfault, hbuild⟩
  | error error =>
    refine .inl ?_
    unfold schemaOfDocument Collected.addDocument at hschema
    rw [hparse] at hschema
    dsimp only at hschema
    generalize Collected.addDefinitions {} definitions = added at hschema
    obtain ⟨collected, _ | fault⟩ := added
    · cases hbuild : collected.build.1 with
      | ok schema => simp [hbuild, Except.mapError] at hschema
      | error fault =>
        obtain rfl : DocumentError.schemaError fault = error := by
          simpa [hbuild, Except.mapError] using hschema
        exact ⟨fault, rfl⟩
    · obtain rfl : DocumentError.schemaError fault = error := by simpa using hschema
      exact ⟨fault, rfl⟩

theorem schemaOfDocument_eq_ok {document : RawText} {definitions : List Definition}
    (hparse : Graphql.parseDocument document = .ok definitions)
    (hfault : definitions.findSome? faultOf = none) {schema : Schema}
    (hbuild : (({} : Collected).addAll definitions).build.1 = .ok schema) :
    schemaOfDocument document = .ok schema :=
  schemaOfDocument_eq_ok_iff.2
    ⟨_, Collected.addDocument_eq_none_iff.2 ⟨definitions, hparse, hfault, rfl⟩, hbuild⟩

/-- What the field sets of an object come to in the object type that is built of it. -/
structure CarriesRecords (collected : Collected) (type : String) (object : CollectedObject)
    (built : ObjectType) : Prop where
  name : built.name = type
  keys : ∀ key ∈ object.keys, ∃ record, collected.keyOf type key = .ok record ∧
    ∃ keys, built.kind = .entity keys ∧ record ∈ keys
  requires : ∀ declaration ∈ object.fields, ∃ record,
    requiredRecord collected.objects type [] (directivesNamed declaration.directives "requires") =
        .ok record ∧
      ∃ resolver ∈ built.resolvers, resolver.name = declaration.name ∧ resolver.requires = record

theorem carriesRecords_of_objectOf {collected : Collected} {type : String}
    {object : CollectedObject} {built : ObjectType}
    (h : collected.objectOf type object = .ok built) :
    CarriesRecords collected type object built := by
  obtain ⟨resolvers, records, hresolvers, hrecords, rfl⟩ := Collected.objectOf_eq_ok_iff.1 h
  constructor
  case name => rfl
  case keys =>
    intro key hkey
    obtain ⟨record, hmem, hrecord⟩ := exists_mem_of_forall₂ (mapM_eq_ok_iff.1 hrecords).flip hkey
    refine ⟨record, hrecord, records, ?_, hmem⟩
    have hne : records.isEmpty = false := by
      simpa using List.ne_nil_of_mem hmem
    simp [Collected.objectWith, hne]
  case requires =>
    intro declaration hdeclaration
    obtain ⟨resolver, hmem, hresolver⟩ :=
      exists_mem_of_forall₂ (mapM_eq_ok_iff.1 hresolvers).flip hdeclaration
    obtain ⟨record, hrecord, rfl⟩ := Collected.resolverOf_eq_ok_iff.1 hresolver
    exact ⟨record, hrecord, _, hmem, rfl, rfl⟩

/-- The field sets of every object that has been collected are resolved. -/
theorem exists_carriesRecords_of_build {collected : Collected} {schema : Schema}
    (h : collected.build.1 = .ok schema) {type : String} {object : CollectedObject}
    (hobject : collected.objects.get? type = some object) :
    ∃ built ∈ schema.objects, CarriesRecords collected type object built := by
  obtain ⟨built, hmem, hbuilt⟩ :=
    exists_mem_of_forall₂ (Collected.forall₂_of_build h).flip (Table.mem_of_get? hobject)
  obtain ⟨hname, hkeys, hrequires⟩ := carriesRecords_of_objectOf hbuilt
  exact ⟨built, hmem, hname, hkeys, hrequires⟩

/-- A traversal succeeds if it does so at each element. -/
theorem exists_mapM {α β ε : Type} {f : α → Except ε β} {xs : List α}
    (h : ∀ x ∈ xs, ∃ y, f x = .ok y) : ∃ ys, xs.mapM f = .ok ys := by
  obtain ⟨ys, hys⟩ := exists_forall₂ (R := fun x y => f x = .ok y) h
  exact ⟨ys, mapM_eq_ok_iff.2 hys⟩

theorem exists_objectOf {collected : Collected} {type : String} {object : CollectedObject}
    (hkeys : ∀ key ∈ object.keys, ∃ record, collected.keyOf type key = .ok record)
    (hrequires : ∀ declaration ∈ object.fields,
      ∀ directive ∈ directivesNamed declaration.directives "requires", ∃ record,
        requiredRecord collected.objects type [] [directive] = .ok record) :
    ∃ built, collected.objectOf type object = .ok built := by
  obtain ⟨records, hrecords⟩ := exists_mapM hkeys
  have hresolvers : ∀ declaration ∈ object.fields, ∃ resolver,
      collected.resolverOf type declaration = .ok resolver := by
    intro declaration hdeclaration
    obtain ⟨record, hrecord⟩ := exists_requiredRecord (hrequires declaration hdeclaration) []
    exact ⟨_, Collected.resolverOf_eq_ok_iff.2 ⟨record, hrecord, rfl⟩⟩
  obtain ⟨resolvers, hresolvers⟩ := exists_mapM hresolvers
  exact ⟨_, Collected.objectOf_eq_ok_iff.2 ⟨resolvers, records, hresolvers, hrecords, rfl⟩⟩

/-- A schema is built if the provided fields are noted without an error and the field sets of
every object are resolved. -/
theorem exists_build {collected : Collected} (hnoted : collected.noteProvided.2 = none)
    (h : ∀ entry ∈ collected.objects, ∃ built, collected.objectOf entry.1 entry.2 = .ok built) :
    ∃ schema, collected.build.1 = .ok schema := by
  have hobjects : ∀ entry ∈ collected.noteProvided.1.objects, ∃ built,
      collected.noteProvided.1.objectOf entry.1 entry.2 = .ok built := by
    intro entry hentry
    obtain ⟨built, hbuilt⟩ := h entry hentry
    obtain ⟨-, hkeys, hrequires⟩ := carriesRecords_of_objectOf hbuilt
    refine exists_objectOf (fun key hkey => ?_) fun declaration hdeclaration directive hmem => ?_
    · obtain ⟨record, hrecord, -⟩ := hkeys key hkey
      exact ⟨record, hrecord⟩
    · obtain ⟨all, hall, -⟩ := hrequires declaration hdeclaration
      obtain ⟨record, hrecord, -⟩ := requiredRecord_of_mem hall hmem
      exact ⟨record, hrecord⟩
  obtain ⟨built, hbuilt⟩ := exists_mapM hobjects
  exact ⟨_, Collected.build_eq_ok_iff.2 ⟨hnoted, Collected.schema_eq_ok_iff.2 ⟨built, hbuilt, rfl⟩⟩⟩

end ResolverTypings.Federation
