import ResolverTypings.Proofs.Federation.FieldSetRecords
import ResolverTypings.Proofs.Federation.Merging
import ResolverTypings.Proofs.Federation.Translatable
import ResolverTypings.Proofs.TypeScript.Shapes

/-!
# Keys that are repeated

The keys of an entity are told apart by their texts with single spaces between the words, and
each of these texts counts once. What is built of them are records, and a record is known by the
field set that it shows. So a key is repeated in the representation of an entity just where one
field set was written in two ways that differ in more than the blanks between words, as with a
comma or with blanks beside braces.
-/
namespace ResolverTypings

open Federation (FieldSet)

/-! ## Field sets read off texts -/

namespace TypeScript

namespace TypeShape

mutual
/-- The field set that a shape shows: that of the record at its bottom. -/
def fieldSet : TypeShape → FieldSet
  | .named _ _ => .empty
  | .array _ item => item.fieldSet
  | .record members => fieldSetOfMembers members

/-- The field set that the members of a shape show. -/
def fieldSetOfMembers : List (String × TypeShape) → FieldSet
  | [] => .empty
  | (name, shape) :: rest => .field name shape.fieldSet (fieldSetOfMembers rest)
end

end TypeShape

mutual

/-- The shape of a type shows the field set that the type does. -/
theorem fieldSet_shapeOf (nullable : Bool) :
    (type : FieldType) → (shapeOf nullable type).fieldSet = type.fieldSet
  | .named _ => rfl
  | .nonNull base => fieldSet_shapeOf false base
  | .list base => fieldSet_shapeOf true base
  | .record members => fieldSetOfMembers_shapesOf members

theorem fieldSetOfMembers_shapesOf : (members : List (String × FieldType)) →
    TypeShape.fieldSetOfMembers (shapesOf members) = FieldType.membersFieldSet members
  | [] => rfl
  | (name, type) :: rest => by
    rw [shapesOf, TypeShape.fieldSetOfMembers, fieldSet_shapeOf true type,
      fieldSetOfMembers_shapesOf rest, FieldType.membersFieldSet]

end

/-- Records that are written alike show the same field set. -/
theorem fieldSet_eq_of_recordText_eq {record other : Record}
    (hnames : ∀ name ∈ FieldType.mentionedBy record, Graphql.isName name)
    (hnames' : ∀ name ∈ FieldType.mentionedBy other, Graphql.isName name)
    (h : recordText record = recordText other) : record.fieldSet = other.fieldSet := by
  have hnothing : EndsType [] := by simp [EndsType]
  have htexts : (shapeOf true (.record record)).text.toList ++ [] =
      (shapeOf true (.record other)).text.toList ++ [] := by
    rw [text_shapeOf, text_shapeOf, ← recordText, h, recordText]
  have hshapes := (TypeShape.eq_of_text_append _ (isNamed_shapeOf true (.record record) hnames)
    (isNamed_shapeOf true (.record other) hnames') hnothing hnothing htexts).1
  calc record.fieldSet = (shapeOf true (.record record)).fieldSet :=
        (fieldSet_shapeOf true (.record record)).symm
    _ = (shapeOf true (.record other)).fieldSet := by rw [hshapes]
    _ = other.fieldSet := fieldSet_shapeOf true (.record other)

end TypeScript

namespace Federation

open Graphql (Definition TypeRef isName)
open Text (RawText)
open TypeScript

/-! ## Names in records -/

theorem mentioned_wrap (leaf : FieldType) (type : TypeRef) :
    (wrap leaf type).mentioned = leaf.mentioned := by
  induction type with
  | named _ => rfl
  | list base ih => exact ih
  | nonNull base ih => exact ih

/-- All names in a record on a type are names of declarations. -/
theorem isName_of_mem_mentionedBy {collected : Collected} (hnamed : collected.IsNamed)
    {type : String} {set : FieldSet} {record : Record}
    (h : recordOf collected.objects type set = .ok record) :
    ∀ name ∈ FieldType.mentionedBy record, isName name := by
  induction set generalizing type record with
  | empty =>
    cases h
    simp [FieldType.mentionedBy]
  | field name nested rest ihNested ihRest =>
    simp only [recordOf_field, bind_eq_ok_iff, pure_eq_ok_iff] at h
    obtain ⟨declaration, hfound, member, hmember, more, hmore, rfl⟩ := h
    have hdeclared := hnamed.declaration hfound
    have hname : declaration.name = name := by
      obtain ⟨object, -, hfield⟩ := findField_eq_ok_iff.1 hfound
      simpa using List.find?_some hfield
    have htype : ∀ other ∈ member.mentioned, isName other := by
      cases nested with
      | empty =>
        cases hmember
        rw [fieldTypeOf, mentioned_wrap]
        simpa [FieldType.mentioned] using hdeclared.type
      | field =>
        simp only [memberType, bind_eq_ok_iff, pure_eq_ok_iff] at hmember
        obtain ⟨inner, hinner, rfl⟩ := hmember
        rw [mentioned_wrap]
        exact ihNested hinner
    rw [FieldType.mentionedBy, List.cons_append, List.forall_mem_cons, List.forall_mem_append]
    exact ⟨hname ▸ hdeclared.name, htype, ihRest hmore⟩

/-! ## The texts of keys -/

/-- The texts of all keys of an object with single spaces between their words, each one time, in
the order in which they come up. -/
def distinctKeys (definitions : List Definition) (name : String) : List RawText :=
  ((partsNamed definitions name).flatMap keysOf).eraseDups

/-- The keys of an object that a run has collected. -/
theorem SchemaReader.keys_of_mem_objects {steps : List Step} {name : String}
    {object : CollectedObject} (h : (name, object) ∈ (run {} steps).collected.objects) :
    object.keys = distinctKeys (definitionsRead steps) name := by
  rw [objects_run, Collected.gatherObjects, Table.gather_nil] at h
  obtain ⟨_, -, hentry⟩ := List.mem_map.1 h
  obtain ⟨rfl, rfl⟩ := Prod.mk.inj hentry
  rw [CollectedObject.keys_foldl_withPart, foldl_addNew_nil]
  rfl

/-! ## Keys that differ -/

section Keys

variable {collected : Collected} {type : String}

/-- The key of a text is the record that shows the field set in it. -/
theorem fieldSet_of_keyOf {text : RawText} {key : Record}
    (h : collected.keyOf type text = .ok key) : FieldSet.parse "key" text = .ok key.fieldSet := by
  obtain ⟨set, hset, hrecord⟩ := Collected.keyOf_eq_ok_iff.1 h
  rwa [(recordOf_eq_ok_iff.1 hrecord).1]

variable {texts : List RawText} {keys : List Record}
  (hkeys : List.Forall₂ (fun text key => collected.keyOf type text = .ok key) texts keys)

include hkeys in
theorem recordOf_of_mem_keys {key : Record} (hkey : key ∈ keys) :
    recordOf collected.objects type key.fieldSet = .ok key := by
  obtain ⟨text, -, htext⟩ := exists_mem_of_forall₂ hkeys hkey
  obtain ⟨set, -, hrecord⟩ := Collected.keyOf_eq_ok_iff.1 htext
  rwa [(recordOf_eq_ok_iff.1 hrecord).1]

include hkeys in
/-- Keys of one type are told apart by their field sets. -/
theorem eq_of_fieldSet_eq {key other : Record} (hkey : key ∈ keys) (hother : other ∈ keys)
    (hsets : key.fieldSet = other.fieldSet) : key = other := by
  have hrecord := recordOf_of_mem_keys hkeys hkey
  rw [hsets, recordOf_of_mem_keys hkeys hother] at hrecord
  exact (Except.ok.inj hrecord).symm

include hkeys in
/-- No key is repeated just if no two of the texts hold the same field set. -/
theorem nodup_keys_iff (htexts : texts.Nodup) :
    keys.Nodup ↔ ∀ text ∈ texts, ∀ other ∈ texts,
      FieldSet.parse "key" text = FieldSet.parse "key" other → text = other := by
  have hmap : texts.map (FieldSet.parse "key") = keys.map fun key => .ok key.fieldSet :=
    map_eq_map_of_forall₂ (fun _ _ htext => fieldSet_of_keyOf htext) hkeys
  rw [← List.nodup_map_iff_inj_on htexts, hmap]
  constructor
  · intro hnodup
    exact hnodup.map_on fun key hkey other hother hsets =>
      eq_of_fieldSet_eq hkeys hkey hother (Except.ok.inj hsets)
  · exact List.Nodup.of_map _

include hkeys in
/-- No key is written twice just if none is repeated. -/
theorem nodup_map_recordText_iff (hnamed : collected.IsNamed) :
    (keys.map recordText).Nodup ↔ keys.Nodup := by
  have hnames : ∀ key ∈ keys, ∀ name ∈ FieldType.mentionedBy key, isName name := by
    intro key hkey
    exact isName_of_mem_mentionedBy hnamed (recordOf_of_mem_keys hkeys hkey)
  constructor
  · exact List.Nodup.of_map _
  · intro hnodup
    exact hnodup.map_on fun key hkey other hother htexts => eq_of_fieldSet_eq hkeys hkey hother
      (fieldSet_eq_of_recordText_eq (hnames key hkey) (hnames other hother) htexts)

end Keys

/-- The declarations of an entity begin with the union of its keys. -/
theorem exists_objectText_eq {object : ObjectType} {keys : List Record}
    (htext : object.HasText) (hkind : object.kind = .entity keys) :
    ∃ behind, objectText object = .ok (representationText object.name ++ "\x7b\x7d> & (" ++
      String.intercalate " | " (keys.map recordText) ++ ")\n\n" ++ behind) := by
  refine ⟨shapeText object ++ resolverInterface object (interfaceMembers object), ?_⟩
  rw [objectText_eq_ok_iff, objectDeclarations, aliasText, hkind]
  exact ⟨htext, by simp [declaresShape, ObjectType.isEntity, hkind]⟩

/-- **Keys that are repeated.** In a schema that is built after any run, an entity has one key
for each text that its definitions and extensions give for one, with single spaces between the
words, however often and with whatever blanks between words it is given. The key shows the field
set in the text. No key is repeated just if no two of these texts hold the same field set, and
then no alternative is repeated in the union that is written for the entity. -/
theorem nodup_keys_iff_of_run {steps : List Step} {schema : Schema}
    (hbuilt : (SchemaReader.run {} steps).build.2 = .ok schema) {object : ObjectType}
    (hobject : object ∈ schema.objects) {keys : List Record}
    (hkind : object.kind = .entity keys) :
    List.Forall₂ (fun text key => FieldSet.parse "key" text = .ok key.fieldSet)
      (distinctKeys (definitionsRead steps) object.name) keys ∧
    (keys.Nodup ↔ ∀ text ∈ distinctKeys (definitionsRead steps) object.name,
      ∀ other ∈ distinctKeys (definitionsRead steps) object.name,
        FieldSet.parse "key" text = FieldSet.parse "key" other → text = other) ∧
    ((keys.map recordText).Nodup ↔ keys.Nodup) ∧
    ∃ behind, objectText object = .ok (representationText object.name ++ "\x7b\x7d> & (" ++
      String.intercalate " | " (keys.map recordText) ++ ")\n\n" ++ behind) := by
  have hbuild := SchemaReader.build_eq_ok_iff.1 hbuilt
  have hdistinct := SchemaReader.isDistinct_run steps
  have hnamed := SchemaReader.isNamed_run steps
  obtain ⟨⟨name, source⟩, hsource, hobjectOf⟩ :=
    exists_mem_of_forall₂ (Collected.forall₂_of_build hbuild) hobject
  obtain ⟨resolvers, found, -, hkeys, rfl⟩ := Collected.objectOf_eq_ok_iff.1 hobjectOf
  obtain ⟨rfl, -⟩ := Collected.kind_objectWith_eq_entity_iff.1 hkind
  rw [mapM_eq_ok_iff, SchemaReader.keys_of_mem_objects hsource] at hkeys
  have hnamed' : (SchemaReader.run {} steps).collected.noteProvided.1.IsNamed := hnamed
  exact ⟨hkeys.imp fun _ _ htext => fieldSet_of_keyOf htext,
    nodup_keys_iff hkeys (nodup_eraseDups _), nodup_map_recordText_iff hkeys hnamed',
    exists_objectText_eq
      (Collected.isRegular_of_build hdistinct hnamed hbuild _ hobject).hasText hkind⟩

/-- A key that an extension repeats with other blanks, beside one of its own. -/
def blankedKeys : List Step := [
  .read "items" "type Item @key(fields: \"id  name\") \x7b id: ID! name: String \x7d",
  .read "more" "extend type Item @key(fields: \" id\\tname\") @key(fields: \"name\")"]

/-- The records of the two keys. -/
def blankedKeyRecords : List Record :=
  [[("id", .nonNull (.named "ID")), ("name", .named "String")], [("name", .named "String")]]

theorem nodup_keys_blankedKeys : ∃ schema object,
    (SchemaReader.run {} blankedKeys).build.2 = .ok schema ∧ object ∈ schema.objects ∧
      object.kind = .entity blankedKeyRecords ∧ blankedKeyRecords.Nodup ∧
      (blankedKeyRecords.map recordText).Nodup := by
  have hkinds : (SchemaReader.run {} blankedKeys).build.2.map (fun schema =>
      (schema.object? "Item").map (·.kind)) = .ok (some (.entity blankedKeyRecords)) := by
    decide +kernel
  obtain ⟨schema, hbuilt, hkinds⟩ := map_eq_ok_iff.1 hkinds
  obtain ⟨object, hfound, hkind⟩ := Option.map_eq_some_iff.1 hkinds
  have hobject : object ∈ schema.objects := List.mem_of_find?_eq_some hfound
  have hnodup : blankedKeyRecords.Nodup := by decide
  obtain ⟨-, -, htexts, -⟩ := nodup_keys_iff_of_run hbuilt hobject hkind
  exact ⟨schema, object, hbuilt, hobject, hkind, hnodup, htexts.2 hnodup⟩

/-- A key that is written with a comma and without one is repeated, and so is its alternative
in the representation. -/
theorem not_nodup_keys_comma : ∃ schema object,
    (SchemaReader.run {} [.read "items" "type Item @key(fields: \"id, name\")
      @key(fields: \"id name\") \x7b id: ID! name: String \x7d"]).build.2 = .ok schema ∧
    object ∈ schema.objects ∧ ∃ keys, object.kind = .entity keys ∧ ¬ keys.Nodup ∧
      ¬ (keys.map recordText).Nodup := by
  have hkinds : (SchemaReader.run {} [.read "items" "type Item @key(fields: \"id, name\")
      @key(fields: \"id name\") \x7b id: ID! name: String \x7d"]).build.2.map (fun schema =>
        (schema.object? "Item").map (·.kind)) = .ok (some (.entity
          [[("id", .nonNull (.named "ID")), ("name", .named "String")],
            [("id", .nonNull (.named "ID")), ("name", .named "String")]])) := by
    decide +kernel
  obtain ⟨schema, hbuilt, hkinds⟩ := map_eq_ok_iff.1 hkinds
  obtain ⟨object, hfound, hkind⟩ := Option.map_eq_some_iff.1 hkinds
  exact ⟨schema, object, hbuilt, List.mem_of_find?_eq_some hfound, _, hkind, by decide, by simp⟩

end Federation
end ResolverTypings
