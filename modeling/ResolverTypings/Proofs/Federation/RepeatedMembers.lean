import ResolverTypings.Proofs.Federation.FieldSetRecords

/-!
# Members that are repeated

A record has one member for each field that its field set selects, in the record itself and in
every record below one of its members. So a field that is selected twice becomes two members of
one name, and that is the only way in which names come to be repeated: the declarations and the
other field sets of the document have no part in it.
-/
namespace ResolverTypings

/-! ## Records inside records -/

/-- A record is another one, or it stands inside the type of a member of it. -/
inductive Inside : Record → Record → Prop where
  | here (record : Record) : Inside record record
  | into {record inner found : Record} {member : String × FieldType} :
      member ∈ record → member.2.record? = some inner → Inside inner found → Inside record found

theorem forall_inside_iff {P : Record → Prop} {record : Record} :
    (∀ found, Inside record found → P found) ↔
      P record ∧ ∀ member ∈ record, ∀ inner, member.2.record? = some inner →
        ∀ found, Inside inner found → P found := by
  constructor
  · intro h
    exact ⟨h record (.here record), fun member hmem inner hinner found hfound =>
      h found (.into hmem hinner hfound)⟩
  · rintro ⟨hrecord, hmembers⟩ found hfound
    cases hfound with
    | here => exact hrecord
    | into hmem hinner hfound => exact hmembers _ hmem _ hinner _ hfound

namespace Federation

open Graphql (Definition Directive FieldDeclaration ObjectPart)
open Text (RawText)
open TypeScript

/-! ## Fields that are selected once -/

namespace FieldSet

/-- The names of the fields that are selected at the top of a field set. -/
def names : FieldSet → List String
  | .empty => []
  | .field name _ rest => name :: rest.names

/-- No field is selected twice at the top of a field set, nor at the top of a set below a
field. -/
def SelectsOnce : FieldSet → Prop
  | .empty => True
  | .field name nested rest => name ∉ rest.names ∧ nested.SelectsOnce ∧ rest.SelectsOnce

instance decidableSelectsOnce : (set : FieldSet) → Decidable set.SelectsOnce
  | .empty => .isTrue trivial
  | .field _ nested rest =>
    have := decidableSelectsOnce nested
    have := decidableSelectsOnce rest
    inferInstanceAs (Decidable (_ ∧ _ ∧ _))

end FieldSet

theorem names_membersFieldSet (members : List (String × FieldType)) :
    (FieldType.membersFieldSet members).names = Record.names members := by
  induction members with
  | nil => rfl
  | cons first rest ih => exact congrArg (first.1 :: ·) ih

mutual

/-- A type shows a set without repetition just if the names in its record, and in all records
inside that, are distinct. -/
theorem selectsOnce_fieldSet_iff : (type : FieldType) →
    (type.fieldSet.SelectsOnce ↔ ∀ inner, type.record? = some inner →
      ∀ found, Inside inner found → found.names.Nodup)
  | .named name => by simp [FieldType.fieldSet, FieldType.record?, FieldSet.SelectsOnce]
  | .nonNull base => selectsOnce_fieldSet_iff base
  | .list base => selectsOnce_fieldSet_iff base
  | .record members => by
    simp only [FieldType.fieldSet, FieldType.record?, Option.some.injEq, forall_eq']
    rw [forall_inside_iff]
    exact selectsOnce_membersFieldSet_iff members

theorem selectsOnce_membersFieldSet_iff : (members : List (String × FieldType)) →
    ((FieldType.membersFieldSet members).SelectsOnce ↔
      (Record.names members).Nodup ∧ ∀ member ∈ members, ∀ inner,
        member.2.record? = some inner → ∀ found, Inside inner found → found.names.Nodup)
  | [] => by simp [FieldType.membersFieldSet, FieldSet.SelectsOnce, Record.names]
  | (name, type) :: rest => by
    have hnames : Record.names ((name, type) :: rest) = name :: Record.names rest := rfl
    rw [FieldType.membersFieldSet, FieldSet.SelectsOnce, names_membersFieldSet,
      selectsOnce_fieldSet_iff type, selectsOnce_membersFieldSet_iff rest, hnames,
      List.nodup_cons, List.forall_mem_cons]
    tauto

end

/-- The names in a record, and in all records inside it, are distinct just if the field set that
it shows selects no field twice. -/
theorem forall_nodup_names_iff {record : Record} :
    (∀ found, Inside record found → found.names.Nodup) ↔ record.fieldSet.SelectsOnce := by
  rw [forall_inside_iff]
  exact (selectsOnce_membersFieldSet_iff record).symm

/-! ## Where records come from -/

/-- A field set that a document makes a record of, with the type on which it selects: the set of
a key, read with single spaces, or the one in the last directive on a field that requires
others. -/
inductive MakesRecord (definitions : List Definition) : (type : String) → FieldSet → Prop where
  | key {part : ObjectPart} {directive : Directive} {text : RawText} {set : FieldSet} :
      .object part ∈ definitions → directive ∈ directivesNamed part.directives "key" →
      fieldSetText directive = .ok text →
      FieldSet.parse "key" (Text.singleSpaced text) = .ok set →
      MakesRecord definitions part.name set
  | requires {type : String} {object : CollectedObject} {declaration : FieldDeclaration}
      {directive : Directive} {set : FieldSet} :
      (({} : Collected).addAll definitions).objects.get? type = some object →
      declaration ∈ object.fields →
      (directivesNamed declaration.directives "requires").getLast? = some directive →
      fieldSetOf directive = .ok set → MakesRecord definitions type set

section Document

variable {definitions : List Definition} {schema : Schema}
  (hbuild : (({} : Collected).addAll definitions).build.1 = .ok schema)

include hbuild in
/-- The records of an object show field sets that the document makes records of, unless they
have no members because nothing is required. -/
theorem makesRecord_of_mem_records {object : ObjectType} (hobject : object ∈ schema.objects)
    {record : Record} (hrecord : record ∈ object.records) :
    record = [] ∨ MakesRecord definitions object.name record.fieldSet := by
  obtain ⟨⟨type, source⟩, hentry, hsource⟩ :=
    exists_mem_of_forall₂ (Collected.forall₂_of_build hbuild) hobject
  obtain ⟨resolvers, keys, hresolvers, hkeys, rfl⟩ := Collected.objectOf_eq_ok_iff.1 hsource
  rw [mapM_eq_ok_iff] at hresolvers hkeys
  have hget : (({} : Collected).addAll definitions).objects.get? type = some source :=
    (Table.get?_eq_some_iff (Collected.isDistinct_addAll definitions).objectNames).2 hentry
  rcases Collected.mem_records_objectWith_iff.1 hrecord with hkey | ⟨resolver, hresolver, rfl⟩
  · obtain ⟨key, hmem, hkeyOf⟩ := exists_mem_of_forall₂ hkeys hkey
    obtain ⟨set, hset, hrecordOf⟩ := Collected.keyOf_eq_ok_iff.1 hkeyOf
    obtain ⟨rfl, -⟩ := recordOf_eq_ok_iff.1 hrecordOf
    obtain ⟨part, hpart, rfl, directive, hdirective, text, htext, rfl⟩ :=
      exists_directive_of_mem_keys hget hmem
    exact .inr (.key hpart hdirective htext hset)
  · obtain ⟨declaration, hdeclaration, hresolverOf⟩ := exists_mem_of_forall₂ hresolvers hresolver
    obtain ⟨requires, hrequires, rfl⟩ := Collected.resolverOf_eq_ok_iff.1 hresolverOf
    refine (requiredRecord_eq_ok hrequires).imp And.right ?_
    rintro ⟨directive, hlast, set, hset, hrecordOf⟩
    obtain ⟨rfl, -⟩ := recordOf_eq_ok_iff.1 hrecordOf
    exact .requires hget hdeclaration hlast hset

include hbuild in
/-- Every field set that the document makes a record of is shown by one in the schema. -/
theorem exists_mem_records_of_makesRecord (hfault : definitions.findSome? faultOf = none)
    {type : String} {set : FieldSet} (h : MakesRecord definitions type set) :
    ∃ object ∈ schema.objects, object.name = type ∧
      ∃ record ∈ object.records, record.fieldSet = set := by
  cases h with
  | key hpart hdirective htext hset =>
    obtain ⟨text, source, htext', hobject, hkey⟩ := exists_mem_keys_addAll hfault hpart hdirective
    obtain rfl := Except.ok.inj (htext.symm.trans htext')
    obtain ⟨object, hmem, hcarries⟩ := exists_carriesRecords_of_build hbuild hobject
    obtain ⟨record, hkeyOf, keys, hkind, hrecord⟩ := hcarries.keys _ hkey
    obtain ⟨found, hfound, hrecordOf⟩ := Collected.keyOf_eq_ok_iff.1 hkeyOf
    obtain rfl := Except.ok.inj (hset.symm.trans hfound)
    refine ⟨object, hmem, hcarries.name, record, ?_, (recordOf_eq_ok_iff.1 hrecordOf).1⟩
    simp [ObjectType.records, hkind, hrecord]
  | requires hobject hdeclaration hlast hset =>
    obtain ⟨object, hmem, hcarries⟩ := exists_carriesRecords_of_build hbuild hobject
    obtain ⟨record, hall, resolver, hresolver, -, hrequires⟩ := hcarries.requires _ hdeclaration
    obtain ⟨hnone, -⟩ | ⟨directive, hlast', found, hfound, hrecordOf⟩ := requiredRecord_eq_ok hall
    · simp [hnone] at hlast
    · obtain rfl := Option.some.inj (hlast.symm.trans hlast')
      obtain rfl := Except.ok.inj (hset.symm.trans hfound)
      refine ⟨object, hmem, hcarries.name, record, ?_, (recordOf_eq_ok_iff.1 hrecordOf).1⟩
      exact List.mem_append_right _ (List.mem_map.2 ⟨resolver, hresolver, hrequires⟩)

end Document

/-- **Members that are repeated.** In the schema of a document, the names in all records are
distinct at every depth just if none of the field sets that the document makes records of selects
a field twice. Each record shows such a field set if it has members at all, and a record has
distinct names just if its own set selects no field twice. The text of a record declares each of
its members, one after the other. -/
theorem nodup_names_iff_of_document {document : RawText} {definitions : List Definition}
    (hparse : Graphql.parseDocument document = .ok definitions) {schema : Schema}
    (hbuilt : schemaOfDocument document = .ok schema) :
    ((∀ object ∈ schema.objects, ∀ record ∈ object.records,
        ∀ found, Inside record found → found.names.Nodup) ↔
      ∀ type set, MakesRecord definitions type set → set.SelectsOnce) ∧
    ∀ object ∈ schema.objects, ∀ record ∈ object.records,
      (record = [] ∨ MakesRecord definitions object.name record.fieldSet) ∧
      ((∀ found, Inside record found → found.names.Nodup) ↔ record.fieldSet.SelectsOnce) ∧
      ∀ found, Inside record found → recordText found = "\x7b " ++
        String.join (found.map fun member => member.1 ++ ": " ++ typeText true member.2 ++ ", ") ++
          "\x7d" := by
  obtain ⟨error, herror⟩ | ⟨built, hbuilt', hfault, hbuild⟩ := schemaOfDocument_cases hparse
  · rw [hbuilt] at herror
    cases herror
  obtain rfl := Except.ok.inj (hbuilt.symm.trans hbuilt')
  constructor
  · simp only [forall_nodup_names_iff]
    constructor
    · intro hrecords type set hset
      obtain ⟨object, hobject, -, record, hrecord, rfl⟩ :=
        exists_mem_records_of_makesRecord hbuild hfault hset
      exact hrecords object hobject record hrecord
    · intro hsets object hobject record hrecord
      rcases makesRecord_of_mem_records hbuild hobject hrecord with rfl | hset
      · trivial
      · exact hsets _ _ hset
  · intro object hobject record hrecord
    exact ⟨makesRecord_of_mem_records hbuild hobject hrecord, forall_nodup_names_iff,
      fun found _ => recordText_eq found⟩

/-- A key that selects fields of one name on two types. -/
def sharedName : String :=
  "type Account @key(fields: \"id org\x7bid\x7d\") \x7b id: ID! org: Org \x7d
    type Org \x7b id: ID! \x7d"

/-- The record of the key. -/
def sharedNameRecord : Record :=
  [("id", .nonNull (.named "ID")), ("org", .record [("id", .nonNull (.named "ID"))])]

theorem nodup_names_sharedName : ∃ definitions schema object,
    Graphql.parseDocument sharedName = .ok definitions ∧
      schemaOfDocument sharedName = .ok schema ∧
      object ∈ schema.objects ∧ sharedNameRecord ∈ object.records ∧
      MakesRecord definitions object.name sharedNameRecord.fieldSet ∧
      ∀ found, Inside sharedNameRecord found → found.names.Nodup := by
  have hrecords : (schemaOfDocument sharedName).map (fun schema =>
      (schema.object? "Account").map (·.records)) = .ok (some [sharedNameRecord, [], []]) := by
    decide +kernel
  obtain ⟨schema, hbuilt, hrecords⟩ := map_eq_ok_iff.1 hrecords
  obtain ⟨object, hfound, hrecords⟩ := Option.map_eq_some_iff.1 hrecords
  have hobject : object ∈ schema.objects := List.mem_of_find?_eq_some hfound
  have hrecord : sharedNameRecord ∈ object.records := by simp [hrecords]
  obtain ⟨collected, hcollected, -⟩ := schemaOfDocument_eq_ok_iff.1 hbuilt
  obtain ⟨definitions, hparse, -⟩ := Collected.addDocument_eq_none_iff.1 hcollected
  obtain ⟨hset, hnodup, -⟩ := (nodup_names_iff_of_document hparse hbuilt).2 _ hobject _ hrecord
  exact ⟨definitions, schema, object, hparse, hbuilt, hobject, hrecord,
    hset.resolve_left (by decide), hnodup.2 (by decide)⟩

/-- A field that is selected twice is declared twice. -/
theorem not_nodup_names_selectedTwice : ∃ schema object,
    schemaOfDocument "type Item @key(fields: \"id id\") \x7b id: ID! \x7d" = .ok schema ∧
      object ∈ schema.objects ∧ ∃ record ∈ object.records, ¬ record.names.Nodup ∧
        recordText record = "\x7b id: string, id: string, \x7d" := by
  have hrecords : (schemaOfDocument "type Item @key(fields: \"id id\") \x7b id: ID! \x7d").map
      (fun schema => (schema.object? "Item").map (·.records)) = .ok (some
        [[("id", .nonNull (.named "ID")), ("id", .nonNull (.named "ID"))], []]) := by
    decide +kernel
  obtain ⟨schema, hbuilt, hrecords⟩ := map_eq_ok_iff.1 hrecords
  obtain ⟨object, hfound, hrecords⟩ := Option.map_eq_some_iff.1 hrecords
  refine ⟨schema, object, hbuilt, List.mem_of_find?_eq_some hfound,
    [("id", .nonNull (.named "ID")), ("id", .nonNull (.named "ID"))], ?_, ?_, ?_⟩
  · simp [hrecords]
  · decide
  · decide +kernel

end Federation
end ResolverTypings
