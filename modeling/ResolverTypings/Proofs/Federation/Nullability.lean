import ResolverTypings.Proofs.Federation.Records
import ResolverTypings.TypeScript.Type

/-!
# Nullability in records

A record lists fields of a type, and below a field those of the type it leads to. The text of
a member says null where its declaration allows null, at the member itself and at the items of
every list on the way to the named type. The record of a set below a field stands in for the
named type, and null is never said around it, whatever the declaration allows.
-/
namespace ResolverTypings

/-- The record inside the wrappers of a type, if there is one. -/
def FieldType.record? : FieldType → Option Record
  | .named _ => none
  | .nonNull base => base.record?
  | .list base => base.record?
  | .record members => some members

/-- The records that belong to an object: its keys, and what its resolvers read. -/
def ObjectType.records (object : ObjectType) : List Record :=
  (match object.kind with
    | .plain => []
    | .entity keys => keys) ++ object.resolvers.map (·.requires)

/-! ## Null in texts -/

namespace TypeScript

/-- A text that allows null around all else. -/
def SaysNull (text : String) : Prop :=
  ∃ inner, text = "Nullable<" ++ inner ++ ">"

theorem not_saysNull_of_not_mem {text : String} (h : '<' ∉ text.toList) : ¬ SaysNull text := by
  rintro ⟨inner, rfl⟩
  simp at h

theorem not_saysNull_of_head {text : String} (h : text.toList.head? ≠ some 'N') :
    ¬ SaysNull text := by
  rintro ⟨inner, rfl⟩
  simp at h

theorem not_saysNull_typeName {name : String} (h : Graphql.isName name) :
    ¬ SaysNull (typeName name) := by
  have hname : '<' ∉ name.toList := by
    unfold Graphql.isName at h
    intro hmem
    cases hchars : name.toList with
    | nil => simp [hchars] at hmem
    | cons c rest =>
      simp only [hchars, Bool.and_eq_true, List.all_eq_true] at h
      rcases List.mem_cons.1 (hchars ▸ hmem) with rfl | hmem
      · exact absurd h.1 (by decide)
      · exact absurd (h.2 _ hmem) (by decide)
  refine not_saysNull_of_not_mem ?_
  unfold typeName
  split_ifs
  · decide
  · decide
  · decide
  · exact hname

theorem not_saysNull_array (item : String) : ¬ SaysNull ("Array<" ++ item ++ ">") :=
  not_saysNull_of_head (by simp)

theorem not_saysNull_recordText (record : Record) : ¬ SaysNull (recordText record) :=
  not_saysNull_of_head (by simp [recordText, typeText])

theorem saysNull_orNull_iff {nullable : Bool} {text : String} (h : ¬ SaysNull text) :
    SaysNull (orNull nullable text) ↔ nullable = true := by
  cases nullable with
  | false => simpa [orNull] using h
  | true => exact iff_of_true ⟨text, rfl⟩ rfl

/-! ## Members of records -/

theorem membersText_eq (members : List (String × FieldType)) :
    membersText members = String.join
      (members.map fun member => member.1 ++ ": " ++ typeText true member.2 ++ ", ") := by
  induction members with
  | nil => rfl
  | cons first rest ih =>
    rw [membersText, ih]
    simp

/-- The text of a record declares each of its members, one after the other. -/
theorem recordText_eq (record : Record) :
    recordText record = "\x7b " ++
      String.join (record.map fun member => member.1 ++ ": " ++ typeText true member.2 ++ ", ") ++
        "\x7d" := by
  rw [recordText, typeText, membersText_eq]

/-- A member of a record stands in the text of the record. -/
theorem exists_recordText_eq {record : Record} {member : String × FieldType}
    (h : member ∈ record) : ∃ before behind, recordText record =
      before ++ (member.1 ++ ": " ++ typeText true member.2 ++ ", ") ++ behind := by
  obtain ⟨front, back, rfl⟩ := List.append_of_mem h
  refine ⟨"\x7b " ++ membersText front, membersText back ++ "\x7d", ?_⟩
  simp [recordText_eq, membersText_eq, String.append_assoc]

end TypeScript

/-! ## Members and their declarations -/

namespace Federation

open Graphql (FieldDeclaration TypeRef isName)
open Text (RawText)
open TypeScript

/-- A text follows a declared type from the outside in: at each list and at the name inside it
says null just if the declaration allows null there. Where a record stands in for the name, the
text at that place is the record's own, and null is not said around it. -/
def ShowsNulls (inner : Option Record) : (nullable : Bool) → TypeRef → String → Prop
  | nullable, .named _, text =>
    match inner with
    | none => SaysNull text ↔ nullable = true
    | some record => text = recordText record ∧ ¬ SaysNull text
  | _, .nonNull base, text => ShowsNulls inner false base text
  | nullable, .list base, text =>
    (SaysNull text ↔ nullable = true) ∧ ∃ item,
      text = orNull nullable ("Array<" ++ item ++ ">") ∧ ShowsNulls inner true base item

/-- Around a leaf that is right for the innermost place the wrappers say null as declared. -/
theorem showsNulls_wrap {inner : Option Record} {leaf : FieldType}
    (hleaf : ∀ nullable name, ShowsNulls inner nullable (.named name) (typeText nullable leaf))
    (nullable : Bool) (type : TypeRef) :
    ShowsNulls inner nullable type (typeText nullable (wrap leaf type)) := by
  induction type generalizing nullable with
  | named name => exact hleaf nullable name
  | nonNull base ih => exact ih false
  | list base ih => exact ⟨saysNull_orNull_iff (not_saysNull_array _), _, rfl, ih true⟩

theorem record?_wrap (leaf : FieldType) (type : TypeRef) :
    (wrap leaf type).record? = leaf.record? := by
  induction type with
  | named _ => rfl
  | nonNull base ih => exact ih
  | list base ih => exact ih

/-- A record on a type, or one below a member of it on the type that the member leads to. -/
inductive Below (objects : Table String CollectedObject) :
    String → Record → String → Record → Prop where
  | here (type : String) (record : Record) : Below objects type record type record
  | into {type target : String} {record inner found : Record} {member : String × FieldType}
      {declaration : FieldDeclaration} :
      member ∈ record → member.2.record? = some inner →
      findField objects type member.1 = .ok declaration →
      Below objects declaration.type.name inner target found →
      Below objects type record target found

variable {objects : Table String CollectedObject}

/-- A record that some field set on a type has. -/
def IsRecordOn (objects : Table String CollectedObject) (type : String) (record : Record) :
    Prop :=
  ∃ set, recordOf objects type set = .ok record

/-- A member is of the declared type, around the record of the set below it if there is one. -/
theorem IsRecordOn.exists_of_mem {type : String} {record : Record}
    (h : IsRecordOn objects type record) {member : String × FieldType} (hmem : member ∈ record) :
    ∃ declaration, findField objects type member.1 = .ok declaration ∧
      (member.2 = fieldTypeOf declaration.type ∨
        ∃ inner, IsRecordOn objects declaration.type.name inner ∧
          member.2 = wrap (.record inner) declaration.type) := by
  obtain ⟨set, hset⟩ := h
  induction set generalizing record with
  | empty =>
    cases hset
    simp at hmem
  | field name nested rest _ ihRest =>
    simp only [recordOf_field, bind_eq_ok_iff, pure_eq_ok_iff] at hset
    obtain ⟨declaration, hfound, shown, hmember, more, hmore, rfl⟩ := hset
    rcases List.mem_cons.1 hmem with rfl | hmem
    · refine ⟨declaration, hfound, ?_⟩
      cases nested with
      | empty =>
        cases hmember
        exact .inl rfl
      | field =>
        simp only [memberType, bind_eq_ok_iff, pure_eq_ok_iff] at hmember
        obtain ⟨inner, hinner, rfl⟩ := hmember
        exact .inr ⟨inner, ⟨_, hinner⟩, rfl⟩
    · exact ihRest hmem hmore

/-- What stands below the record of a field set is the record of one. -/
theorem IsRecordOn.below {type target : String} {record found : Record}
    (h : IsRecordOn objects type record) (hbelow : Below objects type record target found) :
    IsRecordOn objects target found := by
  induction hbelow with
  | here => exact h
  | into hmem hinner hfound _ ih =>
    refine ih ?_
    obtain ⟨declaration, hfound', htype⟩ := h.exists_of_mem hmem
    obtain rfl := Except.ok.inj (hfound.symm.trans hfound')
    rcases htype with htype | ⟨inner, hrecord, htype⟩
    · rw [htype, fieldTypeOf, record?_wrap] at hinner
      cases hinner
    · rw [htype, record?_wrap] at hinner
      cases hinner
      exact hrecord

theorem isRecordOn_requiredRecord {type : String} {before record : Record}
    {directives : List Graphql.Directive} (hbefore : IsRecordOn objects type before)
    (h : requiredRecord objects type before directives = .ok record) :
    IsRecordOn objects type record := by
  rcases requiredRecord_eq_ok h with ⟨-, rfl⟩ | ⟨directive, -, set, -, hrecord⟩
  · exact hbefore
  · exact ⟨set, hrecord⟩

theorem Collected.mem_records_objectWith_iff {collected : Collected} {name : String}
    {object : CollectedObject} {resolvers : List Resolver} {keys : List Record}
    {record : Record} : record ∈ (collected.objectWith name object resolvers keys).records ↔
      record ∈ keys ∨ ∃ resolver ∈ resolvers, resolver.requires = record := by
  have hrequires : record ∈ resolvers.map (·.requires) ↔
      ∃ resolver ∈ resolvers, resolver.requires = record := List.mem_map
  cases keys with
  | nil => simp [ObjectType.records, objectWith]
  | cons key rest => exact List.mem_append.trans (or_congr_right hrequires)

/-- The records of an object that is built are records of field sets on it. -/
theorem Collected.isRecordOn_of_mem_records {collected : Collected} {schema : Schema}
    (hbuilt : collected.build.1 = .ok schema) {object : ObjectType}
    (hobject : object ∈ schema.objects) {record : Record} (hrecord : record ∈ object.records) :
    IsRecordOn collected.objects object.name record := by
  obtain ⟨⟨name, source⟩, -, hsource⟩ := exists_mem_of_forall₂ (forall₂_of_build hbuilt) hobject
  obtain ⟨resolvers, keys, hresolvers, hkeys, rfl⟩ := objectOf_eq_ok_iff.1 hsource
  rw [mapM_eq_ok_iff] at hresolvers hkeys
  rcases mem_records_objectWith_iff.1 hrecord with hkey | ⟨resolver, hresolver, rfl⟩
  · obtain ⟨key, -, hkeyOf⟩ := exists_mem_of_forall₂ hkeys hkey
    obtain ⟨set, -, hset⟩ := keyOf_eq_ok_iff.1 hkeyOf
    exact ⟨set, hset⟩
  · obtain ⟨declaration, -, hresolverOf⟩ := exists_mem_of_forall₂ hresolvers hresolver
    obtain ⟨requires, hrequires, rfl⟩ := resolverOf_eq_ok_iff.1 hresolverOf
    exact isRecordOn_requiredRecord ⟨.empty, rfl⟩ hrequires

/-- **Null in records.** In a document that is accepted, every member of a record of an
object, at any depth, stands in the text of its record and belongs to a declaration of the type
that the record is on. The text of its type says null just where the declaration allows it,
except around the record of a set below it. -/
theorem showsNulls_of_document {document : RawText} {schema : Schema}
    (hbuilt : schemaOfDocument document = .ok schema) {object : ObjectType}
    (hobject : object ∈ schema.objects) {record : Record} (hrecord : record ∈ object.records)
    {type : String} {found : Record}
    (hbelow : Below (Collected.addDocument {} document).1.objects object.name record type found)
    {member : String × FieldType} (hmember : member ∈ found) :
    (∃ before behind, recordText found =
      before ++ (member.1 ++ ": " ++ typeText true member.2 ++ ", ") ++ behind) ∧
    ∃ declaration,
      findField (Collected.addDocument {} document).1.objects type member.1 = .ok declaration ∧
      ShowsNulls member.2.record? true declaration.type (typeText true member.2) := by
  obtain ⟨collected, hcollected, hbuild⟩ := schemaOfDocument_eq_ok_iff.1 hbuilt
  have hnamed : collected.IsNamed := by
    obtain ⟨definitions, hparsed, -, rfl⟩ := Collected.addDocument_eq_none_iff.1 hcollected
    exact Collected.isNamed_addAll hparsed
  rw [hcollected] at hbelow ⊢
  refine ⟨exists_recordText_eq hmember, ?_⟩
  have hrecordOn := (Collected.isRecordOn_of_mem_records hbuild hobject hrecord).below hbelow
  obtain ⟨declaration, hfound, htype⟩ := hrecordOn.exists_of_mem hmember
  refine ⟨declaration, hfound, ?_⟩
  rcases htype with htype | ⟨inner, -, htype⟩
  · rw [htype, fieldTypeOf, record?_wrap]
    refine showsNulls_wrap (fun _ _ => ?_) true declaration.type
    exact saysNull_orNull_iff (not_saysNull_typeName (hnamed.findField hfound))
  · rw [htype, record?_wrap]
    refine showsNulls_wrap (fun _ _ => ?_) true declaration.type
    exact ⟨rfl, not_saysNull_recordText inner⟩

/-- A key that leads through a list to a member with lists of its own. -/
def listedKey : String :=
  "type User @key(fields: \"teams\x7btags\x7d\") \x7b teams: [Team!] \x7d
    type Team \x7b tags: [[String]!]! \x7d"

/-- The member below the list. -/
def tagsMember : String × FieldType :=
  ("tags", .nonNull (.list (.nonNull (.list (.named "String")))))

/-- The record of the key. -/
def listedRecord : Record :=
  [("teams", .list (.nonNull (.record [tagsMember])))]

theorem showsNulls_listedKey : ∃ schema object,
    schemaOfDocument listedKey = .ok schema ∧ object ∈ schema.objects ∧
      listedRecord ∈ object.records ∧
      Below (Collected.addDocument {} listedKey).1.objects object.name listedRecord
        "Team" [tagsMember] ∧
      (∃ before behind, recordText [tagsMember] =
        before ++ (tagsMember.1 ++ ": " ++ typeText true tagsMember.2 ++ ", ") ++ behind) ∧
      ∃ declaration,
        findField (Collected.addDocument {} listedKey).1.objects "Team" tagsMember.1 =
          .ok declaration ∧
        ShowsNulls tagsMember.2.record? true declaration.type (typeText true tagsMember.2) := by
  have hrecords : (schemaOfDocument listedKey).map (fun schema =>
      (schema.object? "User").map (·.records)) = .ok (some [listedRecord, []]) := by
    decide +kernel
  obtain ⟨schema, hbuilt, hrecords⟩ := map_eq_ok_iff.1 hrecords
  obtain ⟨object, hfound, hrecords⟩ := Option.map_eq_some_iff.1 hrecords
  have hname : object.name = "User" := by simpa using List.find?_some hfound
  have hobject : object ∈ schema.objects := List.mem_of_find?_eq_some hfound
  have hrecord : listedRecord ∈ object.records := by simp [hrecords]
  have hteams : findField (Collected.addDocument {} listedKey).1.objects "User" "teams" =
      .ok ⟨"teams", .list (.nonNull (.named "Team")), [], [], none⟩ := by
    decide +kernel
  have hbelow : Below (Collected.addDocument {} listedKey).1.objects object.name listedRecord
      "Team" [tagsMember] := by
    rw [hname]
    exact .into (List.mem_singleton_self _) rfl hteams (.here "Team" [tagsMember])
  exact ⟨schema, object, hbuilt, hobject, hrecord, hbelow,
    showsNulls_of_document hbuilt hobject hrecord hbelow (List.mem_singleton_self tagsMember)⟩

/-- A key with a set below a field that may be null. -/
def nullableKey : String :=
  "type Account @key(fields: \"org\x7bid\x7d\") \x7b org: Org \x7d type Org \x7b id: ID! \x7d"

/-- The type of the member with the set below it. -/
def nullableMember : FieldType :=
  .record [("id", .nonNull (.named "ID"))]

/-- The declaration allows null, and the text of the member does not say so. -/
theorem not_saysNull_nullableKey : ∃ schema object declaration,
    schemaOfDocument nullableKey = .ok schema ∧ schema.object? "Account" = some object ∧
      [("org", nullableMember)] ∈ object.records ∧
      findField (Collected.addDocument {} nullableKey).1.objects "Account" "org" =
        .ok declaration ∧
      declaration.type = .named "Org" ∧ ¬ SaysNull (typeText true nullableMember) := by
  have hrecords : (schemaOfDocument nullableKey).map (fun schema =>
      (schema.object? "Account").map (·.records)) =
        .ok (some [[("org", nullableMember)], []]) := by
    decide +kernel
  obtain ⟨schema, hbuilt, hrecords⟩ := map_eq_ok_iff.1 hrecords
  obtain ⟨object, hfound, hrecords⟩ := Option.map_eq_some_iff.1 hrecords
  refine ⟨schema, object, ⟨"org", .named "Org", [], [], none⟩, hbuilt, hfound, ?_, ?_, rfl, ?_⟩
  · simp [hrecords]
  · decide +kernel
  · exact not_saysNull_recordText _

end Federation
end ResolverTypings
