import ResolverTypings.Proofs.Federation.Nullability
import ResolverTypings.Proofs.Federation.Undeclared

/-!
# The records of field sets

A field set on a type has a record just where all that it selects is declared. The record is
determined by two things: the fields that are selected, in their order and at every depth, and
the declarations of these fields, whose wrappers stand in the record as they were declared.
Aliases, arguments and directives in the text of a field set make no difference.
-/
namespace ResolverTypings

open Federation (FieldSet)

/-! ## Wrappers -/

/-- What may stand around a type. -/
inductive Wrapper where
  | list
  | nonNull
  deriving Repr, DecidableEq, Inhabited

/-- The wrappers of a type as a document writes it, from the outside in. -/
def Graphql.TypeRef.wrappers : Graphql.TypeRef → List Wrapper
  | .named _ => []
  | .list base => .list :: base.wrappers
  | .nonNull base => .nonNull :: base.wrappers

namespace FieldType

/-- The wrappers of a type, from the outside in. -/
def wrappers : FieldType → List Wrapper
  | .named _ | .record _ => []
  | .list base => .list :: base.wrappers
  | .nonNull base => .nonNull :: base.wrappers

/-- The type inside all wrappers: a name or a record. -/
def core : FieldType → FieldType
  | .list base => base.core
  | .nonNull base => base.core
  | type => type

mutual
/-- The field set that a type shows: that of the record inside its wrappers. -/
def fieldSet : FieldType → FieldSet
  | .named _ => .empty
  | .list base => base.fieldSet
  | .nonNull base => base.fieldSet
  | .record members => membersFieldSet members

/-- The field set that members show: their names in order, and below each what its type
shows. -/
def membersFieldSet : List (String × FieldType) → FieldSet
  | [] => .empty
  | (name, type) :: rest => .field name type.fieldSet (membersFieldSet rest)
end

/-- A type is known by its wrappers and by what is inside them. -/
theorem eq_of_wrappers_eq {type other : FieldType} (hwrappers : type.wrappers = other.wrappers)
    (hcore : type.core = other.core) : type = other := by
  fun_induction wrappers type generalizing other <;> cases other <;> grind [wrappers, core]

theorem fieldSet_core (type : FieldType) : type.core.fieldSet = type.fieldSet := by
  fun_induction core type <;> simp_all [fieldSet]

theorem record?_core (type : FieldType) : type.core.record? = type.record? := by
  fun_induction core type <;> simp_all [record?]

end FieldType

/-- The field set that a record shows. -/
def Record.fieldSet (record : Record) : FieldSet :=
  FieldType.membersFieldSet record

namespace Federation

open Graphql (FieldDeclaration TypeRef)

@[simp] theorem fieldSet_nil : Record.fieldSet [] = .empty := rfl

@[simp] theorem fieldSet_cons (name : String) (type : FieldType) (rest : Record) :
    Record.fieldSet ((name, type) :: rest) = .field name type.fieldSet rest.fieldSet := rfl

theorem fieldSet_eq_empty_iff {record : Record} : record.fieldSet = .empty ↔ record = [] := by
  cases record with
  | nil => simp
  | cons first rest => simp [Record.fieldSet, FieldType.membersFieldSet]

/-! ## The wrappers of declared types -/

theorem wrappers_wrap {leaf : FieldType} (hleaf : leaf.wrappers = []) (type : TypeRef) :
    (wrap leaf type).wrappers = type.wrappers := by
  induction type with
  | named _ => exact hleaf
  | list base ih => exact congrArg _ ih
  | nonNull base ih => exact congrArg _ ih

theorem core_wrap (leaf : FieldType) (type : TypeRef) : (wrap leaf type).core = leaf.core := by
  induction type with
  | named _ => rfl
  | list base ih => exact ih
  | nonNull base ih => exact ih

/-- A type around a leaf is known by the wrappers and the leaf. -/
theorem eq_wrap_iff {leaf member : FieldType} {type : TypeRef} (hwrappers : leaf.wrappers = [])
    (hcore : leaf.core = leaf) :
    member = wrap leaf type ↔ member.wrappers = type.wrappers ∧ member.core = leaf := by
  constructor
  · rintro rfl
    exact ⟨wrappers_wrap hwrappers type, (core_wrap leaf type).trans hcore⟩
  · rintro ⟨hmember, hleaf⟩
    refine FieldType.eq_of_wrappers_eq (hmember.trans (wrappers_wrap hwrappers type).symm) ?_
    rw [hleaf, core_wrap, hcore]

/-! ## Records on a type -/

variable {objects : Table String CollectedObject}

/-- The members of a record on a type, and of all records below it, are declared: around
each stand the wrappers of its declaration, and inside is the name that the declaration gives
or a record in place of it, which has members. -/
def IsDeclaredOn (objects : Table String CollectedObject) (type : String) (record : Record) :
    Prop :=
  ∀ target found, Below objects type record target found → ∀ member ∈ found,
    ∃ declaration, findField objects target member.1 = .ok declaration ∧
      member.2.wrappers = declaration.type.wrappers ∧
      (member.2.core = .named declaration.type.name ∨
        ∃ inner, inner ≠ [] ∧ member.2.core = .record inner)

theorem isDeclaredOn_nil (type : String) : IsDeclaredOn objects type [] := by
  intro target found hbelow
  cases hbelow with
  | here => simp
  | into hmem => simp at hmem

/-- A record is declared on a type member by member. -/
theorem isDeclaredOn_cons_iff {type name : String} {member : FieldType} {rest : Record} :
    IsDeclaredOn objects type ((name, member) :: rest) ↔
      (∃ declaration, findField objects type name = .ok declaration ∧
        member.wrappers = declaration.type.wrappers ∧
        (member.core = .named declaration.type.name ∨ ∃ inner, inner ≠ [] ∧
          member.core = .record inner ∧ IsDeclaredOn objects declaration.type.name inner)) ∧
      IsDeclaredOn objects type rest := by
  constructor
  · intro h
    refine ⟨?_, fun target found hbelow => ?_⟩
    · obtain ⟨declaration, hfound, hwrappers, hcore⟩ := h type _ (.here _ _) _ List.mem_cons_self
      refine ⟨declaration, hfound, hwrappers, hcore.imp id ?_⟩
      rintro ⟨inner, hne, hcore⟩
      have hinner : member.record? = some inner := by
        rw [← FieldType.record?_core, hcore, FieldType.record?]
      exact ⟨inner, hne, hcore, fun target found hbelow =>
        h target found (.into List.mem_cons_self hinner hfound hbelow)⟩
    · cases hbelow with
      | here => exact fun member hmem => h type _ (.here _ _) member (List.mem_cons_of_mem _ hmem)
      | into hmem hinner hfound hbelow =>
        exact h target found (.into (List.mem_cons_of_mem _ hmem) hinner hfound hbelow)
  · rintro ⟨⟨declaration, hfound, hwrappers, hcore⟩, hrest⟩ target found hbelow
    cases hbelow with
    | here =>
      refine List.forall_mem_cons.2 ⟨⟨declaration, hfound, hwrappers, hcore.imp id ?_⟩,
        hrest type rest (.here _ _)⟩
      rintro ⟨inner, hne, hcore, -⟩
      exact ⟨inner, hne, hcore⟩
    | into hmem hinner hfound' hbelow =>
      rcases List.mem_cons.1 hmem with rfl | hmem
      · obtain rfl := Except.ok.inj (hfound.symm.trans hfound')
        rw [← FieldType.record?_core] at hinner
        rcases hcore with hcore | ⟨inner, -, hcore, hdeclared⟩
        · rw [hcore] at hinner
          cases hinner
        · rw [hcore] at hinner
          cases hinner
          exact hdeclared target found hbelow
      · exact hrest target found (.into hmem hinner hfound' hbelow)

/-- What the type of a member is made of: the wrappers of its declaration, and inside the
declared name or the record of the set below it. -/
theorem memberType_eq_ok_iff {declaration : FieldDeclaration} {nested : FieldSet}
    {member : FieldType} : memberType objects declaration nested = .ok member ↔
      member.wrappers = declaration.type.wrappers ∧
      ((nested = .empty ∧ member.core = .named declaration.type.name) ∨
        nested ≠ .empty ∧ ∃ inner, recordOf objects declaration.type.name nested = .ok inner ∧
          member.core = .record inner) := by
  cases nested with
  | empty => simpa [memberType, pure_eq_ok_iff, fieldTypeOf] using eq_wrap_iff rfl rfl
  | field name nested rest =>
    have hrecord : ∀ inner : Record, member = wrap (.record inner) declaration.type ↔
        member.wrappers = declaration.type.wrappers ∧ member.core = .record inner :=
      fun inner => eq_wrap_iff rfl rfl
    simp only [memberType, bind_eq_ok_iff, pure_eq_ok_iff, hrecord]
    constructor
    · rintro ⟨inner, hinner, hwrappers, hcore⟩
      exact ⟨hwrappers, .inr ⟨by simp, inner, hinner, hcore⟩⟩
    · rintro ⟨hwrappers, ⟨hempty, -⟩ | ⟨-, inner, hinner, hcore⟩⟩
      · cases hempty
      · exact ⟨inner, hinner, hwrappers, hcore⟩

/-- The record of a field set is the one that shows the field set and is declared. -/
theorem recordOf_eq_ok_iff {type : String} {set : FieldSet} {record : Record} :
    recordOf objects type set = .ok record ↔
      record.fieldSet = set ∧ IsDeclaredOn objects type record := by
  induction set generalizing type record with
  | empty =>
    rw [fieldSet_eq_empty_iff, recordOf, pure_eq_ok_iff]
    constructor
    · rintro rfl
      exact ⟨rfl, isDeclaredOn_nil type⟩
    · exact And.left
  | field name nested rest ihNested ihRest =>
    have hmember : ∀ {declaration : FieldDeclaration} {member : FieldType},
        memberType objects declaration nested = .ok member ↔
          member.fieldSet = nested ∧ member.wrappers = declaration.type.wrappers ∧
          (member.core = .named declaration.type.name ∨ ∃ inner, inner ≠ [] ∧
            member.core = .record inner ∧ IsDeclaredOn objects declaration.type.name inner) := by
      intro declaration member
      rw [memberType_eq_ok_iff, ← FieldType.fieldSet_core member]
      simp only [ihNested]
      constructor
      · rintro ⟨hwrappers, ⟨rfl, hcore⟩ | ⟨hne, inner, ⟨hset, hdeclared⟩, hcore⟩⟩
        · exact ⟨by rw [hcore, FieldType.fieldSet], hwrappers, .inl hcore⟩
        · refine ⟨by rw [hcore, FieldType.fieldSet]; exact hset, hwrappers,
            .inr ⟨inner, ?_, hcore, hdeclared⟩⟩
          rintro rfl
          exact hne hset.symm
      · rintro ⟨hset, hwrappers, hcore | ⟨inner, hne, hcore, hdeclared⟩⟩
        · refine ⟨hwrappers, .inl ⟨?_, hcore⟩⟩
          rw [← hset, hcore, FieldType.fieldSet]
        · rw [hcore, FieldType.fieldSet] at hset
          refine ⟨hwrappers, .inr ⟨?_, inner, ⟨hset, hdeclared⟩, hcore⟩⟩
          rintro rfl
          exact hne (fieldSet_eq_empty_iff.1 hset)
    simp only [recordOf_field, bind_eq_ok_iff, pure_eq_ok_iff, hmember, ihRest]
    constructor
    · rintro ⟨declaration, hfound, member, ⟨hset, hwrappers, hcore⟩, more, ⟨hmore, hdeclared⟩, rfl⟩
      refine ⟨by simp [hset, hmore], isDeclaredOn_cons_iff.2 ⟨?_, hdeclared⟩⟩
      exact ⟨declaration, hfound, hwrappers, hcore⟩
    · rintro ⟨hset, hdeclared⟩
      cases record with
      | nil => cases hset
      | cons first more =>
        obtain ⟨first, member⟩ := first
        obtain ⟨rfl, hnested, hrest⟩ := FieldSet.field.inj hset
        obtain ⟨⟨declaration, hfound, hwrappers, hcore⟩, hdeclared⟩ :=
          isDeclaredOn_cons_iff.1 hdeclared
        exact ⟨declaration, hfound, member, ⟨hnested, hwrappers, hcore⟩, more,
          ⟨hrest, hdeclared⟩, rfl⟩

/-! ## Fields that are not declared -/

/-- A type is collected and declares a field. -/
def IsDeclared (objects : Table String CollectedObject) (type field : String) : Prop :=
  ∃ object, objects.get? type = some object ∧ ∃ declaration ∈ object.fields,
    declaration.name = field

theorem exists_findField_iff {type field : String} :
    (∃ declaration, findField objects type field = .ok declaration) ↔
      IsDeclared objects type field := by
  simp only [findField_eq_ok_iff, IsDeclared]
  rw [exists_comm]
  refine exists_congr fun object => ?_
  rw [exists_and_left, ← Option.isSome_iff_exists, CollectedObject.field?, List.find?_isSome]
  simp only [beq_iff_eq]

/-- An error says of a field that is not declared what is missing: its type, or the field on
that type. -/
def Misses (objects : Table String CollectedObject) (type field : String) :
    SchemaError → Prop
  | .unknownType name => name = type ∧ objects.get? type = none
  | .unknownField name missing => name = type ∧ missing = field ∧
      (objects.get? type).isSome ∧ ¬ IsDeclared objects type field
  | _ => False

theorem misses_of_findField {type field : String} {error : SchemaError}
    (h : findField objects type field = .error error) : Misses objects type field error := by
  have hnot : ¬ IsDeclared objects type field := by
    rw [← exists_findField_iff, h]
    simp
  unfold findField at h
  cases hobject : objects.get? type with
  | none =>
    rw [hobject] at h
    cases h
    exact ⟨rfl, hobject⟩
  | some object =>
    cases hfield : object.field? field with
    | none =>
      simp only [hobject, hfield] at h
      cases h
      exact ⟨rfl, rfl, by simp [hobject], hnot⟩
    | some declaration =>
      simp only [hobject, hfield] at h
      cases h

/-- What fails for a field set fails at a field that it reaches. -/
theorem exists_reaches_of_recordOf {type : String} {set : FieldSet} {error : SchemaError}
    (h : recordOf objects type set = .error error) : ∃ target,
      Reaches objects type set target ∧ findField objects target.1 target.2 = .error error := by
  induction set generalizing type with
  | empty => cases h
  | field name nested rest ihNested ihRest =>
    simp only [recordOf_field, bind_eq_error_iff, pure_ne_error, or_false, and_false,
      exists_false] at h
    rcases h with hfound | ⟨declaration, hfound, hmember | ⟨member, -, hrest⟩⟩
    · exact ⟨(type, name), reaches_field_iff.2 (.inl rfl), hfound⟩
    · cases nested with
      | empty => cases hmember
      | field =>
        simp only [memberType, bind_eq_error_iff, pure_ne_error, or_false, and_false,
          exists_false] at hmember
        obtain ⟨target, hreaches, htarget⟩ := ihNested hmember
        exact ⟨target, reaches_field_iff.2 (.inr (.inl ⟨_, hfound, hreaches⟩)), htarget⟩
    · obtain ⟨target, hreaches, htarget⟩ := ihRest hrest
      exact ⟨target, reaches_field_iff.2 (.inr (.inr hreaches)), htarget⟩

/-! ## Field sets and their records -/

/-- **Records of field sets.** A field set on a type has a record if and only if each field
that it selects is declared on the type on which it is selected: the given one in front, and
below a field the one that its declaration names. Otherwise the error tells such a field that is
not declared. The record is the one that shows the fields of the set, in order and at every
depth, and whose members are of their declared types with the record of what is selected below
in the place of the name. However the text of the set writes it, with aliases, arguments and
directives, the record is the same. -/
theorem recordOf_follows_declarations (objects : Table String CollectedObject) (type : String)
    (set : FieldSet) :
    ((∃ record, recordOf objects type set = .ok record) ↔
      ∀ target, Reaches objects type set target → IsDeclared objects target.1 target.2) ∧
    (∀ error, recordOf objects type set = .error error →
      ∃ target, Reaches objects type set target ∧ Misses objects target.1 target.2 error) ∧
    (∀ record, recordOf objects type set = .ok record ↔
      record.fieldSet = set ∧ IsDeclaredOn objects type record) ∧
    ∀ directive text, IsFieldSetText text set → Graphql.endsInComment text.toList = false →
      (FieldSet.parse directive text >>= recordOf objects type) = recordOf objects type set := by
  refine ⟨?_, fun error herror => ?_, fun record => recordOf_eq_ok_iff,
    fun directive text htext hcomment => ?_⟩
  · simp only [exists_recordOf_iff, exists_findField_iff]
  · obtain ⟨target, hreaches, hfound⟩ := exists_reaches_of_recordOf herror
    exact ⟨target, hreaches, misses_of_findField hfound⟩
  · have hparse : FieldSet.parse directive text = .ok set :=
      (parse_eq_ok_iff_isFieldSetText (staysInBraces_of_isFieldSetText htext)).2 ⟨htext, hcomment⟩
    rw [hparse]
    rfl

end Federation
end ResolverTypings
