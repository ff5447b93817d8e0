import ResolverTypings.Federation.Build
import ResolverTypings.Proofs.Sequences

/-!
# Field sets against declarations

A chain of nested selections is a path down a field set, and it leads from type to type by
the declarations of its fields. The fields that a field set names are those at the ends of
its chains. All that is read off a field set rests on the declarations that are found:
where more is declared, nothing that was found before changes.
-/
namespace ResolverTypings.Federation

open Graphql (Directive FieldDeclaration)

variable {objects later : Table String CollectedObject}

/-! ## Chains of selections -/

/-- A chain of nested selections: a field of the set, and then one of the set below each. -/
inductive FieldSet.Chain : FieldSet → List String → Prop where
  | first (name : String) (nested rest : FieldSet) : Chain (.field name nested rest) [name]
  | into (name : String) {nested : FieldSet} (rest : FieldSet) {path : List String} :
      Chain nested path → Chain (.field name nested rest) (name :: path)
  | past (name : String) (nested : FieldSet) {rest : FieldSet} {path : List String} :
      Chain rest path → Chain (.field name nested rest) path

theorem FieldSet.Chain.ne_nil {set : FieldSet} {path : List String} (h : set.Chain path) :
    path ≠ [] := by
  induction h with
  | first => simp
  | into => simp
  | past _ _ _ ih => exact ih

/-- The type that a path of fields leads to from a type, by the named types of their
declarations. -/
inductive LeadsTo (objects : Table String CollectedObject) : String → List String → String → Prop
    where
  | here (type : String) : LeadsTo objects type [] type
  | step {type field target : String} {declaration : FieldDeclaration} {path : List String} :
      findField objects type field = .ok declaration →
      LeadsTo objects declaration.type.name path target →
      LeadsTo objects type (field :: path) target

/-- A field of a type stands at the end of a chain of a field set on a type. -/
def Reaches (objects : Table String CollectedObject) (type : String) (set : FieldSet)
    (target : String × String) : Prop :=
  ∃ path, set.Chain (path ++ [target.2]) ∧ LeadsTo objects type path target.1

/-- Nothing is reached by the empty set. -/
theorem not_reaches_empty (type : String) (target : String × String) :
    ¬ Reaches objects type .empty target := by
  rintro ⟨path, hchain, -⟩
  cases hchain

/-- A chain ends at the first field, below it or behind it. -/
theorem reaches_field_iff {type name : String} {nested rest : FieldSet}
    {target : String × String} :
    Reaches objects type (.field name nested rest) target ↔
      target = (type, name) ∨
      (∃ declaration, findField objects type name = .ok declaration ∧
        Reaches objects declaration.type.name nested target) ∨
      Reaches objects type rest target := by
  obtain ⟨owner, field⟩ := target
  constructor
  · rintro ⟨path, hchain, hleads⟩
    -- The chain leads to its own end at the first step or goes into what is below.
    generalize hwhole : path ++ [field] = whole at hchain
    cases hchain with
    | first =>
      obtain ⟨rfl, hfield⟩ := List.append_eq_singleton_iff.1 hwhole |>.resolve_right (by simp)
      cases hleads
      exact .inl (by simp_all)
    | @into _ _ _ inner hinner =>
      cases path with
      | nil => exact absurd (List.cons_eq_cons.1 hwhole).2.symm hinner.ne_nil
      | cons first path =>
        obtain ⟨rfl, rfl⟩ := List.cons_eq_cons.1 hwhole
        cases hleads with
        | step hfound hleads => exact .inr (.inl ⟨_, hfound, path, hinner, hleads⟩)
    | past _ _ hrest => exact .inr (.inr ⟨path, hwhole ▸ hrest, hleads⟩)
  · rintro (heq | ⟨declaration, hfound, path, hchain, hleads⟩ | ⟨path, hchain, hleads⟩)
    · obtain ⟨rfl, rfl⟩ := Prod.mk.inj heq
      exact ⟨[], .first _ _ _, .here _⟩
    · exact ⟨name :: path, .into name rest hchain, .step hfound hleads⟩
    · exact ⟨path, .past name nested hchain, hleads⟩

/-! ## The fields that a set names -/

theorem mem_andThen_iff {α : Type} {found more : Partial α} {x : α} :
    x ∈ (found.andThen more).1 ↔ x ∈ found.1 ∨ (found.2 = none ∧ x ∈ more.1) := by
  cases h : found.2 <;> simp [Partial.andThen, h]

theorem andThen_eq_none_iff {α : Type} {found more : Partial α} :
    (found.andThen more).2 = none ↔ found.2 = none ∧ more.2 = none := by
  cases h : found.2 <;> simp [Partial.andThen, h]

/-- The fields named by the set below a field. -/
def namedBelow (objects : Table String CollectedObject) (type name : String) :
    FieldSet → Partial (String × String)
  | .empty => ([], none)
  | nested =>
    match findField objects type name with
    | .error error => ([], some error)
    | .ok declaration => namedFields objects declaration.type.name nested

theorem namedFields_field (type name : String) (nested rest : FieldSet) :
    namedFields objects type (.field name nested rest) =
      (Partial.andThen ([(type, name)], none) (namedBelow objects type name nested)).andThen
        (namedFields objects type rest) := by
  cases nested <;> rfl

/-- Only what is reached is named, also before an error. -/
theorem reaches_of_mem_namedFields {type : String} {set : FieldSet} {target : String × String}
    (h : target ∈ (namedFields objects type set).1) : Reaches objects type set target := by
  induction set generalizing type with
  | empty => simp [namedFields] at h
  | field name nested rest ihNested ihRest =>
    rw [reaches_field_iff]
    rw [namedFields_field, mem_andThen_iff, mem_andThen_iff] at h
    rcases h with (h | ⟨-, h⟩) | ⟨-, h⟩
    · exact .inl (by simpa using h)
    · refine .inr (.inl ?_)
      cases nested with
      | empty => simp [namedBelow] at h
      | field =>
        simp only [namedBelow] at h
        cases hfound : findField objects type name with
        | error error => simp [hfound] at h
        | ok declaration => exact ⟨declaration, rfl, ihNested (by simpa [hfound] using h)⟩
    · exact .inr (.inr (ihRest h))

/-- Without an error all that is reached is named. -/
theorem mem_namedFields_of_reaches {type : String} {set : FieldSet} {target : String × String}
    (hok : (namedFields objects type set).2 = none) (h : Reaches objects type set target) :
    target ∈ (namedFields objects type set).1 := by
  induction set generalizing type with
  | empty => exact absurd h (not_reaches_empty type target)
  | field name nested rest ihNested ihRest =>
    rw [namedFields_field, andThen_eq_none_iff, andThen_eq_none_iff] at hok
    obtain ⟨⟨-, hbelow⟩, hrest⟩ := hok
    rw [namedFields_field, mem_andThen_iff, mem_andThen_iff]
    rcases reaches_field_iff.1 h with rfl | ⟨declaration, hfound, h⟩ | h
    · exact .inl (.inl (by simp))
    · refine .inl (.inr ⟨rfl, ?_⟩)
      cases nested with
      | empty => exact absurd h (not_reaches_empty _ target)
      | field =>
        simp only [namedBelow, hfound] at hbelow ⊢
        exact ihNested hbelow h
    · exact .inr ⟨by simp [andThen_eq_none_iff, hbelow], ihRest hrest h⟩

/-! ## More declarations -/

/-- Whatever the first objects declare, the second declare as well, in the same way. -/
def CoveredBy (objects later : Table String CollectedObject) : Prop :=
  ∀ type field declaration, findField objects type field = .ok declaration →
    findField later type field = .ok declaration

namespace CoveredBy

theorem leadsTo (covered : CoveredBy objects later) {type target : String} {path : List String}
    (h : LeadsTo objects type path target) : LeadsTo later type path target := by
  induction h with
  | here type => exact .here type
  | step hfound _ ih => exact .step (covered _ _ _ hfound) ih

theorem reaches (covered : CoveredBy objects later) {type : String} {set : FieldSet}
    {target : String × String} (h : Reaches objects type set target) :
    Reaches later type set target := by
  obtain ⟨path, hchain, hleads⟩ := h
  exact ⟨path, hchain, covered.leadsTo hleads⟩

theorem namedFields (covered : CoveredBy objects later) {type : String} {set : FieldSet}
    (h : (namedFields objects type set).2 = none) : (namedFields later type set).2 = none := by
  induction set generalizing type with
  | empty => rfl
  | field name nested rest ihNested ihRest =>
    rw [namedFields_field, andThen_eq_none_iff, andThen_eq_none_iff] at h ⊢
    obtain ⟨⟨-, hbelow⟩, hrest⟩ := h
    refine ⟨⟨rfl, ?_⟩, ihRest hrest⟩
    cases nested with
    | empty => rfl
    | field =>
      simp only [namedBelow] at hbelow ⊢
      cases hfound : findField objects type name with
      | error error => simp [hfound] at hbelow
      | ok declaration =>
        rw [covered _ _ _ hfound]
        exact ihNested (by simpa [hfound] using hbelow)

end CoveredBy

/-- The type of a record's member: that of its declaration, around the record of the set
below it if there is one. -/
def memberType (objects : Table String CollectedObject) (declaration : FieldDeclaration) :
    FieldSet → Except SchemaError FieldType
  | .empty => return fieldTypeOf declaration.type
  | nested => do
    let inner ← recordOf objects declaration.type.name nested
    return wrap (.record inner) declaration.type

theorem recordOf_field (type name : String) (nested rest : FieldSet) :
    recordOf objects type (.field name nested rest) = (do
      let declaration ← findField objects type name
      let member ← memberType objects declaration nested
      let more ← recordOf objects type rest
      return (name, member) :: more) := by
  cases nested <;> simp [recordOf, memberType]

/-- The record of a field set stays the same where more is declared. -/
theorem CoveredBy.recordOf (covered : CoveredBy objects later) {type : String} {set : FieldSet}
    {record : Record} (h : recordOf objects type set = .ok record) :
    recordOf later type set = .ok record := by
  induction set generalizing type record with
  | empty => exact h
  | field name nested rest ihNested ihRest =>
    simp only [recordOf_field, bind_eq_ok_iff] at h ⊢
    obtain ⟨declaration, hfound, member, hmember, more, hmore, hrecord⟩ := h
    refine ⟨declaration, covered _ _ _ hfound, member, ?_, more, ihRest hmore, hrecord⟩
    cases nested with
    | empty => exact hmember
    | field =>
      simp only [memberType, bind_eq_ok_iff] at hmember ⊢
      obtain ⟨inner, hinner, hwrap⟩ := hmember
      exact ⟨inner, ihNested hinner, hwrap⟩

theorem CoveredBy.requiredRecord (covered : CoveredBy objects later) {type : String}
    {before record : Record} {directives : List Directive}
    (h : requiredRecord objects type before directives = .ok record) :
    requiredRecord later type before directives = .ok record := by
  induction directives generalizing before with
  | nil => exact h
  | cons directive rest ih =>
    simp only [Federation.requiredRecord, bind_eq_ok_iff] at h ⊢
    obtain ⟨set, hset, found, hfound, hrest⟩ := h
    exact ⟨set, hset, found, covered.recordOf hfound, ih hrest⟩

end ResolverTypings.Federation
