import ResolverTypings.Proofs.Federation.KeySpacing

/-!
# Fields that are not declared

A document is refused if one of its field sets cannot be read, or names a field that the type
it is looked up on does not declare. The field sets of keys and required fields are looked up
as a whole. Of one that a field provides only the fields with further ones below them are, so
that it may end in fields that nothing declares.
-/
namespace ResolverTypings.Federation

open Graphql (Definition Directive FieldDeclaration ObjectPart)

section FieldSets

variable {objects : Table String CollectedObject}

/-! ## Field sets that resolve -/

/-- Records are made of the field sets that reach nothing but declared fields. -/
theorem exists_recordOf_iff {type : String} {set : FieldSet} :
    (∃ record, recordOf objects type set = .ok record) ↔ ∀ target,
      Reaches objects type set target →
        ∃ declaration, findField objects target.1 target.2 = .ok declaration := by
  induction set generalizing type with
  | empty => exact iff_of_true ⟨[], rfl⟩ fun target h => absurd h (not_reaches_empty type target)
  | field name nested rest ihNested ihRest =>
    simp only [reaches_field_iff, recordOf_field, bind_eq_ok_iff, pure_eq_ok_iff]
    have hmember : ∀ declaration, (∃ member, memberType objects declaration nested = .ok member) ↔
        ∃ record, recordOf objects declaration.type.name nested = .ok record := by
      intro declaration
      cases nested with
      | empty => exact iff_of_true ⟨_, rfl⟩ ⟨[], rfl⟩
      | field =>
        simp only [memberType, bind_eq_ok_iff, pure_eq_ok_iff]
        constructor
        · rintro ⟨_, record, hrecord, _⟩
          exact ⟨record, hrecord⟩
        · rintro ⟨record, hrecord⟩
          exact ⟨_, record, hrecord, rfl⟩
    constructor
    · rintro ⟨record, declaration, hfound, member, hnested, more, hrest, -⟩ target
        (rfl | ⟨declaration', hfound', h⟩ | h)
      · exact ⟨declaration, hfound⟩
      · obtain rfl := Except.ok.inj (hfound.symm.trans hfound')
        exact ihNested.1 ((hmember declaration).1 ⟨member, hnested⟩) target h
      · exact ihRest.1 ⟨more, hrest⟩ target h
    · intro h
      obtain ⟨declaration, hfound⟩ := h (type, name) (.inl rfl)
      obtain ⟨member, hnested⟩ := (hmember declaration).2 <| ihNested.2 fun target htarget =>
        h target (.inr (.inl ⟨declaration, hfound, htarget⟩))
      obtain ⟨more, hrest⟩ := ihRest.2 fun target htarget => h target (.inr (.inr htarget))
      exact ⟨_, declaration, hfound, member, hnested, more, hrest, rfl⟩

/-- A field of a type stands in a chain of a field set on a type, with a field below it. -/
def PassesThrough (objects : Table String CollectedObject) (type : String) (set : FieldSet)
    (target : String × String) : Prop :=
  ∃ path next, set.Chain (path ++ [target.2, next]) ∧ LeadsTo objects type path target.1

theorem not_passesThrough_empty (type : String) (target : String × String) :
    ¬ PassesThrough objects type .empty target := by
  rintro ⟨path, next, hchain, -⟩
  cases hchain

theorem passesThrough_field_iff {type name : String} {nested rest : FieldSet}
    {target : String × String} :
    PassesThrough objects type (.field name nested rest) target ↔
      (target = (type, name) ∧ nested ≠ .empty) ∨
      (∃ declaration, findField objects type name = .ok declaration ∧
        PassesThrough objects declaration.type.name nested target) ∨
      PassesThrough objects type rest target := by
  obtain ⟨owner, field⟩ := target
  constructor
  · rintro ⟨path, next, hchain, hleads⟩
    generalize hwhole : path ++ [field, next] = whole at hchain
    cases hchain with
    | first =>
      have hlength := congrArg List.length hwhole
      simp at hlength
    | @into _ _ _ inner hinner =>
      cases path with
      | nil =>
        obtain ⟨rfl, hnext⟩ := List.cons_eq_cons.1 hwhole
        cases hleads
        refine .inl ⟨rfl, ?_⟩
        rintro rfl
        cases hinner
      | cons first path =>
        obtain ⟨rfl, rfl⟩ := List.cons_eq_cons.1 hwhole
        cases hleads with
        | step hfound hleads => exact .inr (.inl ⟨_, hfound, path, next, hinner, hleads⟩)
    | past _ _ hrest => exact .inr (.inr ⟨path, next, hwhole ▸ hrest, hleads⟩)
  · rintro (⟨heq, hnested⟩ | ⟨declaration, hfound, path, next, hchain, hleads⟩ |
      ⟨path, next, hchain, hleads⟩)
    · obtain ⟨rfl, rfl⟩ := Prod.mk.inj heq
      cases nested with
      | empty => exact absurd rfl hnested
      | field next below more => exact ⟨[], next, .into _ _ (.first _ _ _), .here _⟩
    · exact ⟨name :: path, next, .into name rest hchain, .step hfound hleads⟩
    · exact ⟨path, next, .past name nested hchain, hleads⟩

/-- Fields are named without an error if those passed through on the way are declared. -/
theorem namedFields_eq_none_iff {type : String} {set : FieldSet} :
    (namedFields objects type set).2 = none ↔ ∀ target, PassesThrough objects type set target →
      ∃ declaration, findField objects target.1 target.2 = .ok declaration := by
  induction set generalizing type with
  | empty =>
    exact iff_of_true rfl fun target h => absurd h (not_passesThrough_empty type target)
  | field name nested rest ihNested ihRest =>
    have hbelow : (namedBelow objects type name nested).2 = none ↔ ∀ target,
        (target = (type, name) ∧ nested ≠ .empty) ∨
          (∃ declaration, findField objects type name = .ok declaration ∧
            PassesThrough objects declaration.type.name nested target) →
        ∃ declaration, findField objects target.1 target.2 = .ok declaration := by
      cases nested with
      | empty =>
        refine iff_of_true rfl fun target h => ?_
        obtain ⟨-, h⟩ | ⟨declaration, -, h⟩ := h
        · exact absurd rfl h
        · exact absurd h (not_passesThrough_empty _ target)
      | field =>
        simp only [namedBelow]
        cases hfound : findField objects type name with
        | error error =>
          refine iff_of_false (by simp) fun h => ?_
          obtain ⟨declaration, hdeclaration⟩ := h (type, name) (.inl ⟨rfl, by simp⟩)
          rw [hfound] at hdeclaration
          cases hdeclaration
        | ok declaration =>
          rw [ihNested]
          constructor
          · rintro h target (⟨rfl, -⟩ | ⟨_, hdeclaration, hpasses⟩)
            · exact ⟨declaration, hfound⟩
            · obtain rfl := Except.ok.inj hdeclaration
              exact h target hpasses
          · exact fun h target hpasses => h target (.inr ⟨declaration, rfl, hpasses⟩)
    simp only [namedFields_field, andThen_eq_none_iff, passesThrough_field_iff, hbelow, ihRest,
      true_and, ← or_assoc, or_imp, forall_and]

/-- The directives on a declaration provide fields without an error if each of their field
sets can be read and named. -/
theorem providedBy_eq_none_iff {declaration : FieldDeclaration} {directives : List Directive} :
    (providedBy objects declaration directives).2 = none ↔ ∀ directive ∈ directives,
      ∃ set, fieldSetOf directive = .ok set ∧
        (namedFields objects declaration.type.name set).2 = none := by
  induction directives with
  | nil => simp [providedBy]
  | cons first rest ih =>
    rw [providedBy, List.forall_mem_cons]
    cases hset : fieldSetOf first with
    | error error => simp
    | ok set => simp [andThen_eq_none_iff, ih]

end FieldSets

/-! ## The field sets of a document -/

/-- The field sets of a document, by the name of their directive and the type on which they
select, and how they are read. A key counts as it is written as well, if it can be read so. -/
inductive FieldSetOn (definitions : List Definition) :
    (directive type : String) → Except SchemaError FieldSet → Prop where
  | key {part : ObjectPart} {directive : Directive} : .object part ∈ definitions →
      directive ∈ directivesNamed part.directives "key" →
      FieldSetOn definitions "key" part.name
        (fieldSetText directive >>= fun text => FieldSet.parse "key" (Text.singleSpaced text))
  | writtenKey {part : ObjectPart} {directive : Directive} {set : FieldSet} :
      .object part ∈ definitions → directive ∈ directivesNamed part.directives "key" →
      fieldSetOf directive = .ok set → FieldSetOn definitions "key" part.name (.ok set)
  | requires {type : String} {object : CollectedObject} {declaration : FieldDeclaration}
      {directive : Directive} :
      (({} : Collected).addAll definitions).objects.get? type = some object →
      declaration ∈ object.fields →
      directive ∈ directivesNamed declaration.directives "requires" →
      FieldSetOn definitions "requires" type (fieldSetOf directive)
  | provides {type : String} {object : CollectedObject} {declaration : FieldDeclaration}
      {directive : Directive} :
      (({} : Collected).addAll definitions).objects.get? type = some object →
      declaration ∈ object.fields →
      directive ∈ directivesNamed declaration.directives "provides" →
      FieldSetOn definitions "provides" declaration.type.name (fieldSetOf directive)

/-- The fields that are looked up for a field set: all that it reaches, or for provided fields
those that it passes through. -/
def LooksUp (objects : Table String CollectedObject) (directive type : String) (set : FieldSet)
    (target : String × String) : Prop :=
  if directive = "provides" then PassesThrough objects type set target
  else Reaches objects type set target

section Document

variable {document : String} {definitions : List Definition}

/-- A document declares all that is looked up for a field set. -/
def Resolves (definitions : List Definition) (directive type : String) (set : FieldSet) : Prop :=
  ∀ target, LooksUp (({} : Collected).addAll definitions).objects directive type set target →
    Declares definitions target.1 target.2

theorem resolves_iff_exists_recordOf {directive type : String} {set : FieldSet}
    (h : directive ≠ "provides") : Resolves definitions directive type set ↔
      ∃ record, recordOf (({} : Collected).addAll definitions).objects type set = .ok record := by
  simp only [Resolves, LooksUp, if_neg h, exists_recordOf_iff, declares_iff]

theorem resolves_provides_iff {type : String} {set : FieldSet} :
    Resolves definitions "provides" type set ↔
      (namedFields (({} : Collected).addAll definitions).objects type set).2 = none := by
  simp only [Resolves, LooksUp, if_pos, namedFields_eq_none_iff, declares_iff]

/-- Where a schema is made all field sets are read and resolved. -/
theorem FieldSetOn.exists_resolves (hparse : Graphql.parseDocument document = .ok definitions)
    {schema : Schema} (hschema : schemaOfDocument document = .ok schema)
    {directive type : String} {read : Except SchemaError FieldSet}
    (h : FieldSetOn definitions directive type read) :
    ∃ set, read = .ok set ∧ Resolves definitions directive type set := by
  obtain ⟨error, herror⟩ | ⟨schema, -, hfault, hbuild⟩ := schemaOfDocument_cases hparse
  · rw [hschema] at herror
    cases herror
  have hkey : ∀ {part : ObjectPart} {directive : Directive}, .object part ∈ definitions →
      directive ∈ directivesNamed part.directives "key" →
      ∃ text set, fieldSetText directive = .ok text ∧
        FieldSet.parse "key" (Text.singleSpaced text) = .ok set ∧
        Resolves definitions "key" part.name set := by
    intro part directive hpart hmem
    obtain ⟨text, object, htext, hobject, hkey⟩ := exists_mem_keys_addAll hfault hpart hmem
    obtain ⟨built, -, hcarries⟩ := exists_carriesRecords_of_build hbuild hobject
    obtain ⟨record, hrecord, -⟩ := hcarries.keys _ hkey
    obtain ⟨set, hset, hrecord⟩ := Collected.keyOf_eq_ok_iff.1 hrecord
    exact ⟨text, set, htext, hset,
      (resolves_iff_exists_recordOf (by decide)).2 ⟨record, hrecord⟩⟩
  cases h with
  | key hpart hmem =>
    obtain ⟨text, set, htext, hset, hresolves⟩ := hkey hpart hmem
    exact ⟨set, bind_eq_ok_iff.2 ⟨text, htext, hset⟩, hresolves⟩
  | writtenKey hpart hmem hwritten =>
    obtain ⟨text, set, htext, hset, hresolves⟩ := hkey hpart hmem
    obtain ⟨written, rfl⟩ :=
      exists_ofString_of_fieldSetText hparse hpart (List.mem_of_mem_filter hmem) htext
    rw [fieldSetOf, htext] at hwritten
    obtain rfl := FieldSet.eq_of_parse_singleSpaced hwritten hset
    exact ⟨_, rfl, hresolves⟩
  | requires hobject hdeclaration hmem =>
    obtain ⟨built, -, hcarries⟩ := exists_carriesRecords_of_build hbuild hobject
    obtain ⟨all, hall, -⟩ := hcarries.requires _ hdeclaration
    obtain ⟨record, hrecord, -⟩ := requiredRecord_of_mem hall hmem
    obtain ⟨set, hset, hrecord⟩ := requiredRecord_singleton_eq_ok_iff.1 hrecord
    exact ⟨set, hset, (resolves_iff_exists_recordOf (by decide)).2 ⟨record, hrecord⟩⟩
  | provides hobject hdeclaration hmem =>
    have hnoted := (Collected.build_eq_ok_iff.1 hbuild).1
    rw [Collected.snd_noteProvided, providedByAll_eq_none_iff] at hnoted
    have hall := hnoted _ (List.mem_flatMap.2 ⟨_, Table.mem_of_get? hobject, hdeclaration⟩)
    obtain ⟨set, hset, hnamed⟩ := providedBy_eq_none_iff.1 hall _ hmem
    exact ⟨set, hset, resolves_provides_iff.2 hnamed⟩

/-- Where all field sets are read and resolved a schema is made. -/
theorem exists_schema_of_resolves (hparse : Graphql.parseDocument document = .ok definitions)
    (h : ∀ directive type read, FieldSetOn definitions directive type read →
      ∃ set, read = .ok set ∧ Resolves definitions directive type set) :
    ∃ schema, schemaOfDocument document = .ok schema := by
  have hfault : definitions.findSome? faultOf = none := by
    rw [List.findSome?_eq_none_iff]
    intro definition hdefinition
    cases definition with
    | object part =>
      refine givenKeys_eq_none_iff.2 fun directive hmem => ?_
      obtain ⟨set, hset, -⟩ := h _ _ _ (.key hdefinition hmem)
      obtain ⟨text, htext, -⟩ := bind_eq_ok_iff.1 hset
      exact ⟨text, htext⟩
    | _ => rfl
  have hget : ∀ {type object}, (type, object) ∈ (({} : Collected).addAll definitions).objects →
      (({} : Collected).addAll definitions).objects.get? type = some object :=
    (Table.get?_eq_some_iff (Collected.isDistinct_addAll definitions).objectNames).2
  have hnoted : (({} : Collected).addAll definitions).noteProvided.2 = none := by
    rw [Collected.snd_noteProvided, providedByAll_eq_none_iff]
    intro declaration hdeclaration
    obtain ⟨⟨type, object⟩, hentry, hmem⟩ := List.mem_flatMap.1 hdeclaration
    refine providedBy_eq_none_iff.2 fun directive hdirective => ?_
    obtain ⟨set, hset, hresolves⟩ := h _ _ _ (.provides (hget hentry) hmem hdirective)
    exact ⟨set, hset, resolves_provides_iff.1 hresolves⟩
  obtain ⟨schema, hbuild⟩ := exists_build hnoted <| by
    rintro ⟨type, object⟩ hentry
    refine exists_objectOf (fun key hkey => ?_) fun declaration hmem directive hdirective => ?_
    · obtain ⟨part, hpart, rfl, directive, hdirective, text, htext, rfl⟩ :=
        exists_directive_of_mem_keys (hget hentry) hkey
      obtain ⟨set, hset, hresolves⟩ := h _ _ _ (.key hpart hdirective)
      obtain ⟨given, hgiven, hparsed⟩ := bind_eq_ok_iff.1 hset
      obtain rfl : text = given := Except.ok.inj (htext.symm.trans hgiven)
      obtain ⟨record, hrecord⟩ := (resolves_iff_exists_recordOf (by decide)).1 hresolves
      exact ⟨record, Collected.keyOf_eq_ok_iff.2 ⟨set, hparsed, hrecord⟩⟩
    · obtain ⟨set, hset, hresolves⟩ := h _ _ _ (.requires (hget hentry) hmem hdirective)
      obtain ⟨record, hrecord⟩ := (resolves_iff_exists_recordOf (by decide)).1 hresolves
      exact ⟨record, requiredRecord_singleton_eq_ok_iff.2 ⟨set, hset, hrecord⟩⟩
  exact ⟨schema, schemaOfDocument_eq_ok hparse hfault hbuild⟩

/-- **What is looked up.** A document that can be read is refused if and only if one of its
field sets cannot be read or has a field looked up that nothing declares. -/
theorem exists_error_iff_of_document (hparse : Graphql.parseDocument document = .ok definitions) :
    (∃ error, schemaOfDocument document = .error (.schemaError error)) ↔
      ∃ directive type read, FieldSetOn definitions directive type read ∧
        ∀ set, read = .ok set → ∃ target,
          LooksUp (({} : Collected).addAll definitions).objects directive type set target ∧
            ¬ Declares definitions target.1 target.2 := by
  constructor
  · rintro ⟨error, herror⟩
    by_contra hnone
    obtain ⟨schema, hschema⟩ := exists_schema_of_resolves hparse fun directive type read hset => by
      by_contra hread
      refine hnone ⟨directive, type, read, hset, fun set hok => ?_⟩
      by_contra hdeclared
      refine hread ⟨set, hok, fun target hlooked => ?_⟩
      by_contra hmissing
      exact hdeclared ⟨target, hlooked, hmissing⟩
    rw [herror] at hschema
    cases hschema
  · rintro ⟨directive, type, read, hset, hmissing⟩
    refine (schemaOfDocument_cases hparse).resolve_right ?_
    rintro ⟨schema, hschema, -⟩
    obtain ⟨set, hread, hresolves⟩ := hset.exists_resolves hparse hschema
    obtain ⟨target, hlooked, hundeclared⟩ := hmissing set hread
    exact hundeclared (hresolves target hlooked)

end Document

/-- A document with a key that selects a field by a wrong name below another one. -/
def strayKey : String :=
  "type User @key(fields: \"org \x7b nme \x7d\") \x7b org: Org \x7d type Org \x7b name: String \x7d"

/-- What that document defines. -/
def strayKeyParts : List ObjectPart := [
  defined "User" [withFields "key" "org \x7b nme \x7d"] [declared "org" (.named "Org") []],
  defined "Org" [] [declared "name" (.named "String") []]]

/-- A field that nothing declares is noticed below another one. -/
theorem exists_error_strayKey :
    Graphql.parseDocument strayKey = .ok (strayKeyParts.map .object) ∧
      ∃ error, schemaOfDocument strayKey = .error (.schemaError error) := by
  have hparse : Graphql.parseDocument strayKey = .ok (strayKeyParts.map .object) := by
    decide +kernel
  refine ⟨hparse, (exists_error_iff_of_document hparse).2 ?_⟩
  have hpart : .object (defined "User" [withFields "key" "org \x7b nme \x7d"]
      [declared "org" (.named "Org") []]) ∈ strayKeyParts.map Definition.object :=
    List.mem_cons_self
  have hkey : withFields "key" "org \x7b nme \x7d" ∈
      directivesNamed [withFields "key" "org \x7b nme \x7d"] "key" := by
    decide
  refine ⟨_, _, _, .key hpart hkey, fun set hread => ?_⟩
  have hset : (fieldSetText (withFields "key" "org \x7b nme \x7d") >>= fun text =>
      FieldSet.parse "key" (Text.singleSpaced text)) =
        .ok (.field "org" (.field "nme" .empty .empty) .empty) := by
    decide +kernel
  obtain rfl := Except.ok.inj (hset.symm.trans hread)
  have hfield : findField (({} : Collected).addAll (strayKeyParts.map .object)).objects "User" "org" =
      .ok (declared "org" (.named "Org") []) := by
    decide +kernel
  refine ⟨("Org", "nme"), ⟨["org"], .into _ _ (.first _ _ _), .step hfield (.here _)⟩, ?_⟩
  simp [Declares, strayKeyParts, defined, declared]

/-- A document with a field that provides one by a name that nothing declares. -/
def strayProvision : String :=
  "type Query \x7b me: User @provides(fields: \"nope\") \x7d type User \x7b id: ID \x7d"

/-- What that document defines. -/
def strayProvisionParts : List ObjectPart := [
  defined "Query" [] [declared "me" (.named "User") [withFields "provides" "nope"]],
  defined "User" [] [declared "id" (.named "ID") []]]

/-- A provided field that nothing declares goes unnoticed. -/
theorem exists_schema_strayProvision :
    Graphql.parseDocument strayProvision = .ok (strayProvisionParts.map .object) ∧
      FieldSetOn (strayProvisionParts.map .object) "provides" "User"
        (.ok (.field "nope" .empty .empty)) ∧
      Reaches (({} : Collected).addAll (strayProvisionParts.map .object)).objects "User"
        (.field "nope" .empty .empty) ("User", "nope") ∧
      "User" ∈ (({} : Collected).addAll (strayProvisionParts.map .object)).objects.keys ∧
      ¬ Declares (strayProvisionParts.map .object) "User" "nope" ∧
      ∃ schema, schemaOfDocument strayProvision = .ok schema := by
  have hset : fieldSetOf (withFields "provides" "nope") = .ok (.field "nope" .empty .empty) := by
    decide +kernel
  have hobject : (({} : Collected).addAll (strayProvisionParts.map .object)).objects.get? "Query" =
      some { fields := [declared "me" (.named "User") [withFields "provides" "nope"]] } := by
    decide +kernel
  have hdirective : withFields "provides" "nope" ∈
      directivesNamed [withFields "provides" "nope"] "provides" := by
    decide
  have hprovides : FieldSetOn (strayProvisionParts.map .object) "provides" "User"
      (fieldSetOf (withFields "provides" "nope")) :=
    .provides hobject List.mem_cons_self hdirective
  have hschema : (schemaOfDocument strayProvision).toOption.isSome := by decide +kernel
  obtain ⟨schema, hschema⟩ := Option.isSome_iff_exists.1 hschema
  refine ⟨by decide +kernel, hset ▸ hprovides, ⟨[], .first _ _ _, .here _⟩, by decide +kernel, ?_,
    schema, toOption_eq_some_iff.1 hschema⟩
  simp [Declares, strayProvisionParts, defined, declared]

end ResolverTypings.Federation
