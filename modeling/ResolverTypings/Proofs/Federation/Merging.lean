import ResolverTypings.Proofs.Federation.Directives
import ResolverTypings.Proofs.Federation.OrderIndependence
import ResolverTypings.Proofs.Federation.Rereading

/-!
# What definitions and extensions merge to

The object that the definitions and extensions of one name make together can be told from
them without merging one after the other: of the fields that they declare, in reading order,
the first one of each name stays, and of their keys each text once; the last description
counts. Objects and scalars stand in the order in which their names come up. Documents that
are read without an error are merged to just that, whatever stands between the parts of a
name.
-/
namespace ResolverTypings

/-! ## First occurrences -/

namespace Federation

/-- The first element with each label, in order. -/
def firsts {α μ : Type} [DecidableEq μ] (label : α → μ) (xs : List α) : List α :=
  xs.eraseDupsBy fun x y => label x == label y

section Firsts

variable {α μ : Type} [DecidableEq μ] (label : α → μ)

theorem firsts_cons (x : α) (xs : List α) :
    firsts label (x :: xs) = x :: firsts label (xs.filter fun y => label y ≠ label x) := by
  simp [firsts, List.eraseDupsBy_cons]

/-- What is added to a list are the first elements with labels that it does not have. -/
theorem foldl_addLabelled_eq (xs ys : List α) :
    ys.foldl (addLabelled label) xs =
      xs ++ firsts label (ys.filter fun y => label y ∉ xs.map label) := by
  induction ys generalizing xs with
  | nil => simp [firsts]
  | cons y ys ih =>
    rw [List.foldl_cons, ih]
    by_cases hy : label y ∈ xs.map label
    · rw [addLabelled, if_pos hy, List.filter_cons_of_neg (by simpa using hy)]
    · -- The label of `y` is taken from here on, so it leaves the rest of the list.
      have hrest : (ys.filter fun z => label z ∉ (xs ++ [y]).map label) =
          (ys.filter fun z => label z ∉ xs.map label).filter fun z => label z ≠ label y := by
        rw [List.filter_filter]
        refine List.filter_congr fun z _ => ?_
        rw [Bool.eq_iff_iff]
        simp only [List.map_append, List.map_singleton, List.mem_append, List.mem_singleton,
          not_or, Bool.and_eq_true, decide_eq_true_eq, ne_eq, and_comm]
      rw [addLabelled, if_neg hy, List.filter_cons_of_pos (by simpa using hy), firsts_cons,
        hrest, List.append_assoc, List.singleton_append]

theorem foldl_addLabelled_nil (ys : List α) : ys.foldl (addLabelled label) [] = firsts label ys := by
  simp [foldl_addLabelled_eq]

end Firsts

theorem foldl_addNew_nil {α : Type} [BEq α] [LawfulBEq α] (ys : List α) :
    ys.foldl addNew [] = ys.eraseDups := by
  classical
  have hlabel : (fun x y : α => decide (x = y)) = fun x y => x == y := by
    funext x y
    rw [Bool.eq_iff_iff, decide_eq_true_iff, beq_iff_eq]
  rw [addNew_eq, foldl_addLabelled_nil, List.eraseDups, ← hlabel]
  rfl

theorem nodup_eraseDups {α : Type} [BEq α] [LawfulBEq α] (xs : List α) : xs.eraseDups.Nodup := by
  rw [← foldl_addNew_nil]
  exact nodup_foldl_addNew List.nodup_nil xs

end Federation

/-! ## Tables gathered from nothing -/

namespace Table

variable {κ α π : Type} [DecidableEq κ]

theorem keys_gather (key : π → κ) (empty : α) (merge : α → π → α) (t : Table κ α)
    (parts : List π) :
    (gather key empty merge t parts).keys = (parts.map key).foldl Federation.addNew t.keys := by
  induction parts generalizing t with
  | nil => rfl
  | cons part rest ih =>
    rw [gather, List.foldl_cons, ← gather, ih, keys_put, List.map_cons, List.foldl_cons,
      Federation.addNew]
    simp only [List.contains_iff_mem]

/-- A table is its keys in order, each with what stands under it. -/
theorem eq_map_keys {t : Table κ α} (ht : t.keys.Nodup) (empty : α) :
    t = t.keys.map fun k => (k, (t.get? k).getD empty) := by
  have hentry : ∀ entry ∈ t, (entry.1, (t.get? entry.1).getD empty) = entry := by
    intro entry hentry
    rw [(get?_eq_some_iff ht).2 hentry, Option.getD_some]
  rw [keys, List.map_map]
  exact (List.map_id t).symm.trans (List.map_congr_left fun entry h => (hentry entry h).symm)

/-- A table that is gathered from nothing has the keys of its parts in the order of their first
mention, and under each of them what the parts of this key merge to. -/
theorem gather_nil (key : π → κ) (empty : α) (merge : α → π → α) (parts : List π) :
    gather key empty merge [] parts = (parts.map key).eraseDups.map fun k =>
      (k, (partsOf key k parts).foldl merge empty) := by
  have hnodup : (gather key empty merge [] parts).keys.Nodup :=
    nodup_keys_gather key empty merge (t := []) List.nodup_nil parts
  have hkeys : (gather key empty merge [] parts).keys = (parts.map key).eraseDups := by
    rw [keys_gather]
    exact Federation.foldl_addNew_nil _
  rw [eq_map_keys hnodup empty, hkeys]
  refine List.map_congr_left fun k _ => ?_
  rw [getD_get?_gather]
  rfl

end Table

namespace Federation

open Graphql (Definition Directive FieldDeclaration ObjectPart)
open Text (RawText)

/-! ## Merged definitions -/

/-- The texts of all keys of a part, with single spaces. -/
def keyTexts (part : ObjectPart) : List RawText :=
  (directivesNamed part.directives "key").filterMap fun directive =>
    (fieldSetText directive).toOption.map Text.singleSpaced

/-- The definitions and extensions of an object. -/
def partsNamed (definitions : List Definition) (name : String) : List ObjectPart :=
  (objectParts definitions).filter fun part => part.name = name

/-- What the definitions and extensions of one object declare together. -/
def mergedObject (parts : List ObjectPart) : CollectedObject where
  description := (objectDescriptions parts).getLast?
  fields := firsts (·.name) (parts.flatMap (·.fields))
  keys := (parts.flatMap keyTexts).eraseDups

/-- The names of objects in the order in which definitions and extensions mention them. -/
def objectNames (definitions : List Definition) : List String :=
  ((objectParts definitions).map (·.name)).eraseDups

/-- The objects that definitions and extensions declare. -/
def mergedObjects (definitions : List Definition) : Table String CollectedObject :=
  (objectNames definitions).map fun name => (name, mergedObject (partsNamed definitions name))

/-- The description in the last definition of a scalar. -/
def scalarDescription (definitions : List Definition) (name : String) : Option RawText :=
  ((scalarsOf definitions).filter fun scalar => scalar.1 = name).getLast?.bind (·.2)

/-- The scalars that definitions declare, in the order in which they come up. -/
def mergedScalars (definitions : List Definition) : Table String (Option RawText) :=
  ((scalarsOf definitions).map (·.1)).eraseDups.map fun name =>
    (name, scalarDescription definitions name)

/-- Whether a part carries a key. -/
def CarriesKey (part : ObjectPart) : Prop :=
  ∃ directive ∈ part.directives, directive.name = "key"

/-! ## Collecting is merging -/

theorem givenKeys_eq_filterMap {directives : List Directive}
    (h : (givenKeys directives).2 = none) :
    (givenKeys directives).1 = directives.filterMap fun directive =>
      (fieldSetText directive).toOption.map Text.singleSpaced := by
  induction directives with
  | nil => rfl
  | cons first rest ih =>
    rw [givenKeys] at h ⊢
    cases htext : fieldSetText first with
    | error error => simp [htext] at h
    | ok text =>
      simp only [htext] at h ⊢
      rw [ih h, List.filterMap_cons_some (by rw [htext]; rfl)]

theorem foldl_withPart_empty {parts : List ObjectPart}
    (hkeys : ∀ part ∈ parts, faultOf (.object part) = none) :
    parts.foldl CollectedObject.withPart {} = mergedObject parts := by
  have htexts : parts.flatMap keysOf = parts.flatMap keyTexts :=
    List.flatMap_congr fun part hpart => givenKeys_eq_filterMap (hkeys part hpart)
  have hdescription := CollectedObject.description_foldl_withPart {} parts
  have hfields := CollectedObject.fields_foldl_withPart {} parts
  have hkeys' := CollectedObject.keys_foldl_withPart {} parts
  rw [addField_eq, foldl_addLabelled_nil] at hfields
  rw [foldl_addNew_nil, htexts] at hkeys'
  rw [Option.or_none] at hdescription
  cases hmerged : parts.foldl CollectedObject.withPart {} with
  | mk description fields keys =>
    rw [hmerged] at hdescription hfields hkeys'
    simp only at hdescription hfields hkeys'
    rw [mergedObject, hdescription, hfields, hkeys']

theorem foldl_scalar (parts : List (String × Option RawText)) (before : Option RawText) :
    parts.foldl (fun _ part => part.2) before = (parts.getLast?.map (·.2)).getD before := by
  induction parts generalizing before with
  | nil => rfl
  | cons part rest ih =>
    rw [List.foldl_cons, ih, List.getLast?_cons]
    cases rest.getLast? <;> rfl

namespace Collected

variable {definitions : List Definition}

/-- Definitions without a fault are collected to the objects that they declare. -/
theorem objects_addAll (h : definitions.findSome? faultOf = none) :
    (({} : Collected).addAll definitions).objects = mergedObjects definitions := by
  rw [addAll_eq]
  refine (Table.gather_nil _ _ _ _).trans (List.map_congr_left fun name _ => ?_)
  have hparts : ∀ part ∈ partsNamed definitions name, faultOf (.object part) = none := by
    intro part hpart
    obtain ⟨hmem, -⟩ := mem_partsOf_iff.1 hpart
    exact List.findSome?_eq_none_iff.1 h _ hmem
  rw [← foldl_withPart_empty hparts]
  rfl

theorem scalars_addAll (definitions : List Definition) :
    (({} : Collected).addAll definitions).scalars = mergedScalars definitions := by
  rw [addAll_eq]
  have hgathered := Table.gather_nil (·.1) none (fun (_ : Option RawText) part => part.2)
    (scalarsOf definitions)
  refine hgathered.trans (List.map_congr_left fun name _ => ?_)
  rw [foldl_scalar, scalarDescription, Table.partsOf]
  cases ((scalarsOf definitions).filter fun scalar => scalar.1 = name).getLast? <;> rfl

theorem mergedObject_keys_eq_nil_iff (h : definitions.findSome? faultOf = none) (name : String) :
    (mergedObject (partsNamed definitions name)).keys = [] ↔
      ∀ part ∈ partsNamed definitions name, ¬ CarriesKey part := by
  have hnil : ∀ texts : List RawText, texts.eraseDups = [] ↔ texts = [] := by
    intro texts
    cases texts <;> simp [List.eraseDups_cons]
  rw [mergedObject, hnil, List.flatMap_eq_nil_iff]
  refine forall₂_congr fun part hpart => ?_
  have hfault : (givenKeys (directivesNamed part.directives "key")).2 = none :=
    List.findSome?_eq_none_iff.1 h _ (mem_partsOf_iff.1 hpart).1
  rw [keyTexts, List.filterMap_eq_nil_iff]
  constructor
  · rintro hnone ⟨directive, hmem, hkey⟩
    have hnamed : directive ∈ directivesNamed part.directives "key" := by
      simpa [directivesNamed, hkey] using hmem
    obtain ⟨text, htext⟩ := givenKeys_eq_none_iff.1 hfault directive hnamed
    have hgiven := hnone directive hnamed
    rw [htext] at hgiven
    cases hgiven
  · intro hnot directive hmem
    simp only [directivesNamed, List.mem_filter, beq_iff_eq] at hmem
    exact absurd ⟨directive, hmem⟩ hnot

end Collected

/-! ## Documents -/

/-- Documents that are read without an error follow the grammar and have no fault, and then
all of their definitions are collected. -/
theorem SchemaReader.collected_readDocuments {documents : List (String × RawText)}
    {reader next : SchemaReader} (h : reader.readDocuments documents = (next, none)) :
    ∃ definitions, definitionsOf documents = .ok definitions ∧
      definitions.findSome? faultOf = none ∧
      next.collected = reader.collected.addAll definitions := by
  induction documents generalizing reader with
  | nil =>
    obtain rfl : reader = next := congrArg Prod.fst h
    exact ⟨[], rfl, rfl, rfl⟩
  | cons document rest ih =>
    obtain ⟨name, text⟩ := document
    rw [readDocuments, readDocument] at h
    cases hadd : reader.collected.addDocument text with
    | mk collected error =>
      cases error with
      | some error => simp [hadd] at h
      | none =>
        obtain ⟨first, hfirst, hfaultless, rfl⟩ := Collected.addDocument_eq_none_iff.1 hadd
        simp only [hadd, Option.map_none] at h
        obtain ⟨more, hmore, hfaultless', hnext⟩ := ih h
        refine ⟨first ++ more, ?_, ?_, ?_⟩
        · simp only [definitionsOf, bind_eq_ok_iff, pure_eq_ok_iff, List.mapM_cons] at hmore ⊢
          obtain ⟨parsed, hparsed, rfl⟩ := hmore
          exact ⟨first :: parsed, ⟨first, hfirst, parsed, hparsed, rfl⟩, rfl⟩
        · rw [List.findSome?_append, hfaultless, hfaultless']
          rfl
        · rw [hnext, Collected.addAll_append]

/-- An object of a schema that is what the definitions and extensions of a type merge to. -/
structure IsMerged (definitions : List Definition) (type : String) (object : ObjectType) :
    Prop where
  name : object.name = type
  fields : object.fields =
    (firsts (·.name) ((partsNamed definitions type).flatMap (·.fields))).map fieldOf
  description : object.description =
    (objectDescriptions (partsNamed definitions type)).getLast?
  isEntity : object.isEntity ↔ ∃ part ∈ partsNamed definitions type, CarriesKey part

theorem isMerged_of_objectOf {definitions : List Definition} {collected : Collected}
    {name : String} (h : definitions.findSome? faultOf = none) {object : ObjectType}
    (hbuilt : collected.objectOf name (mergedObject (partsNamed definitions name)) = .ok object) :
    IsMerged definitions name object := by
  obtain ⟨resolvers, keys, -, hkeys, rfl⟩ := Collected.objectOf_eq_ok_iff.1 hbuilt
  have hnil : keys = [] ↔ (mergedObject (partsNamed definitions name)).keys = [] := by
    rw [← List.length_eq_zero_iff, ← (mapM_eq_ok_iff.1 hkeys).length_eq, List.length_eq_zero_iff]
  refine ⟨rfl, rfl, rfl, ?_⟩
  rw [Collected.mergedObject_keys_eq_nil_iff h] at hnil
  have hentity : (collected.objectWith name (mergedObject (partsNamed definitions name))
      resolvers keys).isEntity ↔ keys ≠ [] := by
    cases keys <;> simp [Collected.objectWith, ObjectType.isEntity]
  rw [hentity, ne_eq, hnil]
  simp

/-- **Definitions and extensions merge to what they declare together.** Where documents are
read without an error, the objects and scalars that have been collected are those that all
definitions declare together, and a schema that is built has these objects, an entity for each
one with a key. After any run, failing documents included, the fields of a collected object
have distinct names, and its keys are distinct. -/
theorem collects_merged :
    (∀ documents reader, ({} : SchemaReader).readDocuments documents = (reader, none) →
      ∃ definitions, definitionsOf documents = .ok definitions ∧
        reader.collected.objects = mergedObjects definitions ∧
        reader.collected.scalars = mergedScalars definitions ∧
        ∀ schema, reader.build.2 = .ok schema →
          List.Forall₂ (IsMerged definitions) (objectNames definitions) schema.objects ∧
          schema.scalars = (mergedScalars definitions).map Collected.scalarOf) ∧
    ∀ steps, ∀ entry ∈ (SchemaReader.run {} steps).collected.objects, entry.2.IsDistinct := by
  refine ⟨fun documents reader hread => ?_,
    fun steps => (SchemaReader.isDistinct_run steps).objects⟩
  obtain ⟨definitions, hdefinitions, hfaultless, hcollected⟩ :=
    SchemaReader.collected_readDocuments hread
  have hobjects : reader.collected.objects = mergedObjects definitions := by
    rw [hcollected]
    exact Collected.objects_addAll hfaultless
  have hscalars : reader.collected.scalars = mergedScalars definitions := by
    rw [hcollected]
    exact Collected.scalars_addAll definitions
  refine ⟨definitions, hdefinitions, hobjects, hscalars, fun schema hschema => ?_⟩
  have hbuilt := SchemaReader.build_eq_ok_iff.1 hschema
  constructor
  · have hall := Collected.forall₂_of_build hbuilt
    rw [hobjects, mergedObjects, List.forall₂_map_left_iff] at hall
    exact hall.imp fun name object hobject => isMerged_of_objectOf hfaultless hobject
  · obtain ⟨objects, -, rfl⟩ := Collected.schema_eq_ok_iff.1 (Collected.build_eq_ok_iff.1 hbuilt).2
    rw [← hscalars]
    rfl

/-- An extension in front of two definitions of its type. -/
def scatteredUser : List (String × RawText) := [
  ("users", "extend type User @key(fields: \"id\") \x7b id: ID \x7d
    \"old\" type User \x7b id: String name: String name: Int \x7d"),
  ("pets", "scalar Date
    \"new\" type User @key(fields: \" id\") @key(fields: \"name\") \x7b pet: Pet \x7d
    type Pet \x7b age: Int \x7d
    \"a day\" scalar Date")]

/-- The objects that its documents declare. -/
def gatheredUser : Table String CollectedObject := [
  ("User",
    { description := some "new"
      fields := [⟨"id", .named "ID", [], [], none⟩, ⟨"name", .named "String", [], [], none⟩,
        ⟨"pet", .named "Pet", [], [], none⟩]
      keys := ["id", "name"] }),
  ("Pet", { fields := [⟨"age", .named "Int", [], [], none⟩] })]

theorem collects_merged_scatteredUser : ∃ reader schema,
    ({} : SchemaReader).readDocuments scatteredUser = (reader, none) ∧
      reader.build.2 = .ok schema ∧ reader.collected.objects = gatheredUser ∧
      reader.collected.scalars = [("Date", some (RawText.ofString "a day"))] ∧
      schema.objects.map (fun object => (object.name, object.isEntity)) =
        [("User", true), ("Pet", false)] := by
  have hrun : (({} : SchemaReader).readDocuments scatteredUser).2 = none ∧
      (({} : SchemaReader).readDocuments scatteredUser).1.build.2.map
        (·.objects.map fun object => (object.name, object.isEntity)) =
          .ok [("User", true), ("Pet", false)] := by
    decide +kernel
  obtain ⟨herror, hbuilt⟩ := hrun
  obtain ⟨reader, hread⟩ :
      ∃ reader, ({} : SchemaReader).readDocuments scatteredUser = (reader, none) :=
    ⟨_, (Prod.eta _).symm.trans (congrArg (Prod.mk _) herror)⟩
  have hmerge : (definitionsOf scatteredUser).map (fun definitions =>
      (mergedObjects definitions, mergedScalars definitions)) =
        .ok (gatheredUser, [("Date", some "a day")]) := by
    decide +kernel
  rw [hread] at hbuilt
  obtain ⟨schema, hschema, hentities⟩ := map_eq_ok_iff.1 hbuilt
  obtain ⟨definitions, hdefinitions, hmerged, hmerged', -⟩ := collects_merged.1 _ _ hread
  rw [hdefinitions] at hmerge
  obtain ⟨hobjects, hscalars⟩ := Prod.mk.inj (Except.ok.inj hmerge)
  exact ⟨reader, schema, hread, hschema, hmerged.trans hobjects, hmerged'.trans hscalars,
    hentities⟩

end Federation
end ResolverTypings
