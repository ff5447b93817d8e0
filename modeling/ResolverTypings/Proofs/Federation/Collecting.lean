import Mathlib.Data.List.Nodup
import ResolverTypings.Federation.Collected
import ResolverTypings.Proofs.Tables

/-!
# What collecting gathers

The definitions of a document are collected into three tables and a list of root types,
each of which is gathered from the parts of its own kind. Whether a definition stops the
collecting shows from the definition alone: what has been collected before it makes no
difference, and what it leaves behind is what it would have added anyway.
-/
namespace ResolverTypings.Federation

open Graphql (Definition Directive EnumPart FieldDeclaration ObjectPart)
open Text (RawText)

/-! ## Adding what is not there -/

section Adding

variable {α μ : Type} [DecidableEq μ] (label : α → μ)

/-- Add an element at the end unless one with its label is there. -/
def addLabelled (xs : List α) (x : α) : List α :=
  if label x ∈ xs.map label then xs else xs ++ [x]

theorem prefix_foldl_addLabelled (xs ys : List α) : xs <+: ys.foldl (addLabelled label) xs := by
  induction ys generalizing xs with
  | nil => exact List.prefix_refl xs
  | cons y ys ih =>
    refine List.IsPrefix.trans ?_ (ih (addLabelled label xs y))
    unfold addLabelled
    split
    · exact List.prefix_refl xs
    · exact List.prefix_append xs [y]

theorem nodup_foldl_addLabelled {xs : List α} (h : (xs.map label).Nodup) (ys : List α) :
    ((ys.foldl (addLabelled label) xs).map label).Nodup := by
  induction ys generalizing xs with
  | nil => exact h
  | cons y ys ih =>
    refine ih ?_
    unfold addLabelled
    split
    · exact h
    · next hnot =>
      rw [List.map_append, List.map_singleton]
      refine List.nodup_append.2 ⟨h, by simp, ?_⟩
      intro a ha b hb
      rw [List.mem_singleton.1 hb]
      exact ne_of_mem_of_not_mem ha hnot

/-- Elements with labels of their own are all added. -/
theorem foldl_addLabelled_of_nodup {xs ys : List α} (h : ((xs ++ ys).map label).Nodup) :
    ys.foldl (addLabelled label) xs = xs ++ ys := by
  induction ys generalizing xs with
  | nil => simp
  | cons y ys ih =>
    have hnot : label y ∉ xs.map label := by
      intro hmem
      rw [List.map_append, List.map_cons] at h
      exact (List.nodup_append.1 h).2.2 _ hmem _ (by simp) rfl
    rw [List.foldl_cons, addLabelled, if_neg hnot, ih (by simpa using h)]
    simp

theorem mem_map_foldl_addLabelled (xs ys : List α) (m : μ) :
    m ∈ (ys.foldl (addLabelled label) xs).map label ↔ m ∈ xs.map label ∨ m ∈ ys.map label := by
  induction ys generalizing xs with
  | nil => simp
  | cons y ys ih =>
    rw [List.foldl_cons, ih, addLabelled]
    split
    · next hmem =>
      rw [List.map_cons, List.mem_cons]
      constructor
      · rintro (h | h)
        · exact .inl h
        · exact .inr (.inr h)
      · rintro (h | rfl | h)
        · exact .inl h
        · exact .inl hmem
        · exact .inr h
    · simp [or_assoc]

/-- Nothing comes in from elsewhere. -/
theorem mem_of_mem_foldl_addLabelled {xs ys : List α} {x : α}
    (h : x ∈ ys.foldl (addLabelled label) xs) : x ∈ xs ∨ x ∈ ys := by
  induction ys generalizing xs with
  | nil => exact .inl h
  | cons y ys ih =>
    rcases ih h with hmem | hmem
    · unfold addLabelled at hmem
      split at hmem
      · exact .inl hmem
      · rcases List.mem_append.1 hmem with hmem | hmem
        · exact .inl hmem
        · exact .inr (List.mem_singleton.1 hmem ▸ List.mem_cons_self)
    · exact .inr (List.mem_cons_of_mem y hmem)

end Adding

theorem addField_eq : addField = addLabelled (·.name) := by
  funext fields field
  simp [addField, addLabelled]

section AddNew

variable {α : Type} [BEq α] [LawfulBEq α]

theorem addNew_eq [DecidableEq α] : (addNew : List α → α → List α) = addLabelled id := by
  funext xs x
  simp [addNew, addLabelled]

theorem mem_foldl_addNew {xs ys : List α} {x : α} :
    x ∈ ys.foldl addNew xs ↔ x ∈ xs ∨ x ∈ ys := by
  classical
  simpa [addNew_eq] using mem_map_foldl_addLabelled id xs ys x

theorem nodup_foldl_addNew {xs : List α} (h : xs.Nodup) (ys : List α) :
    (ys.foldl addNew xs).Nodup := by
  classical
  simpa [addNew_eq] using nodup_foldl_addLabelled id ((List.map_id xs).symm ▸ h) ys

theorem prefix_foldl_addNew (xs ys : List α) : xs <+: ys.foldl addNew xs := by
  classical
  simpa [addNew_eq] using prefix_foldl_addLabelled id xs ys

end AddNew

/-! ## Parts of objects and enums -/

/-- The texts of the keys of a part, up to the first directive without one. -/
def keysOf (part : ObjectPart) : List RawText :=
  (givenKeys (directivesNamed part.directives "key")).1

/-- The description that a part gives to its type, which an extension does not. -/
def givenDescription (isExtension : Bool) (description : Option RawText) : Option RawText :=
  if isExtension then none else description

/-- The descriptions that parts give to their object. -/
def objectDescriptions (parts : List ObjectPart) : List RawText :=
  parts.filterMap fun part => givenDescription part.isExtension part.description

/-- The descriptions that parts give to their enum. -/
def enumDescriptions (parts : List EnumPart) : List RawText :=
  parts.filterMap fun part => givenDescription part.isExtension part.description

/-- If each part puts the description it gives in the place of the earlier one, the last
one given counts. -/
theorem foldl_describe {σ π : Type} {merge : σ → π → σ} (describe : σ → Option RawText)
    (given : π → Option RawText)
    (step : ∀ s part, describe (merge s part) = (given part).or (describe s)) (s : σ)
    (parts : List π) : describe (parts.foldl merge s) =
      (parts.filterMap given).getLast?.or (describe s) := by
  induction parts generalizing s with
  | nil => rfl
  | cons part rest ih =>
    rw [List.foldl_cons, ih, step]
    cases hgiven : given part with
    | none => simp [hgiven]
    | some text =>
      rw [List.filterMap_cons_some hgiven, List.getLast?_cons]
      cases (rest.filterMap given).getLast? <;> rfl

namespace CollectedObject

/-- An object with a part merged into it. -/
def withPart (object : CollectedObject) (part : ObjectPart) : CollectedObject :=
  (object.merge part).1

theorem fields_withPart (object : CollectedObject) (part : ObjectPart) :
    (object.withPart part).fields = part.fields.foldl addField object.fields := rfl

theorem keys_withPart (object : CollectedObject) (part : ObjectPart) :
    (object.withPart part).keys = (keysOf part).foldl addNew object.keys := rfl

theorem fields_foldl_withPart (object : CollectedObject) (parts : List ObjectPart) :
    (parts.foldl withPart object).fields =
      (parts.flatMap (·.fields)).foldl addField object.fields := by
  induction parts generalizing object with
  | nil => rfl
  | cons part rest ih =>
    rw [List.foldl_cons, ih, List.flatMap_cons, List.foldl_append, fields_withPart]

theorem keys_foldl_withPart (object : CollectedObject) (parts : List ObjectPart) :
    (parts.foldl withPart object).keys = (parts.flatMap keysOf).foldl addNew object.keys := by
  induction parts generalizing object with
  | nil => rfl
  | cons part rest ih =>
    rw [List.foldl_cons, ih, List.flatMap_cons, List.foldl_append, keys_withPart]

theorem description_foldl_withPart (object : CollectedObject) (parts : List ObjectPart) :
    (parts.foldl withPart object).description =
      (objectDescriptions parts).getLast?.or object.description := by
  refine foldl_describe (·.description) _ (fun object part => ?_) object parts
  cases h : part.isExtension <;> simp [withPart, merge, givenDescription, h]

end CollectedObject

namespace CollectedEnum

/-- The value of an enum before its first part. -/
def empty : CollectedEnum := ⟨[], none⟩

/-- The first part of an enum is merged like any other. -/
theorem first_eq_merge (part : EnumPart) : first part = empty.merge part := by
  simp [first, merge, empty]

/-- Values that are all distinct are all added. -/
theorem values_foldl_merge {enum : CollectedEnum} {parts : List EnumPart}
    (h : (enum.values ++ parts.flatMap (·.values)).Nodup) :
    (parts.foldl merge enum).values = enum.values ++ parts.flatMap (·.values) := by
  induction parts generalizing enum with
  | nil => simp
  | cons part rest ih =>
    have hnew : ∀ value ∈ part.values, value ∉ enum.values := by
      intro value hvalue hmem
      exact (List.nodup_append.1 h).2.2 value hmem value (by simp [hvalue]) rfl
    have hvalues : (enum.merge part).values = enum.values ++ part.values := by
      have hfilter : part.values.filter (fun value => !enum.values.contains value) = part.values :=
        List.filter_eq_self.2 fun value hvalue => by simpa using hnew value hvalue
      rw [merge, hfilter]
    rw [List.foldl_cons, ih (by rw [hvalues]; simpa using h), hvalues]
    simp

theorem description_foldl_merge (enum : CollectedEnum) (parts : List EnumPart) :
    (parts.foldl merge enum).description =
      (enumDescriptions parts).getLast?.or enum.description := by
  refine foldl_describe (·.description) _ (fun enum part => ?_) enum parts
  cases h : part.isExtension <;> simp [merge, givenDescription, h]

end CollectedEnum

/-! ## Definitions -/

/-- The parts of object types among definitions. -/
def objectParts (definitions : List Definition) : List ObjectPart :=
  definitions.filterMap fun
    | .object part => some part
    | _ => none

/-- The parts of enum types among definitions. -/
def enumParts (definitions : List Definition) : List EnumPart :=
  definitions.filterMap fun
    | .enum part => some part
    | _ => none

/-- The scalars among definitions, with their descriptions. -/
def scalarsOf (definitions : List Definition) : List (String × Option RawText) :=
  definitions.filterMap fun
    | .scalar name description => some (name, description)
    | _ => none

/-- The root types that definitions name. -/
def rootTypesOf (definitions : List Definition) : List String :=
  definitions.flatMap fun
    | .schema rootTypes => rootTypes
    | _ => []

/-- What stops the collecting at a definition. -/
def faultOf : Definition → Option SchemaError
  | .object part => (givenKeys (directivesNamed part.directives "key")).2
  | _ => none

/-- The definitions up to the first one with a fault, and that one with them. -/
def untilFault : List Definition → List Definition
  | [] => []
  | definition :: rest =>
    match faultOf definition with
    | none => definition :: untilFault rest
    | some _ => [definition]

theorem untilFault_isPrefix (definitions : List Definition) :
    untilFault definitions <+: definitions := by
  induction definitions with
  | nil => exact List.prefix_refl _
  | cons definition rest ih =>
    rw [untilFault]
    split
    · exact (List.prefix_cons_inj _).2 ih
    · exact List.prefix_append [definition] rest

namespace Collected

/-- Collect definitions without a stop. -/
def addAll (collected : Collected) (definitions : List Definition) : Collected :=
  definitions.foldl (fun collected definition => (collected.addDefinition definition).1) collected

theorem snd_addDefinition (collected : Collected) (definition : Definition) :
    (collected.addDefinition definition).2 = faultOf definition := by
  cases definition <;> rfl

/-- A definition is collected, and those behind it unless it is at fault. -/
theorem addDefinitions_cons (collected : Collected) (definition : Definition)
    (rest : List Definition) :
    collected.addDefinitions (definition :: rest) =
      match faultOf definition with
      | none => (collected.addDefinition definition).1.addDefinitions rest
      | some error => ((collected.addDefinition definition).1, some error) := by
  rw [addDefinitions, ← snd_addDefinition collected definition]
  rcases collected.addDefinition definition with ⟨next, _ | error⟩ <;> rfl

/-- Definitions are collected without a stop, or the first fault among them is given. -/
theorem addDefinitions_eq (collected : Collected) (definitions : List Definition) :
    (collected.addDefinitions definitions).2 = definitions.findSome? faultOf ∧
      (definitions.findSome? faultOf = none →
        (collected.addDefinitions definitions).1 = collected.addAll definitions) := by
  induction definitions generalizing collected with
  | nil => exact ⟨rfl, fun _ => rfl⟩
  | cons definition rest ih =>
    rw [addDefinitions_cons]
    cases hfault : faultOf definition with
    | some error => simp [List.findSome?, hfault]
    | none =>
      rw [List.findSome?_cons_of_isNone (by simp [hfault])]
      exact ih _

theorem addAll_append (collected : Collected) (definitions more : List Definition) :
    collected.addAll (definitions ++ more) = (collected.addAll definitions).addAll more := by
  simp [addAll]

/-- The definitions up to the first one with a fault are collected, and that one with them. -/
theorem fst_addDefinitions (collected : Collected) (definitions : List Definition) :
    (collected.addDefinitions definitions).1 = collected.addAll (untilFault definitions) := by
  induction definitions generalizing collected with
  | nil => rfl
  | cons definition rest ih =>
    rw [addDefinitions_cons, untilFault]
    cases hfault : faultOf definition with
    | none => exact ih _
    | some error => rfl

/-! ### Tables and roots -/

/-- Take the parts of objects into a table. -/
def gatherObjects (objects : Table String CollectedObject) (parts : List ObjectPart) :
    Table String CollectedObject :=
  Table.gather (·.name) {} CollectedObject.withPart objects parts

/-- Take the parts of enums into a table. -/
def gatherEnums (enums : Table String CollectedEnum) (parts : List EnumPart) :
    Table String CollectedEnum :=
  Table.gather (·.name) CollectedEnum.empty CollectedEnum.merge enums parts

/-- Take scalars into a table. -/
def gatherScalars (scalars : Table String (Option RawText))
    (parts : List (String × Option RawText)) : Table String (Option RawText) :=
  Table.gather (·.1) none (fun _ part => part.2) scalars parts

/-- What one definition adds. -/
theorem fst_addDefinition (collected : Collected) (definition : Definition) :
    (collected.addDefinition definition).1 =
      { rootTypes := (rootTypesOf [definition]).foldl addNew collected.rootTypes
        objects := gatherObjects collected.objects (objectParts [definition])
        enums := gatherEnums collected.enums (enumParts [definition])
        scalars := gatherScalars collected.scalars (scalarsOf [definition])
        provided := collected.provided } := by
  cases definition with
  | enum part =>
    have henum : (collected.addDefinition (.enum part)).1.enums =
        gatherEnums collected.enums [part] := by
      cases hfound : collected.enums.get? part.name <;>
        simp [addDefinition, hfound, gatherEnums, Table.gather, CollectedEnum.first_eq_merge]
    exact congrArg (fun enums => { collected with enums }) henum
  | operation selections => rfl
  | schema rootTypes =>
    have hroots : rootTypesOf [.schema rootTypes] = rootTypes := by simp [rootTypesOf]
    rw [hroots]
    rfl
  | schemaExtension rootTypes => rfl
  | scalar name description => rfl
  | object part => rfl
  | other => rfl

/-- What definitions add without a stop. -/
theorem addAll_eq (collected : Collected) (definitions : List Definition) :
    collected.addAll definitions =
      { rootTypes := (rootTypesOf definitions).foldl addNew collected.rootTypes
        objects := gatherObjects collected.objects (objectParts definitions)
        enums := gatherEnums collected.enums (enumParts definitions)
        scalars := gatherScalars collected.scalars (scalarsOf definitions)
        provided := collected.provided } := by
  induction definitions generalizing collected with
  | nil => rfl
  | cons definition rest ih =>
    have hsplit : definition :: rest = [definition] ++ rest := rfl
    rw [addAll, List.foldl_cons, ← addAll, ih, fst_addDefinition, hsplit]
    simp only [rootTypesOf, objectParts, enumParts, scalarsOf, gatherObjects, gatherEnums,
      gatherScalars, Table.gather, List.flatMap_append, List.filterMap_append, List.foldl_append]

/-- Every object type of a document is collected. -/
theorem mem_keys_addAll {definitions : List Definition} {part : ObjectPart}
    (h : .object part ∈ definitions) (collected : Collected) :
    part.name ∈ (collected.addAll definitions).objects.keys := by
  have hpart : part ∈ objectParts definitions := List.mem_filterMap.2 ⟨_, h, rfl⟩
  rw [addAll_eq, ← Table.isSome_get?_iff]
  refine (Table.isSome_get?_gather _ _ _ _ _ _).2 (.inr fun hnil => ?_)
  rw [Table.partsOf_eq_nil_iff] at hnil
  exact hnil (List.mem_map_of_mem hpart)

end Collected
end ResolverTypings.Federation
