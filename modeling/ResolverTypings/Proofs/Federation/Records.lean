import ResolverTypings.Proofs.Federation.Building
import ResolverTypings.Proofs.Federation.Runs

/-!
# Records and names

What the grammar of documents gives to a schema. A selection set selects something, so the
field set of a directive and every set nested in it name a field, and no record that is made
from one is empty. Names are not empty either: neither those of collected objects nor those
that the types of their fields lead to.
-/
namespace ResolverTypings

/-! ## Records with members -/

namespace FieldType

mutual
/-- Whether every record in a type has a member. -/
def isFilled : FieldType → Bool
  | .named _ => true
  | .nonNull base => base.isFilled
  | .list base => base.isFilled
  | .record members => !members.isEmpty && areFilled members

/-- Whether every record in the types of members has a member. -/
def areFilled : List (String × FieldType) → Bool
  | [] => true
  | (_, type) :: rest => type.isFilled && areFilled rest
end

end FieldType

/-- Whether a record has a member, and so do all records in it. -/
def Record.isFilled (record : Record) : Bool :=
  FieldType.isFilled (.record record)

theorem Record.ne_nil_of_isFilled {record : Record} (h : record.isFilled) : record ≠ [] := by
  rintro rfl
  simp [Record.isFilled, FieldType.isFilled] at h

namespace Federation

open Graphql (Definition Directive FieldDeclaration ObjectPart TypeRef isName)
open Text (RawText)

/-! ## Field sets of directives -/

theorem FieldSet.ofSelections_ne_empty {selections : List Graphql.Selection} {set : FieldSet}
    (hselections : selections ≠ []) (h : ofSelections selections = .ok set) : set ≠ .empty := by
  cases selections with
  | nil => exact absurd rfl hselections
  | cons first rest =>
    simp only [ofSelections, bind_eq_ok_iff, pure_eq_ok_iff] at h
    obtain ⟨⟨name, nested⟩, -, more, -, rfl⟩ := h
    simp

/-- The field set of a directive selects something. -/
theorem FieldSet.ne_empty_of_parse {directive : String} {text : RawText} {set : FieldSet}
    (h : parse directive text = .ok set) : set ≠ .empty := by
  unfold parse at h
  cases hparsed : Graphql.parseDocument (document text) with
  | error error => simp [hparsed] at h
  | ok definitions =>
    -- The braces that are put around the text make it a query.
    obtain ⟨selections, more, rfl, hselections⟩ :=
      Graphql.exists_operation_of_parseDocument hparsed
    simp only [hparsed, firstSelections] at h
    cases hset : ofSelections selections with
    | error kind => simp [hset, Except.mapError] at h
    | ok found =>
      obtain rfl : found = set := by simpa [hset, Except.mapError] using h
      exact ofSelections_ne_empty hselections hset

theorem ne_empty_of_fieldSetOf {directive : Directive} {set : FieldSet}
    (h : fieldSetOf directive = .ok set) : set ≠ .empty := by
  simp only [fieldSetOf, bind_eq_ok_iff] at h
  obtain ⟨text, -, hset⟩ := h
  exact FieldSet.ne_empty_of_parse hset

/-! ## Records of field sets -/

variable {objects : Table String CollectedObject}

theorem isFilled_wrap (leaf : FieldType) (type : TypeRef) :
    (wrap leaf type).isFilled = leaf.isFilled := by
  induction type with
  | named name => rfl
  | list base ih => simpa [wrap, FieldType.isFilled] using ih
  | nonNull base ih => simpa [wrap, FieldType.isFilled] using ih

/-- The record of a field set has members at any depth, if the set is not empty. -/
theorem isFilled_recordOf {type : String} {set : FieldSet} {record : Record}
    (h : recordOf objects type set = .ok record) :
    FieldType.areFilled record ∧ (set ≠ .empty → record.isFilled) := by
  induction set generalizing type record with
  | empty =>
    cases h
    exact ⟨rfl, fun hset => absurd rfl hset⟩
  | field name nested rest ihNested ihRest =>
    simp only [recordOf_field, bind_eq_ok_iff, pure_eq_ok_iff] at h
    obtain ⟨declaration, -, member, hmember, more, hmore, rfl⟩ := h
    have hfilled : member.isFilled := by
      cases nested with
      | empty =>
        cases hmember
        rw [fieldTypeOf, isFilled_wrap]
        rfl
      | field =>
        simp only [memberType, bind_eq_ok_iff, pure_eq_ok_iff] at hmember
        obtain ⟨inner, hinner, rfl⟩ := hmember
        rw [isFilled_wrap]
        exact (ihNested hinner).2 (by simp)
    simp [Record.isFilled, FieldType.isFilled, FieldType.areFilled, hfilled, (ihRest hmore).1]

theorem Collected.isFilled_of_keyOf {collected : Collected} {type : String} {key : RawText}
    {record : Record} (h : collected.keyOf type key = .ok record) : record.isFilled := by
  obtain ⟨set, hset, hrecord⟩ := keyOf_eq_ok_iff.1 h
  exact (isFilled_recordOf hrecord).2 (FieldSet.ne_empty_of_parse hset)

/-- What a resolver reads beside its parent is the record of its last directive, if it has
any. -/
theorem requiredRecord_eq_ok {type : String} {before record : Record}
    {directives : List Directive}
    (h : requiredRecord objects type before directives = .ok record) :
    (directives = [] ∧ record = before) ∨ ∃ directive, directives.getLast? = some directive ∧
      ∃ set, fieldSetOf directive = .ok set ∧ recordOf objects type set = .ok record := by
  induction directives generalizing before with
  | nil =>
    cases h
    exact .inl ⟨rfl, rfl⟩
  | cons directive rest ih =>
    simp only [requiredRecord, bind_eq_ok_iff] at h
    obtain ⟨set, hset, found, hfound, hrest⟩ := h
    refine .inr ?_
    rcases ih hrest with ⟨rfl, rfl⟩ | ⟨later, hlater, hrecord⟩
    · exact ⟨directive, rfl, set, hset, hfound⟩
    · exact ⟨later, by rw [List.getLast?_cons, hlater, Option.getD_some], hrecord⟩

/-- What a resolver reads beside its parent has members just if a directive asks for it. -/
theorem isFilled_requiredRecord {type : String} {before record : Record}
    {directives : List Directive}
    (h : requiredRecord objects type before directives = .ok record) :
    (directives = [] ∧ record = before) ∨ (directives ≠ [] ∧ record.isFilled) := by
  refine (requiredRecord_eq_ok h).imp id ?_
  rintro ⟨directive, hlast, set, hset, hrecord⟩
  exact ⟨List.ne_nil_of_mem (List.mem_of_getLast? hlast),
    (isFilled_recordOf hrecord).2 (ne_empty_of_fieldSetOf hset)⟩

/-! ## Names -/

/-- An object whose fields have names of the grammar, as have their types. -/
def CollectedObject.IsNamed (object : CollectedObject) : Prop :=
  ∀ declaration ∈ object.fields, declaration.IsNamed

/-- Objects under names of the grammar, with named fields of named types. -/
def Collected.IsNamed (collected : Collected) : Prop :=
  ∀ entry ∈ collected.objects, isName entry.1 ∧ entry.2.IsNamed

theorem CollectedObject.IsNamed.withPart {object : CollectedObject} (h : object.IsNamed)
    {part : ObjectPart} (hpart : ∀ declaration ∈ part.fields, declaration.IsNamed) :
    (object.withPart part).IsNamed := by
  intro declaration hmem
  rw [fields_withPart, addField_eq] at hmem
  rcases mem_of_mem_foldl_addLabelled _ hmem with hmem | hmem
  · exact h declaration hmem
  · exact hpart declaration hmem

namespace Collected.IsNamed

theorem empty : ({} : Collected).IsNamed := by
  simp [Collected.IsNamed]

theorem addDefinition {collected : Collected} (h : collected.IsNamed) {definition : Definition}
    (hproper : definition.IsProper) : (collected.addDefinition definition).1.IsNamed := by
  cases definition with
  | object part =>
    intro entry hentry
    rcases Table.mem_put hentry with rfl | hold
    · refine ⟨hproper.1, CollectedObject.IsNamed.withPart ?_ hproper.2⟩
      cases hfound : collected.objects.get? part.name with
      | none => simp [CollectedObject.IsNamed]
      | some object => exact (h _ (Table.mem_of_get? hfound)).2
    · exact h entry hold
  | _ => exact h

theorem addAll {collected : Collected} (h : collected.IsNamed) {definitions : List Definition}
    (hproper : ∀ definition ∈ definitions, definition.IsProper) :
    (collected.addAll definitions).IsNamed :=
  List.foldlRecOn definitions _ h fun _ h definition hmem =>
    h.addDefinition (hproper definition hmem)

theorem declaration {collected : Collected} (h : collected.IsNamed) {type field : String}
    {declaration : FieldDeclaration}
    (hfound : findField collected.objects type field = .ok declaration) :
    declaration.IsNamed := by
  obtain ⟨object, hobject, hfield⟩ := findField_eq_ok_iff.1 hfound
  exact (h _ (Table.mem_of_get? hobject)).2 declaration (List.mem_of_find?_eq_some hfield)

theorem findField {collected : Collected} (h : collected.IsNamed) {type field : String}
    {declaration : FieldDeclaration}
    (hfound : findField collected.objects type field = .ok declaration) :
    isName declaration.type.name :=
  (h.declaration hfound).type

end Collected.IsNamed

theorem Collected.isNamed_addAll {document : Text.RawText} {definitions : List Definition}
    (h : Graphql.parseDocument document = .ok definitions) :
    (({} : Collected).addAll definitions).IsNamed :=
  IsNamed.empty.addAll (Graphql.isProper_of_parseDocument h)

theorem SchemaReader.isNamed_run (steps : List Step) : (run {} steps).collected.IsNamed :=
  run_induction_of_isProper (fun _ _ hproper h => h.addDefinition hproper) (fun _ h => h) .empty
    steps

end Federation
end ResolverTypings
