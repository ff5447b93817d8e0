import ResolverTypings.Federation.Reader
import ResolverTypings.Proofs.Federation.Building
import ResolverTypings.Proofs.Federation.Runs
import ResolverTypings.Proofs.Graphql.StringValues
import ResolverTypings.Proofs.TypeScript.Surrogates

/-!
# Descriptions from files

Each description of a schema stands in one of the documents that have been read. A file is read as
a text, so the declarations of a schema that has been read from files show no surrogate.
-/
namespace ResolverTypings.Federation

open Graphql (Definition ObjectPart TextHas)
open Text (RawText)

variable {holds : RawText → Prop}

/-- An object as merged so far, with a property for the descriptions of it and of its fields. -/
structure CollectedObject.HasTexts (holds : RawText → Prop) (object : CollectedObject) : Prop where
  description : TextHas holds object.description
  fields : ∀ declaration ∈ object.fields, declaration.HasTexts holds

/-- All descriptions of the objects collected so far have a property. -/
def Collected.HasTexts (holds : RawText → Prop) (collected : Collected) : Prop :=
  ∀ entry ∈ collected.objects, entry.2.HasTexts holds

/-! ## Collecting -/

theorem CollectedObject.hasTexts_empty : CollectedObject.HasTexts holds {} where
  description := Graphql.textHas_none
  fields := List.forall_mem_nil _

/-- A part brings nothing but its own descriptions. -/
theorem CollectedObject.HasTexts.withPart {object : CollectedObject} (h : object.HasTexts holds)
    {part : ObjectPart} (hpart : part.HasTexts holds) : (object.withPart part).HasTexts holds where
  description := by
    simp only [CollectedObject.withPart, CollectedObject.merge]
    split
    · exact h.description
    · intro text htext
      cases hdescription : part.description with
      | none => exact h.description text (by simpa [hdescription] using htext)
      | some own => exact hpart.description text (by simpa [hdescription] using htext)
  fields := by
    intro declaration hdeclaration
    rw [CollectedObject.fields_withPart, addField_eq] at hdeclaration
    rcases mem_of_mem_foldl_addLabelled _ hdeclaration with hbefore | hnew
    · exact h.fields declaration hbefore
    · exact hpart.fields declaration hnew

theorem Collected.HasTexts.addDefinition {collected : Collected} (h : collected.HasTexts holds)
    {definition : Definition} (hdefinition : definition.HasTexts holds) :
    (collected.addDefinition definition).1.HasTexts holds := by
  cases definition with
  | object part =>
    intro entry hentry
    rcases Table.mem_put hentry with rfl | hbefore
    · refine CollectedObject.HasTexts.withPart ?_ hdefinition
      cases hfound : collected.objects.get? part.name with
      | none => exact CollectedObject.hasTexts_empty
      | some object => exact h _ (Table.mem_of_get? hfound)
    · exact h entry hbefore
  | _ => exact h

/-- A document without surrogates brings none into what is collected. -/
theorem Collected.HasTexts.addDocument {collected : Collected}
    (h : collected.HasTexts RawText.IsUnbroken) {document : RawText}
    (hdocument : document.IsUnbroken) :
    (collected.addDocument document).1.HasTexts RawText.IsUnbroken := by
  unfold Collected.addDocument
  cases hparsed : Graphql.parseDocument document with
  | error error => exact h
  | ok definitions =>
    have hdefinitions := Graphql.bears_of_isUnbroken hdocument hparsed
    exact addDefinitions_induction (fun definition hmem _ hbefore =>
      hbefore.addDefinition (hdefinitions definition hmem).hasTexts) h

/-! ## Building -/

namespace SchemaReader

end SchemaReader
end ResolverTypings.Federation
