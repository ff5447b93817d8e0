import ResolverTypings.Proofs.Federation.Building
import ResolverTypings.Proofs.Federation.Runs

/-!
# Builds leave no trace

Fields that a build notes as provided stay noted, and a build that fails leaves some of
them behind. No later build can tell: every field noted is provided by declarations that
are never taken back, so a later build that succeeds notes it again. The outcome of a
build is that of a new reader which has read the same documents and built nothing before.
-/
namespace ResolverTypings.Federation

open Graphql (Definition)

/-! ## Collecting does not look at noted fields -/

namespace Collected

theorem addDefinition_withProvided (collected : Collected) (noted : List (String × String))
    (definition : Definition) :
    (collected.withProvided noted).addDefinition definition =
      ((collected.addDefinition definition).1.withProvided noted,
        (collected.addDefinition definition).2) := by
  refine Prod.ext ?_ ?_
  · rw [fst_addDefinition, fst_addDefinition]
    rfl
  · rw [snd_addDefinition, snd_addDefinition]

theorem addDefinitions_withProvided (collected : Collected) (noted : List (String × String))
    (definitions : List Definition) :
    (collected.withProvided noted).addDefinitions definitions =
      ((collected.addDefinitions definitions).1.withProvided noted,
        (collected.addDefinitions definitions).2) := by
  induction definitions generalizing collected with
  | nil => rfl
  | cons definition rest ih =>
    simp only [addDefinitions, addDefinition_withProvided]
    cases collected.addDefinition definition with
    | mk next error =>
      cases error with
      | none => exact ih next
      | some error => rfl

theorem addDocument_withProvided (collected : Collected) (noted : List (String × String))
    (document : Text.RawText) :
    (collected.withProvided noted).addDocument document =
      ((collected.addDocument document).1.withProvided noted,
        (collected.addDocument document).2) := by
  unfold addDocument
  cases Graphql.parseDocument document with
  | error error => rfl
  | ok definitions => simp only [addDefinitions_withProvided]

end Collected

/-! ## Outcomes -/

namespace SchemaReader

/-- What the builds of a run come to, in their order. -/
def outcomes (reader : SchemaReader) : List Step → List (Except ReadError Schema)
  | [] => []
  | .read name document :: rest => (reader.step (.read name document)).outcomes rest
  | .build :: rest => reader.build.2 :: (reader.step .build).outcomes rest

/-- A new reader that has read documents, failing ones among them, and built nothing. -/
def ofDocuments (documents : List (String × Text.RawText)) : SchemaReader :=
  documents.foldl (fun reader document => (reader.readDocument document.1 document.2).1) {}

/-- What the builds of a run come to if a new reader makes each of them, from the documents
given and those read before the build. -/
def freshOutcomes (documents : List (String × Text.RawText)) :
    List Step → List (Except ReadError Schema)
  | [] => []
  | .read name document :: rest => freshOutcomes (documents ++ [(name, document)]) rest
  | .build :: rest => (ofDocuments documents).build.2 :: freshOutcomes documents rest

/-- A new reader goes along with one that has built before, but for the noted fields. -/
theorem outcomes_eq_freshOutcomes_of_collected {reader : SchemaReader}
    {documents : List (String × Text.RawText)} (hnoted : reader.collected.NotedSoundly)
    (hfresh : (ofDocuments documents).collected = reader.collected.withProvided [])
    (steps : List Step) : reader.outcomes steps = freshOutcomes documents steps := by
  induction steps generalizing reader documents with
  | nil => rfl
  | cons step rest ih =>
    cases step with
    | read name document =>
      refine ih (Collected.addDocument_induction
        (fun _ definition h => h.addDefinition definition) hnoted document) ?_
      have hread : (ofDocuments (documents ++ [(name, document)])).collected =
          ((ofDocuments documents).collected.addDocument document).1 := by
        simp only [ofDocuments, List.foldl_append, List.foldl_cons, List.foldl_nil]
        rfl
      rw [hread, hfresh, Collected.addDocument_withProvided]
      rfl
    | build =>
      -- Only here the two readers differ: this one notes more, and all of it is provided.
      have houtcome : reader.build.2 = (ofDocuments documents).build.2 := by
        simp only [build, hfresh, Collected.build_eq_of_notedSoundly hnoted]
      have hstep : (reader.step .build).collected = reader.collected.noteProvided.1 :=
        reader.collected.snd_build
      rw [outcomes, freshOutcomes, houtcome, ih]
      · rw [hstep]
        exact hnoted.noteProvided
      · rw [hstep, hfresh]
        rfl

/-- **Builds are transparent.** In any run on a new reader, of documents that are read or
fail and of builds that succeed or fail, each build comes to the schema or to the error
that a new reader comes to, if it reads the same documents and builds once. -/
theorem outcomes_eq_freshOutcomes (steps : List Step) :
    outcomes {} steps = freshOutcomes [] steps :=
  outcomes_eq_freshOutcomes_of_collected (SchemaReader.notedSoundly_run []) rfl steps

end SchemaReader
end ResolverTypings.Federation
