import ResolverTypings.Federation.Reader
import ResolverTypings.Proofs.Federation.Growth
import ResolverTypings.Proofs.Graphql.Names

/-!
# Runs of a reader

A run reads documents and builds schemas in any order on one reader. A document that fails
leaves what was collected before its error, and a build that fails leaves what it noted;
the run goes on from there. What every definition and every noting keeps, a run keeps.
-/
namespace ResolverTypings.Federation

open Graphql (Definition)

/-- A step of a run: to read a document under a name, or to build. -/
inductive Step where
  | read (name : String) (document : Text.RawText)
  | build
  deriving Repr, DecidableEq, Inhabited

namespace SchemaReader

/-- The reader after a step, whether the step fails or not. -/
def step (reader : SchemaReader) : Step → SchemaReader
  | .read name document => (reader.readDocument name document).1
  | .build => reader.build.1

/-- The reader after the steps of a run. -/
def run (reader : SchemaReader) (steps : List Step) : SchemaReader :=
  steps.foldl step reader

theorem run_append (reader : SchemaReader) (steps more : List Step) :
    reader.run (steps ++ more) = (reader.run steps).run more := by
  simp [run]

end SchemaReader

/-! ## What a run reads -/

/-- The definitions that a document adds: those up to the first fault, or none if it does not
follow the grammar. -/
def definitionsIn (document : Text.RawText) : List Definition :=
  match Graphql.parseDocument document with
  | .error _ => []
  | .ok definitions => untilFault definitions

/-- The definitions that a step adds. -/
def Step.definitions : Step → List Definition
  | .read _ document => definitionsIn document
  | .build => []

/-- The definitions that the steps of a run add. -/
def definitionsRead (steps : List Step) : List Definition :=
  steps.flatMap Step.definitions

/-- Whatever is read is a definition of a document. -/
theorem isProper_of_mem_definitionsRead {steps : List Step} {definition : Definition}
    (h : definition ∈ definitionsRead steps) : definition.IsProper := by
  obtain ⟨step, -, hstep⟩ := List.mem_flatMap.1 h
  cases step with
  | build => cases hstep
  | read name document =>
    simp only [Step.definitions, definitionsIn] at hstep
    cases hparsed : Graphql.parseDocument document with
    | error error => simp [hparsed] at hstep
    | ok definitions =>
      rw [hparsed] at hstep
      exact Graphql.isProper_of_parseDocument hparsed definition
        ((untilFault_isPrefix definitions).subset hstep)

namespace SchemaReader

theorem collected_step_read (reader : SchemaReader) (name : String) (document : Text.RawText) :
    (reader.step (.read name document)).collected =
      reader.collected.addAll (definitionsIn document) := by
  simp only [step, readDocument, Collected.addDocument, definitionsIn]
  cases Graphql.parseDocument document with
  | error error => rfl
  | ok definitions => exact Collected.fst_addDefinitions _ _

/-- What a run collects is told by the definitions that it reads. Builds in between note
fields and leave all else as it is. -/
theorem collected_run (reader : SchemaReader) (steps : List Step) :
    (reader.run steps).collected = (reader.collected.addAll (definitionsRead steps)).withProvided
      (reader.run steps).collected.provided := by
  induction steps generalizing reader with
  | nil => rfl
  | cons first rest ih =>
    have hrun : reader.run (first :: rest) = (reader.step first).run rest := rfl
    have hread : definitionsRead (first :: rest) = first.definitions ++ definitionsRead rest := rfl
    rw [hrun, ih, hread, Collected.addAll_append]
    cases first with
    | read name document => rw [collected_step_read]; rfl
    | build =>
      have hbuilt : (reader.step .build).collected = reader.collected.noteProvided.1 :=
        reader.collected.snd_build
      rw [hbuilt, Collected.fst_noteProvided, Collected.addAll_withProvided]
      rfl

theorem objects_run (steps : List Step) : (run {} steps).collected.objects =
    Collected.gatherObjects [] (objectParts (definitionsRead steps)) := by
  rw [collected_run, Collected.addAll_eq]
  rfl

theorem enums_run (steps : List Step) : (run {} steps).collected.enums =
    Collected.gatherEnums [] (enumParts (definitionsRead steps)) := by
  rw [collected_run, Collected.addAll_eq]
  rfl

end SchemaReader

/-! ## What a run keeps -/

section Invariants

variable {P : Collected → Prop}

theorem Collected.addDefinitions_induction {definitions : List Definition}
    (hadd : ∀ definition ∈ definitions, ∀ collected, P collected →
      P (collected.addDefinition definition).1)
    {collected : Collected} (h : P collected) : P (collected.addDefinitions definitions).1 := by
  induction definitions generalizing collected with
  | nil => exact h
  | cons definition rest ih =>
    rw [List.forall_mem_cons] at hadd
    have hnext := hadd.1 collected h
    cases hstep : collected.addDefinition definition with
    | mk next error =>
      rw [hstep] at hnext
      cases error with
      | none => simpa [Collected.addDefinitions, hstep] using ih hadd.2 hnext
      | some error => simpa [Collected.addDefinitions, hstep] using hnext

section Proper

variable (hproper : ∀ collected definition, definition.IsProper → P collected →
  P (collected.addDefinition definition).1)

include hproper in
/-- The definitions of a document are proper ones, so only these need to be looked at. -/
theorem Collected.addDocument_induction_of_isProper {collected : Collected} (h : P collected)
    (document : Text.RawText) : P (collected.addDocument document).1 := by
  unfold Collected.addDocument
  cases hparsed : Graphql.parseDocument document with
  | error error => exact h
  | ok definitions =>
    have hdefinitions := Graphql.isProper_of_parseDocument hparsed
    exact addDefinitions_induction
      (fun definition hmem collected => hproper collected definition (hdefinitions _ hmem)) h

include hproper in
/-- What is kept by every proper definition and by noting provided fields holds after a run. -/
theorem SchemaReader.run_induction_of_isProper
    (hnote : ∀ collected, P collected → P collected.noteProvided.1)
    {reader : SchemaReader} (h : P reader.collected) (steps : List Step) :
    P (reader.run steps).collected := by
  induction steps generalizing reader with
  | nil => exact h
  | cons step rest ih =>
    refine ih ?_
    cases step with
    | read name document => exact Collected.addDocument_induction_of_isProper hproper h document
    | build =>
      have hbuilt : (reader.step .build).collected = reader.collected.noteProvided.1 :=
        reader.collected.snd_build
      rw [hbuilt]
      exact hnote _ h

end Proper

variable (hadd : ∀ collected definition, P collected → P (collected.addDefinition definition).1)

include hadd in
theorem Collected.addAll_induction {collected : Collected} (h : P collected)
    (definitions : List Definition) : P (collected.addAll definitions) := by
  induction definitions generalizing collected with
  | nil => exact h
  | cons definition rest ih => exact ih (hadd collected definition h)

include hadd in
theorem Collected.addDocument_induction {collected : Collected} (h : P collected)
    (document : Text.RawText) : P (collected.addDocument document).1 :=
  addDocument_induction_of_isProper (fun collected definition _ => hadd collected definition) h
    document

include hadd in
/-- What is kept by every definition and by noting provided fields holds after a run. -/
theorem SchemaReader.run_induction
    (hnote : ∀ collected, P collected → P collected.noteProvided.1)
    {reader : SchemaReader} (h : P reader.collected) (steps : List Step) :
    P (reader.run steps).collected :=
  run_induction_of_isProper (fun collected definition _ => hadd collected definition) hnote h
    steps

end Invariants

theorem Collected.isDistinct_addAll (definitions : List Definition) :
    (({} : Collected).addAll definitions).IsDistinct :=
  addAll_induction (fun _ definition h => h.addDefinition definition) .empty definitions

namespace SchemaReader

/-- Nothing that was collected is taken back by a run. -/
theorem growsTo_run (reader : SchemaReader) (steps : List Step) :
    reader.collected.GrowsTo (reader.run steps).collected :=
  run_induction (P := reader.collected.GrowsTo)
    (fun collected definition h => h.trans (.addDefinition collected definition))
    (fun collected h => h.trans (.noteProvided collected))
    (.refl reader.collected) steps

theorem isDistinct_run (steps : List Step) : (run {} steps).collected.IsDistinct :=
  run_induction (fun _ definition h => h.addDefinition definition)
    (fun _ h => h.noteProvided) .empty steps

/-- Whatever a run notes is provided, though builds fail and documents are read later. -/
theorem notedSoundly_run (steps : List Step) : (run {} steps).collected.NotedSoundly :=
  run_induction (fun _ definition h => h.addDefinition definition)
    (fun _ h => h.noteProvided) .empty steps

end SchemaReader
end ResolverTypings.Federation
