import ResolverTypings.Proofs.Federation.Building
import ResolverTypings.Proofs.Federation.Runs

/-!
# Reading again

What a document adds hangs on the document alone: the definitions up to the first fault in
it, or none if it does not follow the grammar. Each kind of definition is merged so that
what has been merged once adds nothing when it is merged again. So documents that are read
a second time, in the same order, leave everything as it was, and files that are read and
built a second time come to the same schema or end with the same error.
-/
namespace ResolverTypings.Federation

open Graphql (Definition EnumPart ObjectPart)
open Text (RawText)

/-! ## Merging once more -/

section Adding

variable {α μ : Type} [DecidableEq μ] (label : α → μ)

/-- Elements whose labels are all there are not added. -/
theorem foldl_addLabelled_of_subset {xs ys : List α} (h : ∀ y ∈ ys, label y ∈ xs.map label) :
    ys.foldl (addLabelled label) xs = xs := by
  induction ys with
  | nil => rfl
  | cons y ys ih =>
    rw [List.foldl_cons, addLabelled, if_pos (h y (by simp))]
    exact ih fun z hz => h z (by simp [hz])

theorem foldl_addLabelled_twice (xs ys : List α) :
    ys.foldl (addLabelled label) (ys.foldl (addLabelled label) xs) =
      ys.foldl (addLabelled label) xs := by
  refine foldl_addLabelled_of_subset label fun y hy => ?_
  exact (mem_map_foldl_addLabelled label xs ys (label y)).2 (.inr (List.mem_map_of_mem hy))

end Adding

theorem foldl_addNew_twice {α : Type} [BEq α] [LawfulBEq α] (xs ys : List α) :
    ys.foldl addNew (ys.foldl addNew xs) = ys.foldl addNew xs := by
  classical
  rw [addNew_eq, foldl_addLabelled_twice]

/-- The last of some texts counts, also if it has counted before. -/
theorem getLast?_or_twice (texts : List RawText) (before : Option RawText) :
    texts.getLast?.or (texts.getLast?.or before) = texts.getLast?.or before := by
  cases texts.getLast? <;> rfl

theorem CollectedObject.foldl_withPart_twice (object : CollectedObject)
    (parts : List ObjectPart) :
    parts.foldl withPart (parts.foldl withPart object) = parts.foldl withPart object := by
  generalize htwice : parts.foldl withPart (parts.foldl withPart object) = twice
  generalize honce : parts.foldl withPart object = once at htwice
  have hdescription : twice.description = once.description := by
    rw [← htwice, ← honce]
    simp only [description_foldl_withPart, getLast?_or_twice]
  have hfields : twice.fields = once.fields := by
    rw [← htwice, ← honce]
    simp only [fields_foldl_withPart, addField_eq, foldl_addLabelled_twice]
  have hkeys : twice.keys = once.keys := by
    rw [← htwice, ← honce]
    simp only [keys_foldl_withPart, foldl_addNew_twice]
  cases twice
  cases once
  simp_all

namespace CollectedEnum

/-- Values of parts that the enum has are not added. -/
theorem values_foldl_merge_of_subset {enum : CollectedEnum} {parts : List EnumPart}
    (h : ∀ part ∈ parts, part.values ⊆ enum.values) :
    (parts.foldl merge enum).values = enum.values := by
  induction parts generalizing enum with
  | nil => rfl
  | cons part rest ih =>
    have hnone : (enum.merge part).values = enum.values := by
      have hfilter : part.values.filter (fun value => !enum.values.contains value) = [] :=
        List.filter_eq_nil_iff.2 fun value hvalue => by simpa using h part (by simp) hvalue
      rw [merge, hfilter, List.append_nil]
    rw [List.foldl_cons, ih, hnone]
    intro other hother
    rw [hnone]
    exact h other (by simp [hother])

theorem mem_values_foldl_merge {enum : CollectedEnum} {parts : List EnumPart} {value : String} :
    value ∈ (parts.foldl merge enum).values ↔
      value ∈ enum.values ∨ ∃ part ∈ parts, value ∈ part.values := by
  induction parts generalizing enum with
  | nil => simp
  | cons part rest ih =>
    have hmerge : value ∈ (enum.merge part).values ↔
        value ∈ enum.values ∨ value ∈ part.values := by
      by_cases hvalue : value ∈ enum.values <;> simp [merge, hvalue]
    rw [List.foldl_cons, ih, hmerge]
    simp [or_assoc]

theorem foldl_merge_twice (enum : CollectedEnum) (parts : List EnumPart) :
    parts.foldl merge (parts.foldl merge enum) = parts.foldl merge enum := by
  generalize htwice : parts.foldl merge (parts.foldl merge enum) = twice
  generalize honce : parts.foldl merge enum = once at htwice
  have hvalues : twice.values = once.values := by
    rw [← htwice]
    refine values_foldl_merge_of_subset fun part hpart value hvalue => ?_
    rw [← honce]
    exact mem_values_foldl_merge.2 (.inr ⟨part, hpart, hvalue⟩)
  have hdescription : twice.description = once.description := by
    rw [← htwice, ← honce]
    simp only [description_foldl_merge, getLast?_or_twice]
  cases twice
  cases once
  simp_all

end CollectedEnum

/-! ## Collecting once more -/

namespace Collected

/-- Definitions that have been collected are collected again without a trace. -/
theorem addAll_addAll {collected : Collected} (h : collected.IsDistinct)
    (definitions : List Definition) :
    (collected.addAll definitions).addAll definitions = collected.addAll definitions := by
  have hobjects := Table.gather_gather (·.name) {} CollectedObject.withPart h.objectNames
    CollectedObject.foldl_withPart_twice (objectParts definitions)
  have henums := Table.gather_gather (·.name) CollectedEnum.empty CollectedEnum.merge h.enumNames
    CollectedEnum.foldl_merge_twice (enumParts definitions)
  have hscalars := Table.gather_gather (·.1) none (fun _ part => part.2) h.scalarNames
    (fun _ parts => by cases parts <;> rfl) (scalarsOf definitions)
  rw [addAll_eq (collected.addAll definitions), addAll_eq collected]
  simp only [gatherObjects, gatherEnums, gatherScalars, hobjects, henums, hscalars,
    foldl_addNew_twice]

/-- What a document adds and how it fails does not depend on what is there before it. -/
theorem exists_addDocument_eq (document : RawText) :
    ∃ error, ∀ collected : Collected,
      collected.addDocument document = (collected.addAll (definitionsIn document), error) := by
  unfold addDocument definitionsIn
  cases Graphql.parseDocument document with
  | error error => exact ⟨some (.syntaxError error), fun _ => rfl⟩
  | ok definitions =>
    refine ⟨(definitions.findSome? faultOf).map .schemaError, fun collected => ?_⟩
    simp only [fst_addDefinitions, (addDefinitions_eq collected definitions).1]

end Collected

/-! ## Documents and files -/

namespace SchemaReader

/-- The steps that read documents in order, each under its name. -/
def readings (documents : List (String × RawText)) : List Step :=
  documents.map fun document => .read document.1 document.2

/-- What documents add does not depend on the reader, though some of them fail. -/
theorem exists_collected_readings (documents : List (String × RawText)) :
    ∃ added, ∀ reader : SchemaReader,
      (reader.run (readings documents)).collected = reader.collected.addAll added := by
  refine ⟨definitionsRead (readings documents), fun reader => ?_⟩
  induction documents generalizing reader with
  | nil => rfl
  | cons document rest ih =>
    obtain ⟨name, text⟩ := document
    calc (reader.run (readings ((name, text) :: rest))).collected
        = (reader.step (.read name text)).collected.addAll
            (definitionsRead (readings rest)) := ih _
      _ = reader.collected.addAll (definitionsRead (readings ((name, text) :: rest))) := by
          rw [collected_step_read, ← Collected.addAll_append]
          rfl

/-- What files add, and the error that ends their reading, does not depend on the reader. -/
theorem exists_readFiles_eq (tree : FileTree) (files : List Path) :
    ∃ added error, ∀ reader : SchemaReader,
      (reader.readFiles tree files).1.collected = reader.collected.addAll added ∧
        (reader.readFiles tree files).2 = error := by
  induction files with
  | nil => exact ⟨[], none, fun _ => ⟨rfl, rfl⟩⟩
  | cons path rest ih =>
    cases htext : tree.readText path with
    | error error =>
      exact ⟨[], some (.notText error), fun reader => by simp [readFiles, htext, Collected.addAll]⟩
    | ok document =>
      obtain ⟨error, hfirst⟩ := Collected.exists_addDocument_eq document
      generalize definitionsIn document = first at hfirst
      obtain ⟨more, end', hmore⟩ := ih
      have hread : ∀ reader : SchemaReader, reader.readDocument path.baseName document =
          (⟨reader.collected.addAll first, path.baseName⟩,
            error.map (·.toReadError document)) := by
        intro reader
        simp only [readDocument, hfirst]
      cases error with
      | some error =>
        refine ⟨first, some (error.toReadError document), fun reader => ?_⟩
        simp [readFiles, htext, hread]
      | none =>
        refine ⟨first ++ more, end', fun reader => ?_⟩
        obtain ⟨hcollected, herror⟩ := hmore ⟨reader.collected.addAll first, path.baseName⟩
        simp [readFiles, htext, hread, hcollected, herror, Collected.addAll_append]

theorem readAll_eq (reader : SchemaReader) (tree : FileTree) (files : List Path) :
    reader.readAll tree files =
      match (reader.readFiles tree files).2 with
      | some error => ((reader.readFiles tree files).1, .error error)
      | none => (reader.readFiles tree files).1.build := by
  cases hread : reader.readFiles tree files with
  | mk next error => cases error <;> simp [readAll, hread]

theorem snd_build_congr {reader reader' : SchemaReader}
    (h : reader.collected.build.1 = reader'.collected.build.1) :
    reader.build.2 = reader'.build.2 := by
  simp only [build, h]

/-- Files that have been read and built make the same schema when they are read and built
once more. What the first build noted is provided, so the second cannot tell it. -/
theorem readAll_readAll {reader : SchemaReader} (hdistinct : reader.collected.IsDistinct)
    (hsound : reader.collected.NotedSoundly) (tree : FileTree) (files : List Path) :
    ((reader.readAll tree files).1.readAll tree files).2 = (reader.readAll tree files).2 := by
  obtain ⟨added, error, hread⟩ := exists_readFiles_eq tree files
  cases error with
  | some error => simp [readAll_eq, (hread _).2]
  | none =>
    simp only [readAll_eq, (hread _).2]
    refine snd_build_congr ?_
    have honce : (reader.readFiles tree files).1.collected = reader.collected.addAll added :=
      (hread reader).1
    have hnoted : (reader.readFiles tree files).1.build.1.collected =
        (reader.collected.addAll added).noteProvided.1 := by
      rw [← honce]
      exact Collected.snd_build _
    have hsoundAdded : (reader.collected.addAll added).NotedSoundly :=
      Collected.addAll_induction (fun _ definition h => h.addDefinition definition) hsound added
    -- The second reading finds what the first has left, with more fields noted.
    rw [(hread _).1, hnoted, honce, Collected.fst_noteProvided, Collected.addAll_withProvided,
      Collected.addAll_addAll hdistinct, ← Collected.fst_noteProvided,
      Collected.build_eq_of_notedSoundly hsoundAdded.noteProvided,
      Collected.build_eq_of_notedSoundly hsoundAdded]
    rfl

/-- **Reading again changes nothing.** After any run on a new reader, documents that are
read twice in order, failing ones among them, leave the reader with what they left the first
time, and a build comes to the same. Files that are read and built twice come twice to the
same schema or end twice with the same error. -/
theorem reread_of_run (steps : List Step) :
    (∀ documents, ((run {} steps).run (readings documents ++ readings documents)).collected =
          ((run {} steps).run (readings documents)).collected ∧
        ((run {} steps).run (readings documents ++ readings documents)).build.2 =
          ((run {} steps).run (readings documents)).build.2) ∧
      ∀ tree files, (((run {} steps).readAll tree files).1.readAll tree files).2 =
        ((run {} steps).readAll tree files).2 := by
  have hdistinct := isDistinct_run steps
  constructor
  · intro documents
    obtain ⟨added, hadded⟩ := exists_collected_readings documents
    have hcollected :
        ((run {} steps).run (readings documents ++ readings documents)).collected =
          ((run {} steps).run (readings documents)).collected := by
      rw [run_append, hadded, hadded, Collected.addAll_addAll hdistinct]
    exact ⟨hcollected, snd_build_congr (by rw [hcollected])⟩
  · intro tree files
    exact readAll_readAll hdistinct (notedSoundly_run steps) tree files

end SchemaReader
end ResolverTypings.Federation
