import ResolverTypings.Command.Run
import ResolverTypings.Proofs.FileTrees
import ResolverTypings.Proofs.Sequences

/-!
# The stages of a run

A run chooses a source and settings, reads the schema of the source, drops what is to be left
out, makes the text of the file and writes it. What a stage says on the way makes no
difference to what it gives: a run gives what its stages give one after the other. A text is
produced just where every stage succeeds.
-/
namespace ResolverTypings.Command

open Federation (ReadError SchemaReader)
open Service (FetchError)
open Text (RawText)
open TypeScript (Settings)

variable {α β : Type}

/-! ## Steps -/

/-- A step has the same result whatever has been said before. -/
def Gives (step : Step α) (result : Except Failure α) : Prop :=
  ∀ before, (step.run before).1 = result

theorem gives_pure (a : α) : Gives (pure a) (.ok a) :=
  fun _ => rfl

theorem gives_throw (failure : Failure) : Gives (throw failure : Step α) (.error failure) :=
  fun _ => rfl

theorem gives_modify (change : Transcript → Transcript) :
    Gives (modify change : Step Unit) (.ok ()) :=
  fun _ => rfl

theorem gives_liftExcept (result : Except Failure α) :
    Gives (liftExcept result : Step α) result := by
  intro before
  cases result <;> rfl

theorem Gives.bind {step : Step α} {next : α → Step β} {result : Except Failure α}
    {results : α → Except Failure β} (h : Gives step result)
    (hnext : ∀ a, Gives (next a) (results a)) : Gives (step >>= next) (result >>= results) := by
  intro before
  have hfirst : StateT.run step.run before = (result, (step.run before).2) :=
    Prod.ext (h before) rfl
  rw [ExceptT.run_bind]
  change (StateT.run (step.run >>= _) before).1 = _
  rw [StateT.run_bind, hfirst]
  cases result with
  | ok a => exact hnext a (step.run before).2
  | error failure => rfl

/-- A step that only says something is passed over. -/
theorem Gives.after {step : Step Unit} {next : Unit → Step β} {result : Except Failure β}
    (h : Gives step (.ok ())) (hnext : Gives (next ()) result) : Gives (step >>= next) result := by
  change Gives _ (Except.ok () >>= fun _ => result)
  exact h.bind fun _ => hnext

theorem gives_sayMore (invocation : Invocation) (lines : List String) :
    Gives (sayMore invocation lines) (.ok ()) := by
  have hlines : Gives (lines.forM say) (.ok ()) := by
    induction lines with
    | nil => exact gives_pure ()
    | cons line lines ih => exact (gives_modify _).after ih
  unfold sayMore
  split
  · exact hlines
  · exact gives_pure ()

/-! ## What each stage gives -/

/-- The failure of a run whose schema was not fetched. -/
def Failure.ofFetch (url : String) (error : FetchError) : Failure :=
  match error with
  | .unreachable _ | .status .. | .reported .. | .noSchema _ =>
    .told (s!"Could not fetch SDL from {url}: " ++ error.message)
  | _ => .unfetched error

/-- The failure of a run whose schema was not read. -/
def Failure.ofRead (error : ReadError) : Failure :=
  match error with
  | .notText _ => .unreadable error
  | .syntaxError .. | .schemaError _ => .told error.message

/-- The schema that a single document holds. -/
def schemaOfDocument (name : String) (document : RawText) : Except ReadError Schema :=
  match SchemaReader.readDocument {} name document with
  | (_, some error) => .error error
  | (reader, none) => reader.build.2

/-- The text that a service tells. -/
def fetched (surroundings : Surroundings) (invocation : Invocation) (url : String) :
    Except Failure RawText := do
  let credentials ← (credentialsOf invocation).mapError (.usage .generate)
  (Service.attempt url credentials surroundings.reply).outcome.mapError (.ofFetch url)

/-- The schema that a source gives. -/
def schemaFrom (surroundings : Surroundings) (invocation : Invocation) :
    Source → Except Failure Schema
  | .files text =>
    let path := Path.resolve surroundings.workingDirectory text
    (SchemaReader.readAll {} surroundings.tree
      (Federation.schemaFiles surroundings.tree path)).2.mapError .ofRead
  | .endpoint url => do
    (schemaOfDocument url (← fetched surroundings invocation url)).mapError .ofRead

/-- The text that a schema gives. -/
def textFrom (invocation : Invocation) (settings : Settings) (schema : Schema) :
    Except Failure RawText :=
  (TypeScript.generate settings
    (schema.filter { excludePrefix := invocation.excludePrefix })).mapError (.told ·.message)

/-- The text that a run gives. -/
def textOf (surroundings : Surroundings) (invocation : Invocation) : Except Failure RawText := do
  let source ← (sourceOf invocation).mapError (.usage .generate)
  let settings ← settingsOf surroundings invocation
  let schema ← schemaFrom surroundings invocation source
  textFrom invocation settings schema

/-- The files that a run gives: those with its text written among them. -/
def filesOf (surroundings : Surroundings) (invocation : Invocation) :
    Except Failure FileTree := do
  let text ← textOf surroundings invocation
  let path := Path.resolve surroundings.workingDirectory invocation.output
  (writeOutput surroundings.tree path text).mapError .unwritten

theorem gives_orMisuse (result : Except UsageError α) :
    Gives (orMisuse result) (result.mapError (.usage .generate)) := by
  cases result with
  | ok value => exact gives_pure value
  | error error => exact gives_throw _

theorem gives_orReadFailure (reader : SchemaReader) (result : Except ReadError α) :
    Gives (orReadFailure reader result) (result.mapError .ofRead) := by
  cases result with
  | ok value => exact gives_pure value
  | error error => cases error <;> exact (gives_modify _).after (gives_throw _)

theorem gives_fetchSchema (surroundings : Surroundings) (invocation : Invocation)
    (url : String) :
    Gives (fetchSchema surroundings.reply url invocation)
      (fetched surroundings invocation url) := by
  refine (gives_orMisuse _).bind fun credentials => ?_
  dsimp only
  refine (gives_modify _).after ?_
  cases (Service.attempt url credentials surroundings.reply).outcome with
  | ok text => exact gives_pure text
  | error error => cases error <;> exact gives_throw _

theorem gives_readSource (surroundings : Surroundings) (invocation : Invocation)
    (source : Source) :
    Gives (readSource surroundings invocation source)
      (schemaFrom surroundings invocation source) := by
  cases source with
  | files text => exact gives_orReadFailure _ _
  | endpoint url =>
    refine (gives_fetchSchema surroundings invocation url).bind fun document => ?_
    unfold schemaOfDocument
    cases SchemaReader.readDocument {} url document with
    | mk reader error =>
      cases error with
      | none => exact gives_orReadFailure _ _
      | some error => exact gives_orReadFailure reader (.error error)

/-- A run gives what its stages give. -/
theorem gives_generate (surroundings : Surroundings) (invocation : Invocation) :
    Gives (generate surroundings invocation) (filesOf surroundings invocation) := by
  simp only [filesOf, textOf, bind_assoc]
  refine (gives_orMisuse _).bind fun source => ?_
  refine (gives_liftExcept _).bind fun settings => ?_
  dsimp only
  refine (gives_sayMore _ _).after ?_
  refine (gives_modify _).after ?_
  refine (gives_readSource surroundings invocation source).bind fun schema => ?_
  refine (gives_sayMore _ _).after ?_
  refine (gives_modify _).after ?_
  unfold textFrom
  cases TypeScript.generate settings
      (schema.filter { excludePrefix := invocation.excludePrefix }) with
  | error error => exact gives_throw _
  | ok text =>
    change Gives _ (Except.mapError _ (writeOutput surroundings.tree _ text))
    dsimp only
    cases writeOutput surroundings.tree _ text with
    | error error => exact gives_throw _
    | ok tree => exact (gives_modify _).after (gives_pure tree)

end ResolverTypings.Command
