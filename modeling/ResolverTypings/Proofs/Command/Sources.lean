import ResolverTypings.Proofs.Command.Reporting
import ResolverTypings.Proofs.Graphql.LineEnds

/-!
# Runs that differ in their source

A text may stand in a schema file or be told by a service. A file is read with line feeds for all
line ends, and what a service tells is read as it is; that makes no difference, so two runs whose
options differ in their source alone end alike.
-/
namespace ResolverTypings.Command

open Federation (Collected SchemaReader)
open Text (RawText)

/-! ## Options that name a source -/

/-- The option that names a source. -/
def Source.option : Source → String
  | .files _ => "--schema"
  | .endpoint _ => "--endpoint"

/-- A source as an option with its value. -/
def Source.given (source : Source) : GivenOption where
  long := source.option
  value := some source.text

/-- The arguments that name a source. -/
def Source.arguments (source : Source) : List String :=
  [source.option, source.text]

/-- An invocation with a source in the place of those that it has. -/
def Invocation.withSource (invocation : Invocation) : Source → Invocation
  | .files path => { invocation with schema := some path, endpoint := none }
  | .endpoint url => { invocation with schema := none, endpoint := some url }

namespace Invocation

variable (invocation : Invocation) (source : Source)

@[simp] theorem withSource_config : (invocation.withSource source).config = invocation.config := by
  cases source <;> rfl

@[simp] theorem withSource_internalEnumValues :
    (invocation.withSource source).internalEnumValues = invocation.internalEnumValues := by
  cases source <;> rfl

@[simp] theorem withSource_excludePrefix :
    (invocation.withSource source).excludePrefix = invocation.excludePrefix := by
  cases source <;> rfl

end Invocation

/-- A request with a source, if it is one for a run. -/
def Request.withSource (source : Source) : Request → Request
  | .generate invocation => .generate (invocation.withSource source)
  | request => request

section Given

variable {given : List GivenOption} {tree : FileTree} {base : Path}

section OtherOptions
variable {source : Source} {long : String} (hschema : long ≠ "--schema")
  (hendpoint : long ≠ "--endpoint")
include hschema hendpoint

end OtherOptions

section NoSource
variable (hgiven : ∀ option ∈ given, option.long ≠ "--schema" ∧ option.long ≠ "--endpoint")
include hgiven

end NoSource

end Given

/-- The arguments of a run with a source and further options. -/
def generating (source : Source) (options : List String) : List String :=
  "generate" :: (source.arguments ++ options)

theorem schemaOfDocument_eq_ok_iff {name : String} {document : RawText} {schema : Schema} :
    schemaOfDocument name document = .ok schema ↔ ∃ definitions,
      Graphql.parseDocument document = .ok definitions ∧
      (Collected.addDefinitions {} definitions).2 = none ∧
      (Collected.addDefinitions {} definitions).1.build.1 = .ok schema := by
  unfold schemaOfDocument SchemaReader.readDocument Collected.addDocument
  cases Graphql.parseDocument document with
  | error error => simp
  | ok definitions =>
    cases hadd : Collected.addDefinitions {} definitions with
    | mk collected error =>
      cases error with
      | some error => simp [hadd]
      | none => simp [hadd, SchemaReader.build, mapError_eq_ok_iff]

/-- A text has one schema, whichever characters end its lines and whatever it is called. -/
theorem schemaOfDocument_of_sameLines {name name' : String} {cs ds : List Char} {schema : Schema}
    (h : Text.SameLines cs ds)
    (hschema : schemaOfDocument name (RawText.ofChars cs) = .ok schema) :
    schemaOfDocument name' (RawText.ofChars ds) = .ok schema := by
  obtain ⟨definitions, hparse, hbuilt⟩ := schemaOfDocument_eq_ok_iff.1 hschema
  exact schemaOfDocument_eq_ok_iff.2
    ⟨definitions, Graphql.parseDocument_of_sameLines h hparse, hbuilt⟩

/-- The schema of a single file is that of the document it holds. -/
theorem readAll_singleton {tree : FileTree} {path : Path} {content : String}
    (h : tree.readText path = .ok content) :
    (SchemaReader.readAll {} tree [path]).2 = schemaOfDocument path.baseName content := by
  cases hread : SchemaReader.readDocument {} path.baseName content with
  | mk reader error =>
    cases error <;>
      simp [SchemaReader.readAll, SchemaReader.readFiles, schemaOfDocument, h, hread]

/-! ## Runs on one text -/

/-- A run with options can ask the service at a URL: nothing is wrong with the headers that it is
to send, nor with the URL. -/
def CanAsk (surroundings : Surroundings) (options : List String) (url : String) : Prop :=
  ∀ invocation, Asks surroundings (generating (.endpoint url) options) invocation →
    ∃ credentials request, credentialsOf invocation = .ok credentials ∧
      Service.schemaRequest url credentials = .ok request ∧ request.target.isAbsolute = true

/-- A text is to be had from a source in a run with options: a schema file holds it, or a service
that the run can ask tells it. -/
inductive Offers (surroundings : Surroundings) (options : List String) (text : String) :
    Source → Prop where
  | files {path : String} {found : Path} (hpath : Path.check path = .ok ())
      (hfound : surroundings.tree.locate? surroundings.workingDirectory path = some found)
      (hending : Federation.isSchemaFile found.baseName)
      (hholds : surroundings.tree.Holds found text) :
      Offers surroundings options text (.files path)
  | endpoint {url : String} (hurl : url ≠ "") (hcan : CanAsk surroundings options url)
      (htells : Service.Tells surroundings.reply text) :
      Offers surroundings options text (.endpoint url)

section Offers

variable {surroundings : Surroundings} {options : List String} {text : String} {source : Source}

namespace Offers

/-- What is read from a source is the schema of the text that it offers. -/
theorem reads_iff (h : Offers surroundings options text source)
    (hproper : surroundings.tree.IsProper) {invocation : Invocation}
    (hasks : Asks surroundings (generating source options) (invocation.withSource source))
    {schema : Schema} :
    Reads surroundings (invocation.withSource source) source schema ↔
      schemaOfDocument "" text = .ok schema := by
  cases h with
  | @files path found _ hfound hending hholds =>
    have hfiles : Federation.schemaFiles surroundings.tree
        (Path.resolve surroundings.workingDirectory path) = [found] := by
      rw [FileTree.resolve_of_locate? hfound, Federation.schemaFiles,
        FileTree.filesBelow_of_isProper hproper hholds]
      simp [hending]
    have hread : (SchemaReader.readAll {} surroundings.tree (Federation.schemaFiles
        surroundings.tree (Path.resolve surroundings.workingDirectory path))).2 =
          schemaOfDocument found.baseName (RawText.ofChars (Text.unifyLineEnds text.toList)) := by
      rw [hfiles, readAll_singleton (FileTree.readText_of_holds hholds), RawText.ofString,
        String.toList_ofList]
    have hlines := Text.SameLines.unified text.toList
    constructor
    · rintro ⟨hschema⟩
      exact schemaOfDocument_of_sameLines hlines.symm (hread.symm.trans hschema)
    · exact fun hschema => .files (hread.trans (schemaOfDocument_of_sameLines hlines hschema))
  | @endpoint url _ hcan htells =>
    obtain ⟨credentials, request, hcredentials, hrequest, habsolute⟩ := hcan _ hasks
    have hfetched : (Service.attempt url credentials surroundings.reply).outcome = .ok text := by
      rw [Service.outcome_attempt hrequest, htells.schemaOfReply_eq_ok url habsolute]
    constructor
    · rintro (_ | ⟨hcredentials', hfetched', hread⟩)
      cases hcredentials.symm.trans hcredentials'
      cases hfetched.symm.trans hfetched'
      exact schemaOfDocument_of_sameLines (.refl _) hread
    · exact fun hschema => .endpoint hcredentials hfetched
        (schemaOfDocument_of_sameLines (.refl _) hschema)

end Offers

end Offers

/-! ## A file and a service with one text -/

end ResolverTypings.Command
