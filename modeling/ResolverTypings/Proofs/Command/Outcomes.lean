import ResolverTypings.Proofs.Command.Arguments
import ResolverTypings.Proofs.Command.Stages
import ResolverTypings.Proofs.Command.Writing
import ResolverTypings.Proofs.Federation.Descriptions
import ResolverTypings.Proofs.Service.Replies
import ResolverTypings.Proofs.TypeScript.SettingsMeaning

/-!
# Outcomes

A run has one of four ends. It has written the text that its stages produce, to the file that
was asked for and to no other; or it has failed, and no file has come, gone or changed; or it
was asked to tell something about itself. It fails just where some stage has no result. The fourth
end is that of a text with a surrogate in it, which only a service can bring about: the run fails
when the file is open already, and what stood there before is lost.
-/
namespace ResolverTypings

/-! ## Left out definitions -/

/-- Whether a name is to be left out: it starts with a text that is given and not empty. -/
def isLeftOut (start : Option String) (name : String) : Bool :=
  start.any fun text => !text.isEmpty && startsWith name text

/-- A schema without the definitions whose names start with a text. -/
def Schema.without (schema : Schema) (start : Option String) : Schema where
  objects := schema.objects.filter fun object => !isLeftOut start object.name
  enums := schema.enums.filter fun enum => !isLeftOut start enum.name
  scalars := schema.scalars.filter fun scalar => !isLeftOut start scalar.name

/-- A filter by the start of names accepts those that are not left out. -/
theorem NameFilter.accepts_excludePrefix (start : Option String) (name : String) :
    accepts { excludePrefix := start } name = !isLeftOut start name := by
  cases start with
  | none => rfl
  | some text => by_cases h : text.isEmpty <;> simp [accepts, criterion, isLeftOut, h]

theorem Schema.filter_excludePrefix (schema : Schema) (start : Option String) :
    schema.filter { excludePrefix := start } = schema.without start := by
  simp [filter, without, NameFilter.accepts_excludePrefix]

namespace Command

open Federation (SchemaReader)
open Text (RawText)
open TypeScript (Settings)

/-! ## What a run is asked for -/

/-- A text is given for an option. An empty one counts as none. -/
def Tells (option : Option String) (text : String) : Prop :=
  option = some text ∧ text ≠ ""

/-- The source of an invocation is the only one that it tells. -/
inductive Chooses (invocation : Invocation) : Source → Prop where
  | files {path : String} (htells : Tells invocation.schema path)
      (honly : ∀ url, ¬ Tells invocation.endpoint url) : Chooses invocation (.files path)
  | endpoint {url : String} (htells : Tells invocation.endpoint url)
      (honly : ∀ path, ¬ Tells invocation.schema path) : Chooses invocation (.endpoint url)

/-- The settings of an invocation before its flag is looked at: those that the value in the file
describes that it tells, or the usual ones. -/
inductive Configures (surroundings : Surroundings) (invocation : Invocation) :
    Settings → Prop where
  | usual (hnone : ∀ path, ¬ Tells invocation.config path) :
      Configures surroundings invocation {}
  | file {path content : String} {value : Json} {settings : Settings}
      (htells : Tells invocation.config path)
      (hcontent : surroundings.tree.readText
        (Path.resolve surroundings.workingDirectory path) = .ok content)
      (hvalue : Json.parse content = .ok value) (hsettings : TypeScript.Describes value settings) :
      Configures surroundings invocation settings

/-- The schema of a source: of all schema files where a path leads to, or of the document that
a service tells. -/
inductive Reads (surroundings : Surroundings) (invocation : Invocation) :
    Source → Schema → Prop where
  | files {path : String} {schema : Schema}
      (hread : (SchemaReader.readAll {} surroundings.tree (Federation.schemaFiles
        surroundings.tree (Path.resolve surroundings.workingDirectory path))).2 = .ok schema) :
      Reads surroundings invocation (.files path) schema
  | endpoint {url : String} {credentials : Service.Credentials} {document : RawText}
      {schema : Schema} (hcredentials : credentialsOf invocation = .ok credentials)
      (hfetched : (Service.attempt url credentials surroundings.reply).outcome = .ok document)
      (hread : schemaOfDocument url document = .ok schema) :
      Reads surroundings invocation (.endpoint url) schema

/-- The results of all stages of a run, with the text at the end. -/
structure Stages (surroundings : Surroundings) (invocation : Invocation) (source : Source)
    (settings : Settings) (schema : Schema) (text : RawText) : Prop where
  chooses : Chooses invocation source
  configures : Configures surroundings invocation settings
  reads : Reads surroundings invocation source schema
  makes : TypeScript.generate
    { settings with
      internalEnumValues := settings.internalEnumValues || invocation.internalEnumValues }
    (schema.without invocation.excludePrefix) = .ok text

/-- An invocation produces a text for a file that can be written where it asks for. -/
def Produces (surroundings : Surroundings) (invocation : Invocation) (text : RawText) : Prop :=
  (∃ source settings schema, Stages surroundings invocation source settings schema text) ∧
    Writable surroundings.tree (Path.resolve surroundings.workingDirectory invocation.output)

/-- The arguments of a run ask for an invocation. -/
def Asks (surroundings : Surroundings) (arguments : List String) (invocation : Invocation) :
    Prop :=
  readRequest surroundings.tree surroundings.workingDirectory arguments =
    .ok (.generate invocation)

/-! ## Stages -/

theorem nonEmpty_eq_some_iff {option : Option String} {text : String} :
    nonEmpty option = some text ↔ Tells option text := by
  simp [nonEmpty, Tells, Option.filter_eq_some_iff]

theorem nonEmpty_eq_none_iff {option : Option String} :
    nonEmpty option = none ↔ ∀ text, ¬ Tells option text := by
  simp [Option.eq_none_iff_forall_not_mem, nonEmpty_eq_some_iff]

theorem sourceOf_eq_ok_iff {invocation : Invocation} {source : Source} :
    sourceOf invocation = .ok source ↔ Chooses invocation source := by
  unfold sourceOf
  split
  · next path hschema hendpoint =>
    have hschema := nonEmpty_eq_some_iff.1 hschema
    have hendpoint := nonEmpty_eq_none_iff.1 hendpoint
    constructor
    · rintro ⟨⟩
      exact .files hschema hendpoint
    · rintro (⟨hother, -⟩ | ⟨hother, -⟩)
      · cases hschema.1.symm.trans hother.1
        rfl
      · exact absurd hother (hendpoint _)
  · next url hschema hendpoint =>
    have hschema := nonEmpty_eq_none_iff.1 hschema
    have hendpoint := nonEmpty_eq_some_iff.1 hendpoint
    constructor
    · rintro ⟨⟩
      exact .endpoint hendpoint hschema
    · rintro (⟨hother, -⟩ | ⟨hother, -⟩)
      · exact absurd hother (hschema _)
      · cases hendpoint.1.symm.trans hother.1
        rfl
  · next hfiles hendpoint =>
    constructor
    · rintro ⟨⟩
    · rintro (⟨htells, honly⟩ | ⟨htells, honly⟩)
      · exact absurd (nonEmpty_eq_none_iff.2 honly)
          (hfiles _ (nonEmpty_eq_some_iff.2 htells))
      · exact absurd (nonEmpty_eq_some_iff.2 htells)
          (hendpoint _ (nonEmpty_eq_none_iff.2 honly))

theorem fileSettings_eq_ok_iff {surroundings : Surroundings} {path : String}
    {settings : Settings} :
    fileSettings surroundings path = .ok settings ↔ ∃ content,
      surroundings.tree.readText (Path.resolve surroundings.workingDirectory path) =
        .ok content ∧ ∃ value, Json.parse content = .ok value ∧
          TypeScript.Describes value settings := by
  unfold fileSettings
  cases surroundings.tree.readText (Path.resolve surroundings.workingDirectory path) with
  | error error => simp [throw_eq_error]
  | ok content => simp [mapError_eq_ok_iff, Settings.ofText_eq_ok_iff]

theorem settingsOf_eq_ok_iff {surroundings : Surroundings} {invocation : Invocation}
    {settings : Settings} :
    settingsOf surroundings invocation = .ok settings ↔
      ∃ base, Configures surroundings invocation base ∧ settings = { base with
        internalEnumValues := base.internalEnumValues || invocation.internalEnumValues } := by
  cases hconfig : nonEmpty invocation.config with
  | none =>
    have hnone := nonEmpty_eq_none_iff.1 hconfig
    simp only [settingsOf, hconfig, bind_eq_ok_iff, pure_eq_ok_iff]
    constructor
    · rintro ⟨base, rfl, rfl⟩
      exact ⟨{}, .usual hnone, rfl⟩
    · rintro ⟨_, _ | ⟨htells, -, -, -⟩, rfl⟩
      · exact ⟨{}, rfl, rfl⟩
      · exact absurd htells (hnone _)
  | some path =>
    have htells := nonEmpty_eq_some_iff.1 hconfig
    simp only [settingsOf, hconfig, bind_eq_ok_iff, pure_eq_ok_iff, fileSettings_eq_ok_iff]
    constructor
    · rintro ⟨base, ⟨content, hcontent, value, hvalue, hsettings⟩, rfl⟩
      exact ⟨base, .file htells hcontent hvalue hsettings, rfl⟩
    · rintro ⟨base, hnone | ⟨hother, hcontent, hvalue, hsettings⟩, rfl⟩
      · exact absurd htells (hnone _)
      · cases htells.1.symm.trans hother.1
        exact ⟨base, ⟨_, hcontent, _, hvalue, hsettings⟩, rfl⟩

theorem schemaFrom_eq_ok_iff {surroundings : Surroundings} {invocation : Invocation}
    {source : Source} {schema : Schema} :
    schemaFrom surroundings invocation source = .ok schema ↔
      Reads surroundings invocation source schema := by
  cases source with
  | files path =>
    simp only [schemaFrom, mapError_eq_ok_iff]
    constructor
    · exact .files
    · rintro ⟨hread⟩
      exact hread
  | endpoint url =>
    simp only [schemaFrom, fetched, bind_eq_ok_iff, mapError_eq_ok_iff]
    constructor
    · rintro ⟨document, ⟨credentials, hcredentials, hfetched⟩, hread⟩
      exact .endpoint hcredentials hfetched hread
    · rintro (_ | ⟨hcredentials, hfetched, hread⟩)
      exact ⟨_, ⟨_, hcredentials, hfetched⟩, hread⟩

/-- A run gives a text just where all of its stages have a result. -/
theorem textOf_eq_ok_iff {surroundings : Surroundings} {invocation : Invocation}
    {text : RawText} :
    textOf surroundings invocation = .ok text ↔
      ∃ source settings schema, Stages surroundings invocation source settings schema text := by
  simp only [textOf, textFrom, bind_eq_ok_iff, mapError_eq_ok_iff, sourceOf_eq_ok_iff,
    settingsOf_eq_ok_iff, schemaFrom_eq_ok_iff, Schema.filter_excludePrefix]
  constructor
  · rintro ⟨source, hchooses, _, ⟨settings, hconfigures, rfl⟩, schema, hreads, hmakes⟩
    exact ⟨source, settings, schema, hchooses, hconfigures, hreads, hmakes⟩
  · rintro ⟨source, settings, schema, hchooses, hconfigures, hreads, hmakes⟩
    exact ⟨source, hchooses, _, ⟨settings, hconfigures, rfl⟩, schema, hreads, hmakes⟩

section
variable {surroundings : Surroundings} {invocation : Invocation} {text : RawText}

/-- A run with a text gives what comes of writing it. -/
theorem filesOf_of_textOf (h : textOf surroundings invocation = .ok text) :
    filesOf surroundings invocation = (writeOutput surroundings.tree
      (Path.resolve surroundings.workingDirectory invocation.output) text).mapError .unwritten := by
  simp only [filesOf, h, bind, Except.bind]

theorem filesOf_of_produces (h : Produces surroundings invocation text) :
    filesOf surroundings invocation = (writeOutput surroundings.tree
      (Path.resolve surroundings.workingDirectory invocation.output) text).mapError .unwritten :=
  filesOf_of_textOf (textOf_eq_ok_iff.2 h.1)

/-- A run that produces a text that cannot be written gives no files, and has opened the output. -/
theorem exists_filesOf_of_surrogate (h : Produces surroundings invocation text)
    (htext : ¬ text.IsUnbroken) :
    ∃ left, filesOf surroundings invocation = .error (.unwritten ⟨.surrogate, left⟩) ∧
      surroundings.tree.Written
        (Path.resolve surroundings.workingDirectory invocation.output) "" left := by
  obtain ⟨left, hwrite, hleft⟩ := exists_writeOutput_of_surrogate h.2 htext
  exact ⟨left, by rw [filesOf_of_produces h, hwrite]; rfl, hleft⟩

end

/-! ## Ends of a run -/

theorem exists_run_generate (surroundings : Surroundings) (invocation : Invocation) :
    ∃ transcript, (generate surroundings invocation).run {} =
      (filesOf surroundings invocation, transcript) :=
  ⟨_, Prod.ext (gives_generate surroundings invocation {}) rfl⟩

section
variable {surroundings : Surroundings} {arguments : List String} {invocation : Invocation}

theorem run_eq_of_filesOf_eq_ok (hasks : Asks surroundings arguments invocation)
    {after : FileTree} (h : filesOf surroundings invocation = .ok after) :
    ∃ transcript, run surroundings arguments = { exitCode := 0, transcript, tree := after } := by
  obtain ⟨transcript, hrun⟩ := exists_run_generate surroundings invocation
  unfold Asks at hasks
  exact ⟨transcript, by simp only [run, hasks, hrun, h]⟩

theorem run_eq_of_filesOf_eq_error (hasks : Asks surroundings arguments invocation)
    {failure : Failure} (h : filesOf surroundings invocation = .error failure) :
    ∃ transcript, run surroundings arguments =
      .ofFailure surroundings.tree transcript failure := by
  obtain ⟨transcript, hrun⟩ := exists_run_generate surroundings invocation
  unfold Asks at hasks
  exact ⟨transcript, by simp only [run, hasks, hrun, h]⟩

end

/-- The URL of a service. -/
def serviceUrl : String := "http://svc.local/graphql"

/-- What is asked of the service. -/
def askingService : List String := ["generate", "-e", serviceUrl, "-o", "out.ts"]

/-- What these arguments ask for. -/
def serviceInvocation : Invocation where
  schema := none
  endpoint := some serviceUrl
  output := "out.ts"
  config := none
  internalEnumValues := false
  excludePrefix := none
  bearerToken := none
  headers := []
  verbose := false

/-- The URL of the service in the form in which it is sent. -/
def serviceTarget : Url where
  scheme := "http"
  host := "svc.local"
  path := "/graphql"

theorem resolve_output : Path.resolve ["work"] serviceInvocation.output = ["work", "out.ts"] := by
  decide +kernel

/-- The output can be written unless there is a file for its directory or a directory for it. -/
theorem writable_output {tree : FileTree} (habove : tree.isFile ["work"] = false)
    (hout : tree.isDirectory ["work", "out.ts"] = false) :
    Writable tree (Path.resolve ["work"] serviceInvocation.output) := by
  rw [resolve_output]
  refine ⟨by decide +kernel, by decide +kernel, fun above hne hfront => ?_, hout⟩
  obtain ⟨name, rest, rfl⟩ := List.exists_cons_of_ne_nil hne
  obtain ⟨rfl, hrest⟩ := List.cons_prefix_cons.1 hfront
  rwa [List.prefix_nil.1 hrest]

theorem checkHost_serviceTarget : Service.checkHost serviceTarget = .ok () := by
  have hnative : serviceTarget.nativeHost = .ok "svc.local" := by decide +kernel
  have hhost : serviceTarget.hostAndPort = "svc.local" := by
    simp [Url.hostAndPort, serviceTarget, String.contains_char_eq]
  have hascii : Text.isAscii serviceTarget.hostAndPort.toList = true := by
    rw [hhost]
    decide +kernel
  simp [Service.checkHost, hnative, hascii, Except.mapError, bind, Except.bind, pure,
    Except.pure]

theorem exists_schemaRequest_serviceUrl : ∃ request,
    Service.schemaRequest serviceUrl (.fixed []) = .ok request ∧
      request.target = serviceTarget :=
  ⟨_, Service.schemaRequest_eq_ok (by decide +kernel) (by decide +kernel)
    fun _ => checkHost_serviceTarget, rfl⟩

end Command
end ResolverTypings
