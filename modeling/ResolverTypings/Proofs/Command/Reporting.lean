import ResolverTypings.Proofs.Command.Outcomes

/-!
# What is reported of a reply

When everything that does not depend on the service is in order, a run that asks it for its
schema succeeds or ends with an error message, unless the reply is one that nobody has
foreseen, or the text that is made of it holds a surrogate. Then the run ends with nothing said at
all.
-/
namespace ResolverTypings

/-! ## Messages -/

namespace Text

theorem RawText.shown_append (front rest : RawText) :
    shown (front ++ rest) = shown front ++ shown rest := by
  simp [shown]

end Text

namespace Command

open Federation (ReadError SchemaReader)
open Service (FetchError)
open Text (RawText)

/-- A message for the user begins like this. -/
theorem Failure.report_told (message : RawText) :
    ∃ rest, report (.told message) = "Error: " ++ rest := by
  have hfront : RawText.ofString "Error: " ++ message ++ RawText.ofString "\n" =
      RawText.ofString "Error: " ++ (message ++ RawText.ofString "\n") := List.append_assoc ..
  refine ⟨(Text.plain (message ++ RawText.ofString "\n")).shown, ?_⟩
  rw [report, hfront, Text.plain_append_of_no_escape (by decide), Text.RawText.shown_append,
    Text.RawText.shown_ofString]

/-! ## Reported ends -/

/-- A run has ended as its user may expect: with success, or with an error message as the last
thing said. -/
def Outcome.IsReported (outcome : Outcome) : Prop :=
  outcome.untold = none ∧ (outcome.exitCode = 0 ∨ outcome.exitCode = 1 ∧
    ∃ before message, outcome.transcript.notices = before ++ "Error: " ++ message)

theorem isReported_ofFailure_iff {tree : FileTree} {transcript : Transcript}
    {failure : Failure} :
    (Outcome.ofFailure tree transcript failure).IsReported ↔
      ∃ message, failure = .told message := by
  cases failure with
  | told message =>
    obtain ⟨rest, hrest⟩ := Failure.report_told message
    have hend : ∃ before message, transcript.notices ++ "Error: " ++ rest =
        before ++ "Error: " ++ message := ⟨transcript.notices, rest, rfl⟩
    simpa [Outcome.ofFailure, Outcome.IsReported, Failure.isUntold, Failure.exitCode, hrest,
      String.append_assoc] using hend
  | _ => simp [Outcome.ofFailure, Outcome.IsReported, Failure.isUntold, Failure.exitCode]

/-- Arguments ask a service for its schema, and nothing is wrong with them: the settings can be
read, the request can be made, and the file can be written. -/
structure Queries (surroundings : Surroundings) (arguments : List String)
    (invocation : Invocation) (url : String) : Prop where
  asks : Asks surroundings arguments invocation
  chooses : Chooses invocation (.endpoint url)
  configures : ∃ settings, Configures surroundings invocation settings
  requests : ∃ credentials request, credentialsOf invocation = .ok credentials ∧
    Service.schemaRequest url credentials = .ok request ∧ request.target.isAbsolute = true
  writable :
    Writable surroundings.tree (Path.resolve surroundings.workingDirectory invocation.output)

theorem Failure.ofFetch_eq_told_iff (url : String) (error : FetchError) :
    (∃ message, ofFetch url error = .told message) ↔ error.isForeseen = true := by
  cases error <;> simp [ofFetch, FetchError.isForeseen]

/-- A document that cannot be read is reported. -/
theorem exists_told_of_schemaOfDocument {name : String} {document : RawText} {error : ReadError}
    (h : schemaOfDocument name document = .error error) :
    ∃ message, Failure.ofRead error = .told message := by
  unfold schemaOfDocument at h
  split at h
  · next documentError hread =>
    cases h
    simp only [SchemaReader.readDocument, Prod.mk.injEq, Option.map_eq_some_iff] at hread
    obtain ⟨-, fault, -, rfl⟩ := hread
    cases fault <;> exact ⟨_, rfl⟩
  · obtain ⟨schemaError, -, rfl⟩ := mapError_eq_error_iff.1 h
    exact ⟨_, rfl⟩

section
variable {surroundings : Surroundings} {arguments : List String} {invocation : Invocation}
  {url : String}

/-- The text that a run gives that asks a service, by the reply. -/
theorem textOf_of_queries (h : Queries surroundings arguments invocation url) :
    ∃ (target : Url) (settings : TypeScript.Settings), target.isAbsolute = true ∧
      textOf surroundings invocation =
        ((Service.schemaOfReply url target surroundings.reply).mapError (.ofFetch url) >>=
          fun document => (schemaOfDocument url document).mapError .ofRead >>=
            textFrom invocation settings) := by
  obtain ⟨-, hchooses, ⟨settings, hconfigures⟩, ⟨credentials, request, hcredentials, hrequest,
    habsolute⟩, -⟩ := h
  have hsource := sourceOf_eq_ok_iff.2 hchooses
  obtain ⟨settings, hsettings⟩ : ∃ settings, settingsOf surroundings invocation = .ok settings :=
    ⟨_, settingsOf_eq_ok_iff.2 ⟨settings, hconfigures, rfl⟩⟩
  have hfetched : fetched surroundings invocation url =
      (Service.schemaOfReply url request.target surroundings.reply).mapError (.ofFetch url) := by
    rw [← Service.outcome_attempt hrequest, fetched, hcredentials]
    rfl
  refine ⟨request.target, settings, habsolute, ?_⟩
  rw [textOf, hsource, hsettings, ← bind_assoc, ← hfetched]
  rfl

/-- With the document of a service, whatever else goes wrong before a text is made is told. -/
theorem exists_told_of_textFrom {settings : TypeScript.Settings} {document : RawText}
    {failure : Failure} (h : ((schemaOfDocument url document).mapError .ofRead >>=
      textFrom invocation settings) = .error failure) : ∃ message, failure = .told message := by
  rcases bind_eq_error_iff.1 h with hread | ⟨schema, -, htext⟩
  · obtain ⟨error, herror, rfl⟩ := mapError_eq_error_iff.1 hread
    exact exists_told_of_schemaOfDocument herror
  · obtain ⟨error, -, rfl⟩ := mapError_eq_error_iff.1 htext
    exact ⟨_, rfl⟩

/-- What keeps a run from making a text of a reply is told just where the reply is foreseen: only
fetching has failures that are not. -/
theorem forall_told_iff_not_isUnforeseen (h : Queries surroundings arguments invocation url) :
    (∀ failure, textOf surroundings invocation = .error failure →
        ∃ message, failure = .told message) ↔ ¬ Service.IsUnforeseen surroundings.reply := by
  obtain ⟨target, settings, habsolute, htext⟩ := textOf_of_queries h
  rw [htext, ← Service.schemaOfReply_unforeseen_iff url habsolute]
  cases Service.schemaOfReply url target surroundings.reply with
  | error error =>
    have htold := Failure.ofFetch_eq_told_iff url error
    simpa [Except.mapError, bind, Except.bind] using htold
  | ok document =>
    exact iff_of_true (fun failure hfailure => exists_told_of_textFrom hfailure) (by simp)

/-- Every failure of a run that asks a service is told just where the reply is foreseen and the text
that is made of it can be written. -/
theorem forall_told_iff_of_queries (h : Queries surroundings arguments invocation url) :
    (∀ failure, filesOf surroundings invocation = .error failure →
        ∃ message, failure = .told message) ↔
      ¬ Service.IsUnforeseen surroundings.reply ∧
        ∀ text, Produces surroundings invocation text → text.IsUnbroken := by
  rw [← forall_told_iff_not_isUnforeseen h]
  cases htext : textOf surroundings invocation with
  | error failure =>
    have hfiles : filesOf surroundings invocation = .error failure := by
      rw [filesOf, htext]
      rfl
    have hnone : ∀ text, ¬ Produces surroundings invocation text := by
      rintro text ⟨hstages, -⟩
      cases htext.symm.trans (textOf_eq_ok_iff.2 hstages)
    rw [hfiles]
    exact ⟨fun htold => ⟨by simpa using htold, fun text hproduces => absurd hproduces (hnone text)⟩,
      fun hboth => by simpa using hboth.1⟩
  | ok text =>
    have hproduces : Produces surroundings invocation text := ⟨textOf_eq_ok_iff.1 htext, h.writable⟩
    have honly : ∀ other, Produces surroundings invocation other → other = text := by
      rintro other ⟨hstages, -⟩
      exact Except.ok.inj ((textOf_eq_ok_iff.2 hstages).symm.trans htext)
    by_cases hunbroken : text.IsUnbroken
    · refine iff_of_true (fun failure hfailure => ?_) ⟨by simp, fun other hother => ?_⟩
      · obtain ⟨s, rfl⟩ := RawText.isUnbroken_iff.1 hunbroken
        obtain ⟨after, hwrite, -⟩ := exists_writeOutput_of_writable h.writable s
        rw [filesOf_of_produces hproduces, hwrite] at hfailure
        cases hfailure
      · rwa [honly other hother]
    · obtain ⟨left, hfiles, -⟩ := exists_filesOf_of_surrogate hproduces hunbroken
      refine iff_of_false (fun htold => ?_) fun hboth => hunbroken (hboth.2 text hproduces)
      obtain ⟨message, ⟨⟩⟩ := htold _ hfiles

/-- A run is reported just where all that can fail in it is told. -/
theorem isReported_run_iff_forall_told (hasks : Asks surroundings arguments invocation) :
    (run surroundings arguments).IsReported ↔
      ∀ failure, filesOf surroundings invocation = .error failure →
        ∃ message, failure = .told message := by
  cases hfiles : filesOf surroundings invocation with
  | ok after =>
    obtain ⟨transcript, hrun⟩ := run_eq_of_filesOf_eq_ok hasks hfiles
    rw [hrun]
    exact iff_of_true ⟨rfl, .inl rfl⟩ (by simp)
  | error failure =>
    obtain ⟨transcript, hrun⟩ := run_eq_of_filesOf_eq_error hasks hfiles
    rw [hrun, isReported_ofFailure_iff]
    simp

/-- A run that asks a service for its schema succeeds or ends with an error message, unless the
reply is unforeseen or a text is made of it that holds a surrogate. Then it does neither. -/
theorem isReported_run_iff (h : Queries surroundings arguments invocation url) :
    (run surroundings arguments).IsReported ↔
      ¬ Service.IsUnforeseen surroundings.reply ∧
        ∀ text, Produces surroundings invocation text → text.IsUnbroken := by
  rw [isReported_run_iff_forall_told h.asks, forall_told_iff_of_queries h]

end

/-! ## A request in order -/

/-- An empty directory, and a service with its reply. -/
def besideService (reply : Service.Reply) : Surroundings where
  tree := {}
  workingDirectory := ["work"]
  reply

/-- The reply makes no difference to whether the request is in order. -/
theorem queries_besideService (reply : Service.Reply) :
    Queries (besideService reply) askingService serviceInvocation serviceUrl where
  asks := by
    change readRequest {} ["work"] askingService = .ok (.generate serviceInvocation)
    decide +kernel
  chooses := .endpoint ⟨rfl, by decide⟩ (by rintro path ⟨⟨⟩, -⟩)
  configures := ⟨{}, .usual (by rintro path ⟨⟨⟩, -⟩)⟩
  requests := by
    obtain ⟨request, hrequest, htarget⟩ := exists_schemaRequest_serviceUrl
    exact ⟨.fixed [], request, rfl, hrequest, by rw [htarget]; rfl⟩
  writable := writable_output (FileTree.isFile_empty _) rfl

/-- Nothing is made of an internal error. -/
theorem not_produces_serverError (text : RawText) :
    ¬ Produces (besideService (.answer 500 (.text ""))) serviceInvocation text := by
  rintro ⟨hstages, -⟩
  obtain ⟨target, settings, habsolute, htext⟩ :=
    textOf_of_queries (queries_besideService (.answer 500 (.text "")))
  have hreply : Service.schemaOfReply serviceUrl target (.answer 500 (.text "")) =
      .error (.status 500 target.text) := Service.schemaOfReply_of_failure _ _ rfl habsolute
  rw [textOf_eq_ok_iff.2 hstages] at htext
  change _ = ((Service.schemaOfReply serviceUrl target (.answer 500 (.text ""))).mapError _ >>= _)
    at htext
  rw [hreply] at htext
  cases htext

/-- An internal error of the service is foreseen. -/
theorem isReported_run_serverError :
    Queries (besideService (.answer 500 (.text ""))) askingService serviceInvocation serviceUrl ∧
      (run (besideService (.answer 500 (.text ""))) askingService).IsReported := by
  refine ⟨queries_besideService _, (isReported_run_iff (queries_besideService _)).2 ⟨?_, ?_⟩⟩
  · rintro (⟨hstatus, -⟩ | ⟨hstatus, -, -⟩ | ⟨hstatus, -, -, -, -⟩) <;> cases hstatus
  · exact fun text hproduces => absurd hproduces (not_produces_serverError text)

theorem not_isReported_of_isUnforeseen {reply : Service.Reply}
    (h : Service.IsUnforeseen reply) :
    ¬ (run (besideService reply) askingService).IsReported := by
  have hqueries := queries_besideService reply
  rw [isReported_run_iff_forall_told hqueries.asks, forall_told_iff_of_queries hqueries]
  exact fun hboth => hboth.1 h

/-- Data that are no object. -/
def numberAsData : Json :=
  .obj [("data", .int 1)]

/-- An error whose message is a number. -/
def numberAsMessage : Json :=
  .obj [("message", .int 1)]

/-- A page in place of JSON, data of another shape and an error whose message is a number end a
run without a word. -/
theorem not_isReported_run_unforeseen :
    ¬ (run (besideService (.answer 200 (.text "<html>"))) askingService).IsReported ∧
      ¬ (run (besideService (.answer 200 (.json numberAsData))) askingService).IsReported ∧
      ¬ (run (besideService (.answer 200 (.json (.obj [("errors", .arr [numberAsMessage])]))))
        askingService).IsReported := by
  refine ⟨not_isReported_of_isUnforeseen ?_, not_isReported_of_isUnforeseen ?_,
    not_isReported_of_isUnforeseen ?_⟩
  · have hbody : (Service.Body.text "<html>").value.toOption.isNone := by decide +kernel
    cases hvalue : (Service.Body.text "<html>").value with
    | error error => exact .notJson rfl hvalue
    | ok value => simp [hvalue, Except.toOption] at hbody
  · refine .misshapen rfl rfl fun told htold => ?_
    cases Service.readReply_eq_ok_iff.2 htold
  · have hreply : Service.IsReply (.obj [("errors", .arr [numberAsMessage])])
        { schema := none, errors := [numberAsMessage] } := Service.readReply_eq_ok_iff.1 rfl
    exact .strangeMessage rfl rfl hreply List.mem_cons_self ⟨.int 1, rfl, by simp⟩

end Command
end ResolverTypings
