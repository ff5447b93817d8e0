import ResolverTypings.Proofs.Service.Replies

/-!
# What comes of fetching a schema

The answer of a service goes through five checks, one after the other: its status, whether it is
JSON, its shape, whether it reports errors, and whether there is a schema in it. The schema is
fetched if it passes them all. If it does not, the fault belongs to the first check that it fails.
Reported errors are passed on with a message that mentions each of them, unless one of them has a
message of its own that is no text.
-/
namespace ResolverTypings.Service

open Text (RawText)

/-! ## Requests in order -/

/-- A service can be asked for its schema: the request can be made, and its URL names a host. -/
def CanAsk (url : String) (credentials : Credentials) : Prop :=
  ∃ request, schemaRequest url credentials = .ok request ∧ request.target.isAbsolute = true

theorem CanAsk.exists_outcome_eq {url : String} {credentials : Credentials}
    (h : CanAsk url credentials) :
    ∃ target : Url, target.isAbsolute = true ∧
      ∀ reply, (attempt url credentials reply).outcome = schemaOfReply url target reply := by
  obtain ⟨request, hrequest, habsolute⟩ := h
  exact ⟨request.target, habsolute, outcome_attempt hrequest⟩

/-! ## What a value tells -/

/-- The member for errors is missing, null or empty. -/
def ReportsNothing (value : Json) : Prop :=
  value.member? "errors" = none ∨ value.member? "errors" = some .null ∨
    value.member? "errors" = some (.arr [])

/-- There is a service with a schema in the data. -/
def HoldsSchema (value : Json) (schema : RawText) : Prop :=
  ∃ data service, value.member? "data" = some data ∧ data.member? "_service" = some service ∧
    service.member? "sdl" = some (.str schema)

theorem isObject_of_member? {value member : Json} {name : String}
    (h : value.member? name = some member) : IsObject value := by
  cases value with
  | obj members => exact ⟨members, rfl⟩
  | _ => simp [Json.member?] at h

theorem presentMember_eq_none_iff {value : Json} {name : String} :
    presentMember value name = none ↔
      value.member? name = none ∨ value.member? name = some .null := by
  unfold presentMember
  split <;> simp_all

theorem presentMember_eq_some_iff {value member : Json} {name : String} :
    presentMember value name = some member ↔
      value.member? name = some member ∧ member ≠ .null := by
  unfold presentMember
  split
  · next h => simp [h]
  · next h =>
    simp only [h, reduceCtorEq, Option.some.injEq, false_iff, not_and, not_not]
    exact Eq.symm
  · next hnull =>
    refine ⟨fun h => ⟨h, ?_⟩, And.left⟩
    rintro rfl
    exact hnull h

/-- What holds a schema is an object on each level, so no member on the way is null. -/
theorem holdsSchema_iff_presentMember {value : Json} {schema : RawText} :
    HoldsSchema value schema ↔ ∃ data service, presentMember value "data" = some data ∧
      presentMember data "_service" = some service ∧
      service.member? "sdl" = some (.str schema) := by
  constructor
  · rintro ⟨data, service, hdata, hservice, hschema⟩
    refine ⟨data, service, presentMember_eq_some_iff.2 ⟨hdata, ?_⟩,
      presentMember_eq_some_iff.2 ⟨hservice, ?_⟩, hschema⟩
    · rintro rfl
      simp [Json.member?] at hservice
    · rintro rfl
      simp [Json.member?] at hschema
  · rintro ⟨data, service, hdata, hservice, hschema⟩
    exact ⟨data, service, (presentMember_eq_some_iff.1 hdata).1,
      (presentMember_eq_some_iff.1 hservice).1, hschema⟩

namespace IsReply

variable {value : Json} {told : Told}

theorem errors_eq_nil_iff (h : IsReply value told) : told.errors = [] ↔ ReportsNothing value := by
  have herrors := h.errors
  generalize hmember : presentMember value "errors" = member at herrors
  generalize told.errors = errors at herrors
  cases herrors with
  | absent =>
    refine iff_of_true rfl ?_
    rcases presentMember_eq_none_iff.1 hmember with hnone | hnull
    · exact .inl hnone
    · exact .inr (.inl hnull)
  | present herrors =>
    obtain ⟨rfl, -⟩ := herrors
    obtain ⟨hmember, -⟩ := presentMember_eq_some_iff.1 hmember
    simp [ReportsNothing, hmember]

/-- The errors are those of the member for them. -/
theorem errors_eq (h : IsReply value told) {errors : List Json}
    (herrors : value.member? "errors" = some (.arr errors)) : told.errors = errors := by
  have hmember : presentMember value "errors" = some (.arr errors) :=
    presentMember_eq_some_iff.2 ⟨herrors, by simp⟩
  have htold := h.errors
  rw [hmember] at htold
  generalize told.errors = found at htold
  cases htold with
  | present htold =>
    obtain ⟨heq, -⟩ := htold
    exact (Json.arr.inj heq).symm

theorem schema_eq_some_iff (h : IsReply value told) {schema : RawText} :
    told.schema = some schema ↔ HoldsSchema value schema := by
  rw [holdsSchema_iff_presentMember]
  have htold := h.data
  generalize told.schema = found at htold
  constructor
  · rintro rfl
    generalize presentMember value "data" = member at htold ⊢
    cases htold with
    | present htold =>
      obtain ⟨-, htold⟩ := htold
      generalize hservice : presentMember _ "_service" = member' at htold
      cases htold with
      | present htold =>
        obtain ⟨text, htext, hsome⟩ := htold
        obtain rfl := Option.some.inj hsome
        exact ⟨_, _, rfl, hservice, htext⟩
  · rintro ⟨data, service, hdata, hservice, hschema⟩
    rw [hdata] at htold
    cases htold with
    | present htold =>
      obtain ⟨-, htold⟩ := htold
      rw [hservice] at htold
      cases htold with
      | present htold =>
        obtain ⟨text, htext, rfl⟩ := htold
        cases hschema.symm.trans htext
        rfl

end IsReply

/-- A value with a schema and without errors has the shape of a reply. -/
theorem isReply_of_holdsSchema {value : Json} {schema : RawText} (hquiet : ReportsNothing value)
    (hschema : HoldsSchema value schema) :
    IsReply value { schema := some schema, errors := [] } := by
  obtain ⟨data, service, hdata, hservice, htext⟩ := holdsSchema_iff_presentMember.1 hschema
  have hdata' := (presentMember_eq_some_iff.1 hdata).1
  have hservice' := (presentMember_eq_some_iff.1 hservice).1
  refine ⟨isObject_of_member? hdata', ?_, ?_⟩
  · rw [hdata]
    refine .present ⟨isObject_of_member? hservice', ?_⟩
    rw [hservice]
    exact .present ⟨schema, htext, rfl⟩
  · rcases hquiet with hnone | hnull | hempty
    · rw [presentMember_eq_none_iff.2 (.inl hnone)]
      exact .absent
    · rw [presentMember_eq_none_iff.2 (.inr hnull)]
      exact .absent
    · rw [presentMember_eq_some_iff.2 ⟨hempty, by simp⟩]
      exact .present ⟨rfl, by simp⟩

/-! ## Checks -/

/-- What is checked of an answer. -/
inductive Check where
  | status
  | json
  | shape
  | errors
  | schema
  deriving Repr, DecidableEq, Inhabited

/-- All checks in their order. -/
def checks : List Check := [.status, .json, .shape, .errors, .schema]

/-- Whether an answer passes a check by itself. -/
def Check.Passes (status : Int) (body : Body) : Check → Prop
  | .status => 200 ≤ status ∧ status < 300
  | .json => ∃ value, body.value = .ok value
  | .shape => ∃ value told, body.value = .ok value ∧ IsReply value told
  | .errors => ∃ value, body.value = .ok value ∧ ReportsNothing value
  | .schema => ∃ value schema, body.value = .ok value ∧ HoldsSchema value schema

/-- The check that an error comes from. -/
def FetchError.check? : FetchError → Option Check
  | .status .. => some .status
  | .notText | .notJson _ => some .json
  | .misshapen _ => some .shape
  | .reported .. | .messageNotText .. => some .errors
  | .noSchema _ => some .schema
  | .notAscii | .badUrl _ | .badHost _ | .unreachable _ | .noHost _ => none

theorem isSuccess_iff {status : Int} : isSuccess status = true ↔ 200 ≤ status ∧ status < 300 := by
  simp [isSuccess]

/-! ## The value of an answer -/

section Values

variable {value : Json} (url : String)

theorem exists_misshapen (h : ∀ told, ¬ IsReply value told) :
    ∃ problems, schemaOfValue url value = .error (.misshapen problems) := by
  cases hread : readReply value with
  | ok told => exact absurd (readReply_eq_ok_iff.1 hread) (h told)
  | error problems => exact ⟨problems, schemaOfValue_of_misshapen hread url⟩

/-- Errors are passed on, or one of them has a message that is no text. -/
theorem exists_error_of_errors {told : Told} (h : IsReply value told)
    (herrors : ¬ ReportsNothing value) :
    ∃ error, schemaOfValue url value = .error error ∧ error.check? = some .errors := by
  have hsome : told.errors ≠ [] := fun hnil => herrors (h.errors_eq_nil_iff.1 hnil)
  rw [schemaOfValue_of_errors h hsome]
  rcases errorMessages_cases 0 told.errors with ⟨messages, hok, -⟩ | ⟨-, strange, message, hfault⟩
  · rw [hok]
    exact ⟨_, rfl, rfl⟩
  · rw [hfault]
    exact ⟨_, rfl, rfl⟩

theorem schemaOfValue_eq_noSchema {told : Told} (h : IsReply value told)
    (hquiet : ReportsNothing value) (hschema : ∀ schema, ¬ HoldsSchema value schema) :
    schemaOfValue url value = .error (.noSchema url) := by
  have hnil := h.errors_eq_nil_iff.2 hquiet
  have hnone : told.schema = none := by
    rw [Option.eq_none_iff_forall_ne_some]
    exact fun schema hsome => hschema schema (h.schema_eq_some_iff.1 hsome)
  obtain ⟨schema, errors⟩ := told
  subst hnil hnone
  exact schemaOfValue_of_noSchema h url

end Values

section Answers

variable {status : Int} {body : Body} {url : String} {target : Url}

/-- An answer that fails a check first fails with an error of this check. -/
theorem exists_error_of_isFirst (habsolute : target.isAbsolute = true) {check : Check}
    (h : IsFirst (fun check => ¬ check.Passes status body) checks check) :
    ∃ error, schemaOfReply url target (.answer status body) = .error error ∧
      error.check? = some check := by
  simp only [checks, isFirst_cons_iff, not_isFirst_nil, not_not, and_false, or_false] at h
  rcases h with ⟨hstatus, rfl⟩ | ⟨hstatus, h⟩
  · have hfailure : isSuccess status = false := by
      rw [Check.Passes, ← isSuccess_iff] at hstatus
      simpa using hstatus
    exact ⟨_, schemaOfReply_of_failure body url hfailure habsolute, rfl⟩
  rw [schemaOfReply_of_success body url (isSuccess_iff.2 hstatus) habsolute]
  cases hbody : body.value with
  | error error =>
    rcases h with ⟨-, rfl⟩ | ⟨⟨value, hvalue⟩, -⟩
    · refine ⟨error, rfl, ?_⟩
      rcases Body.value_eq_error hbody with rfl | ⟨_, rfl⟩ <;> rfl
    · cases hbody.symm.trans hvalue
  | ok value =>
    change ∃ error, schemaOfValue url value = .error error ∧ _
    simp only [Check.Passes, hbody, Except.ok.injEq, exists_and_left, exists_eq', exists_eq_left',
      not_exists, not_true_eq_false, false_and, false_or, true_and] at h
    rcases h with ⟨hshape, rfl⟩ | ⟨⟨told, hreply⟩, ⟨herrors, rfl⟩ | ⟨hquiet, hschema, rfl⟩⟩
    · obtain ⟨problems, hfails⟩ := exists_misshapen url hshape
      exact ⟨_, hfails, rfl⟩
    · exact exists_error_of_errors url hreply herrors
    · exact ⟨_, schemaOfValue_eq_noSchema url hreply hquiet hschema, rfl⟩

/-- An answer without errors and with a schema gives the schema. -/
theorem schemaOfReply_eq_ok (url : String) (habsolute : target.isAbsolute = true) {value : Json}
    {schema : RawText} (hstatus : 200 ≤ status ∧ status < 300) (hvalue : body.value = .ok value)
    (hquiet : ReportsNothing value) (hschema : HoldsSchema value schema) :
    schemaOfReply url target (.answer status body) = .ok schema := by
  have htells : Tells (.answer status body) schema :=
    .intro (isSuccess_iff.2 hstatus) hvalue (isReply_of_holdsSchema hquiet hschema)
  exact htells.schemaOfReply_eq_ok url habsolute

/-- An answer that passes all checks holds a schema and reports nothing. -/
theorem exists_of_forall_passes (h : ∀ check ∈ checks, check.Passes status body) :
    (200 ≤ status ∧ status < 300) ∧
      ∃ value schema, body.value = .ok value ∧ ReportsNothing value ∧ HoldsSchema value schema := by
  obtain ⟨value, hvalue, hquiet⟩ := h .errors (by decide)
  obtain ⟨other, schema, hother, hschema⟩ := h .schema (by decide)
  cases hvalue.symm.trans hother
  exact ⟨h .status (by decide), value, schema, hvalue, hquiet, hschema⟩

/-- Either some check fails first, or there is a schema. -/
theorem exists_isFirst_or_exists_schema (status : Int) (body : Body) :
    (∃ check, IsFirst (fun check => ¬ check.Passes status body) checks check) ∨
      ((200 ≤ status ∧ status < 300) ∧ ∃ value schema,
        body.value = .ok value ∧ ReportsNothing value ∧ HoldsSchema value schema) := by
  by_cases h : ∀ check ∈ checks, check.Passes status body
  · exact .inr (exists_of_forall_passes h)
  · refine .inl (exists_isFirst_iff.2 ?_)
    simpa using h

end Answers

/-- **Exactly when a schema is fetched.** Whatever a service answers that can be asked, the schema
that is fetched is the one in its data, provided that the answer is a success and reports nothing.
Every other answer ends in an error, which belongs to the first check that the answer fails. -/
theorem fetches_iff_holdsSchema {url : String} {credentials : Credentials}
    (hasks : CanAsk url credentials) (status : Int) (body : Body) :
    (∀ schema, (attempt url credentials (.answer status body)).outcome = .ok schema ↔
        (200 ≤ status ∧ status < 300) ∧
          ∃ value, body.value = .ok value ∧ ReportsNothing value ∧ HoldsSchema value schema) ∧
      (∀ check, IsFirst (fun check => ¬ check.Passes status body) checks check ↔
        ∃ error, (attempt url credentials (.answer status body)).outcome = .error error ∧
          error.check? = some check) ∧
      ((∃ schema, (attempt url credentials (.answer status body)).outcome = .ok schema) ∨
        ∃ error check, (attempt url credentials (.answer status body)).outcome = .error error ∧
          error.check? = some check) := by
  obtain ⟨target, habsolute, houtcome⟩ := hasks.exists_outcome_eq
  rw [houtcome]
  have herror : ∀ check, IsFirst (fun check => ¬ check.Passes status body) checks check →
      ∃ error, schemaOfReply url target (.answer status body) = .error error ∧
        error.check? = some check :=
    fun check => exists_error_of_isFirst habsolute
  rcases exists_isFirst_or_exists_schema status body with
    ⟨first, hfirst⟩ | ⟨hstatus, value, text, hvalue, hquiet, htext⟩
  · obtain ⟨error, hfails, hcheck⟩ := herror first hfirst
    refine ⟨fun schema => ⟨fun hok => ?_, ?_⟩, fun check => ⟨herror check, ?_⟩,
      .inr ⟨error, first, hfails, hcheck⟩⟩
    · cases hfails.symm.trans hok
    · rintro ⟨hstatus, value, hvalue, hquiet, hschema⟩
      exact schemaOfReply_eq_ok _ habsolute hstatus hvalue hquiet hschema
    · rintro ⟨other, hother, hcheck'⟩
      cases hfails.symm.trans hother
      obtain rfl := Option.some.inj (hcheck.symm.trans hcheck')
      exact hfirst
  · have hok := schemaOfReply_eq_ok url habsolute hstatus hvalue hquiet htext
    refine ⟨fun schema => ⟨fun hschema => ?_, ?_⟩, fun check => ⟨herror check, ?_⟩, .inl ⟨text, hok⟩⟩
    · cases hok.symm.trans hschema
      exact ⟨hstatus, value, hvalue, hquiet, htext⟩
    · rintro ⟨hstatus, value, hvalue, hquiet, hschema⟩
      exact schemaOfReply_eq_ok _ habsolute hstatus hvalue hquiet hschema
    · rintro ⟨error, hfails, -⟩
      cases hok.symm.trans hfails

/-- A gateway in front of services. -/
def gatewayUrl : String := "http://gateway.local/graphql"

/-- The service behind it is told by its host. -/
def behindGateway : Credentials := .fixed [("Host", "products.local")]

theorem canAsk_gateway : CanAsk gatewayUrl behindGateway := by
  have htarget : (Url.parse gatewayUrl >>= Url.target) =
      .ok { scheme := "http", host := "gateway.local", path := "/graphql" } := by decide +kernel
  have htells : (schemaHeaders behindGateway).tellHost = true := by decide +kernel
  refine ⟨_, schemaRequest_eq_ok (by decide +kernel) htarget fun htold => ?_, rfl⟩
  cases htells.symm.trans htold

/-- A reply with a schema in its data, and a member for errors. -/
def productsReply (errors : Json) : Json :=
  .obj [("errors", errors), ("extensions", .obj []),
    ("data", .obj [("_service", .obj [("name", .null), ("sdl", .str "type Query")])])]

/-- An empty list of errors does no harm to the schema. Beside any error the schema is lost, and
the fault is that errors are reported. -/
theorem fetches_productsReply : CanAsk gatewayUrl behindGateway ∧
    (attempt gatewayUrl behindGateway (.answer 200 (.json (productsReply (.arr []))))).outcome =
      .ok "type Query" ∧
    ∃ error, (attempt gatewayUrl behindGateway
        (.answer 200 (.json (productsReply (.arr [.obj []]))))).outcome = .error error ∧
      error.check? = some .errors := by
  have hquiet := fetches_iff_holdsSchema canAsk_gateway 200 (.json (productsReply (.arr [])))
  have hfaulty :=
    fetches_iff_holdsSchema canAsk_gateway 200 (.json (productsReply (.arr [.obj []])))
  have hreply : IsReply (productsReply (.arr [.obj []]))
      { schema := some "type Query", errors := [.obj []] } := readReply_eq_ok_iff.1 rfl
  refine ⟨canAsk_gateway, (hquiet.1 _).2 ⟨by decide, _, rfl, .inr (.inr rfl), _, _, rfl, rfl, rfl⟩,
    (hfaulty.2.1 .errors).1 ⟨[.status, .json, .shape], [.schema], rfl, ?_, ?_⟩⟩
  · rintro ⟨value, ⟨⟩, hnothing⟩
    cases hreply.errors_eq_nil_iff.2 hnothing
  · simp only [List.forall_mem_cons, not_not]
    exact ⟨⟨by decide, by decide⟩, ⟨_, rfl⟩, ⟨_, _, rfl, hreply⟩, by simp⟩

/-! ## Reported errors -/

/-- A text mentions others one behind the other. -/
inductive Mentions : RawText → List RawText → Prop where
  | nothing (text : RawText) : Mentions text []
  | next (before part : RawText) {text : RawText} {parts : List RawText} (h : Mentions text parts) :
      Mentions (before ++ part ++ text) (part :: parts)

theorem mentions_append_intercalate (separator : RawText) (parts : List RawText)
    (before : RawText) : Mentions (before ++ List.intercalate separator parts) parts := by
  induction parts generalizing before with
  | nil => exact .nothing _
  | cons part parts ih =>
    cases parts with
    | nil =>
      rw [List.intercalate_singleton, ← List.append_nil (before ++ part)]
      exact .next before part (.nothing [])
    | cons other rest =>
      rw [List.intercalate_cons_cons, List.append_assoc, ← List.append_assoc]
      exact .next before part (ih separator)

/-- The first error with a message that is no text ends the reading of messages. -/
theorem errorMessages_append_of_strange {before : List Json} {error message : Json}
    (hbefore : ∀ other ∈ before, ¬ HasStrangeMessage other)
    (hmessage : error.member? "message" = some message) (hstrange : ∀ text, message ≠ .str text)
    (position : Nat) (after : List Json) :
    errorMessages position (before ++ error :: after) =
      .error (.messageNotText (position + before.length) message) := by
  induction before generalizing position with
  | nil => exact errorMessages_cons_of_strange hmessage hstrange position after
  | cons other before ih =>
    rw [List.forall_mem_cons] at hbefore
    obtain ⟨text, htext⟩ := (hasMessage_or_strange other).resolve_right hbefore.1
    rw [List.cons_append, errorMessages_cons_of_hasMessage htext, ih hbefore.2, List.length_cons,
      Nat.add_right_comm, Nat.add_assoc]
    rfl

/-- An attempt ends with a report of errors, as they are and with a message that mentions each of
them in order. -/
def Reports (outcome : Except FetchError RawText) (errors : List Json) : Prop :=
  ∃ messages, outcome = .error (.reported messages errors) ∧
    List.Forall₂ HasMessage errors messages ∧
    Mentions (FetchError.reported messages errors).message messages

/-- **Reported errors are passed on.** If the answer of a service has the shape of a reply and
reports errors, then the attempt ends with a report of all of them, unless one has a message that
is no text. If one has, the attempt ends with the fault that the first such message is no text. -/
theorem reports_iff_not_hasStrangeMessage {url : String} {credentials : Credentials}
    (hasks : CanAsk url credentials) {status : Int} {body : Body} {value : Json}
    {errors : List Json} (hstatus : 200 ≤ status ∧ status < 300) (hvalue : body.value = .ok value)
    (hshape : ∃ told, IsReply value told)
    (herrors : value.member? "errors" = some (.arr errors)) (hsome : errors ≠ []) :
    (Reports (attempt url credentials (.answer status body)).outcome errors ↔
        ∀ error ∈ errors, ¬ HasStrangeMessage error) ∧
      ∀ before error after message, errors = before ++ error :: after →
        (∀ other ∈ before, ¬ HasStrangeMessage other) →
        error.member? "message" = some message → (∀ text, message ≠ .str text) →
        (attempt url credentials (.answer status body)).outcome =
          .error (.messageNotText before.length message) := by
  obtain ⟨target, habsolute, houtcome⟩ := hasks.exists_outcome_eq
  obtain ⟨told, hreply⟩ := hshape
  obtain rfl := hreply.errors_eq herrors
  have hstages : (attempt url credentials (.answer status body)).outcome =
      (errorMessages 0 told.errors >>= fun messages => .error (.reported messages told.errors)) := by
    rw [houtcome, schemaOfReply_of_success body url (isSuccess_iff.2 hstatus) habsolute, hvalue]
    exact schemaOfValue_of_errors hreply hsome url
  rw [hstages]
  constructor
  · rcases errorMessages_cases 0 told.errors with ⟨messages, hok, hmessages⟩ |
      ⟨⟨error, herror, hstrange⟩, position, message, hfault⟩
    · rw [hok]
      refine iff_of_true ⟨messages, rfl, hmessages, ?_⟩
        fun error => not_strange_of_forall₂ hmessages
      exact mentions_append_intercalate _ messages _
    · rw [hfault]
      refine iff_of_false ?_ fun hnone => hnone error herror hstrange
      rintro ⟨messages, hreported, -⟩
      cases hreported
  · intro before error after message hsplit hbefore hmessage hstrange
    have hfault := errorMessages_append_of_strange hbefore hmessage hstrange 0 after
    rw [hsplit, hfault, Nat.zero_add]
    rfl

/-- An error without a message of its own, behind one with a message. -/
def mixedErrors : List Json :=
  [.obj [("message", .str "No field")], .obj [("code", .int 3)]]

theorem reports_mixedErrors : CanAsk gatewayUrl behindGateway ∧
    Reports (attempt gatewayUrl behindGateway
      (.answer 200 (.json (productsReply (.arr mixedErrors))))).outcome mixedErrors := by
  have hreply : IsReply (productsReply (.arr mixedErrors))
      { schema := some "type Query", errors := mixedErrors } := readReply_eq_ok_iff.1 rfl
  refine ⟨canAsk_gateway, (reports_iff_not_hasStrangeMessage canAsk_gateway (by decide) rfl
    ⟨_, hreply⟩ rfl (by simp [mixedErrors])).1.2 ?_⟩
  simp only [mixedErrors, List.forall_mem_cons]
  refine ⟨HasMessage.not_strange (.inl rfl), HasMessage.not_strange (.inr ⟨rfl, rfl⟩), ?_⟩
  simp

/-- An error whose message is a number. -/
def countedErrors : List Json :=
  [.obj [("message", .int 1)]]

/-- It is not passed on, although the answer has the shape of a reply. -/
theorem not_reports_countedErrors : CanAsk gatewayUrl behindGateway ∧
    (∃ told, IsReply (productsReply (.arr countedErrors)) told) ∧
    ¬ Reports (attempt gatewayUrl behindGateway
      (.answer 200 (.json (productsReply (.arr countedErrors))))).outcome countedErrors := by
  have hreply : IsReply (productsReply (.arr countedErrors))
      { schema := some "type Query", errors := countedErrors } := readReply_eq_ok_iff.1 rfl
  obtain ⟨target, habsolute, houtcome⟩ := canAsk_gateway.exists_outcome_eq
  have hanswer : (attempt gatewayUrl behindGateway
      (.answer 200 (.json (productsReply (.arr countedErrors))))).outcome =
        schemaOfValue gatewayUrl (productsReply (.arr countedErrors)) :=
    (houtcome _).trans (schemaOfReply_of_success _ gatewayUrl rfl habsolute)
  refine ⟨canAsk_gateway, ⟨_, hreply⟩, ?_⟩
  rw [hanswer, schemaOfValue_of_errors hreply (by simp [countedErrors])]
  rintro ⟨messages, ⟨⟩, -⟩

end ResolverTypings.Service
