import ResolverTypings.Proofs.Sequences
import ResolverTypings.Service.Fetch

/-!
# The shape of a reply

A reply tells a schema in an object inside an object inside an object, and beside it a list of
objects for errors. Every part but the innermost may be missing or null. A value is read just
where it has this shape. What goes wrong otherwise is of two kinds: faults that the service or
the network is to blame for in a way that is reported, and answers that nobody has foreseen.
-/
namespace ResolverTypings.Service

open Text (RawText)

/-! ## Shapes -/

/-- A value is an object. -/
def IsObject (value : Json) : Prop :=
  ∃ members, value = .obj members

/-- What a member tells that may be missing or null. -/
inductive Optionally {α : Type} (tells : Json → α → Prop) (usual : α) :
    Option Json → α → Prop where
  | absent : Optionally tells usual none usual
  | present {member : Json} {told : α} (h : tells member told) :
      Optionally tells usual (some member) told

/-- A service tells a schema, which it has to. -/
def IsService (value : Json) (schema : Option RawText) : Prop :=
  ∃ text, value.member? "sdl" = some (.str text) ∧ schema = some text

/-- Data tell what the service in them tells. -/
def IsData (value : Json) (schema : Option RawText) : Prop :=
  IsObject value ∧ Optionally IsService none (presentMember value "_service") schema

/-- Errors are objects in a list. -/
def IsErrors (value : Json) (errors : List Json) : Prop :=
  value = .arr errors ∧ ∀ error ∈ errors, IsObject error

/-- A reply tells the schema of its data, and errors. -/
structure IsReply (value : Json) (told : Told) : Prop where
  object : IsObject value
  data : Optionally IsData none (presentMember value "data") told.schema
  errors : Optionally IsErrors [] (presentMember value "errors") told.errors

/-! ## Reading -/

theorem readService_eq_iff {value : Json} {schema : Option RawText} :
    readService value = ([], schema) ↔ IsService value schema := by
  cases value with
  | obj members =>
    simp only [readService, IsService]
    split
    · next h => simp [h]
    · next text h => simp [h, eq_comm]
    · next other hother h =>
      constructor
      · simp
      · rintro ⟨text, htext, -⟩
        exact absurd (Option.some.inj (h.symm.trans htext)) (hother text)
  | _ => simp [readService, IsService, Json.member?]

/-- What an optional member tells is read by the reader of what it tells. -/
theorem getD_map_eq_iff {α : Type} {tells : Json → α → Prop} {usual : α}
    {read : Json → List Json.Problem × α}
    (hread : ∀ member told, read member = ([], told) ↔ tells member told)
    {member : Option Json} {told : α} :
    (member.map read).getD ([], usual) = ([], told) ↔ Optionally tells usual member told := by
  cases member with
  | none =>
    constructor
    · rintro ⟨⟩
      exact .absent
    · rintro ⟨⟩
      rfl
  | some member =>
    simp only [Option.map_some, Option.getD_some, hread]
    constructor
    · exact .present
    · rintro ⟨⟩
      assumption

theorem readData_eq_iff {value : Json} {schema : Option RawText} :
    readData value = ([], schema) ↔ IsData value schema := by
  cases value with
  | obj members =>
    rw [IsData, ← getD_map_eq_iff fun _ _ => readService_eq_iff]
    simp only [readData, IsObject, Json.obj.injEq, exists_eq', true_and]
    cases presentMember (.obj members) "_service" <;> rfl
  | _ => simp [readData, IsData, IsObject]

theorem errorProblems_eq_nil_iff {position : Nat} {errors : List Json} :
    errorProblems position errors = [] ↔ ∀ error ∈ errors, IsObject error := by
  induction errors generalizing position with
  | nil => simp [errorProblems]
  | cons error rest ih => cases error <;> simp [errorProblems, IsObject, ih]

theorem readErrors_eq_iff {value : Json} {errors : List Json} :
    readErrors value = ([], errors) ↔ IsErrors value errors := by
  cases value with
  | arr items =>
    simp only [readErrors, IsErrors, Prod.mk.injEq, errorProblems_eq_nil_iff, Json.arr.injEq]
    constructor
    · rintro ⟨hobjects, rfl⟩
      exact ⟨rfl, hobjects⟩
    · rintro ⟨rfl, hobjects⟩
      exact ⟨hobjects, rfl⟩
  | _ => simp [readErrors, IsErrors]

/-- A value is read just where it has the shape of a reply. -/
theorem readReply_eq_ok_iff {value : Json} {told : Told} :
    readReply value = .ok told ↔ IsReply value told := by
  cases value with
  | obj members =>
    have hshape : IsReply (.obj members) told ↔
        ((presentMember (.obj members) "data").map readData).getD ([], none) =
            ([], told.schema) ∧
          ((presentMember (.obj members) "errors").map readErrors).getD ([], []) =
            ([], told.errors) := by
      rw [getD_map_eq_iff fun _ _ => readData_eq_iff, getD_map_eq_iff fun _ _ => readErrors_eq_iff]
      exact ⟨fun h => ⟨h.data, h.errors⟩, fun h => ⟨⟨members, rfl⟩, h.1, h.2⟩⟩
    rw [hshape, readReply]
    generalize ((presentMember (.obj members) "data").map readData).getD ([], none) = data
    generalize ((presentMember (.obj members) "errors").map readErrors).getD ([], []) = errors
    obtain ⟨dataProblems, schema⟩ := data
    obtain ⟨errorProblems, found⟩ := errors
    obtain ⟨toldSchema, toldErrors⟩ := told
    cases dataProblems with
    | nil => cases errorProblems <;> simp
    | cons problem rest => simp
  | _ =>
    simp only [readReply, reduceCtorEq, false_iff]
    rintro ⟨⟨members, hobject⟩, -, -⟩
    cases hobject

/-! ## Messages -/

/-- The message of an error: the one it tells, or else the error as a whole. -/
def HasMessage (error : Json) (text : RawText) : Prop :=
  error.member? "message" = some (.str text) ∨
    error.member? "message" = none ∧ text = RawText.ofString error.inline

/-- An error tells a message that is no text. -/
def HasStrangeMessage (error : Json) : Prop :=
  ∃ message, error.member? "message" = some message ∧ ∀ text, message ≠ .str text

theorem HasMessage.not_strange {error : Json} {text : RawText} (h : HasMessage error text) :
    ¬ HasStrangeMessage error := by
  rintro ⟨message, hmessage, hstrange⟩
  rcases h with h | ⟨h, -⟩
  · exact hstrange text (Option.some.inj (hmessage.symm.trans h))
  · cases hmessage.symm.trans h

theorem hasMessage_or_strange (error : Json) :
    (∃ text, HasMessage error text) ∨ HasStrangeMessage error := by
  cases h : error.member? "message" with
  | none => exact .inl ⟨_, .inr ⟨h, rfl⟩⟩
  | some message =>
    cases message with
    | str text => exact .inl ⟨text, .inl h⟩
    | _ => exact .inr ⟨_, h, by simp⟩

theorem errorMessages_cons_of_hasMessage {error : Json} {text : RawText}
    (h : HasMessage error text) (position : Nat) (rest : List Json) :
    errorMessages position (error :: rest) =
      (errorMessages (position + 1) rest).map (text :: ·) := by
  rcases h with h | ⟨h, rfl⟩ <;>
    cases hrest : errorMessages (position + 1) rest <;>
      simp [errorMessages, h, hrest, bind, Except.bind, pure, Except.pure, Except.map]

theorem errorMessages_cons_of_strange {error message : Json}
    (hmessage : error.member? "message" = some message) (hstrange : ∀ text, message ≠ .str text)
    (position : Nat) (rest : List Json) :
    errorMessages position (error :: rest) = .error (.messageNotText position message) := by
  cases message with
  | str text => exact absurd rfl (hstrange text)
  | _ => simp [errorMessages, hmessage, throw_eq_error, bind, Except.bind]

/-- Either every error has a message, and they are told in order; or one has a strange message,
and that is the fault. -/
theorem errorMessages_cases (position : Nat) (errors : List Json) :
    (∃ messages, errorMessages position errors = .ok messages ∧
        List.Forall₂ HasMessage errors messages) ∨
      ((∃ error ∈ errors, HasStrangeMessage error) ∧ ∃ strange message,
        errorMessages position errors = .error (.messageNotText strange message)) := by
  induction errors generalizing position with
  | nil => exact .inl ⟨[], rfl, .nil⟩
  | cons error rest ih =>
    rcases hasMessage_or_strange error with ⟨text, htext⟩ | hstrange
    · rw [errorMessages_cons_of_hasMessage htext]
      rcases ih (position + 1) with ⟨messages, hok, hmessages⟩ | ⟨hrest, strange, message, herror⟩
      · exact .inl ⟨text :: messages, by rw [hok]; rfl, .cons htext hmessages⟩
      · obtain ⟨other, hother, hstrange⟩ := hrest
        exact .inr ⟨⟨other, List.mem_cons_of_mem error hother, hstrange⟩, strange, message,
          by rw [herror]; rfl⟩
    · obtain ⟨message, hmessage, hnotText⟩ := id hstrange
      exact .inr ⟨⟨error, List.mem_cons_self, hstrange⟩, position, message,
        errorMessages_cons_of_strange hmessage hnotText position rest⟩

/-- Where every error has a message none is strange. -/
theorem not_strange_of_forall₂ {errors : List Json} {messages : List RawText}
    (h : List.Forall₂ HasMessage errors messages) {error : Json} (herror : error ∈ errors) :
    ¬ HasStrangeMessage error := by
  induction h with
  | nil => cases herror
  | cons hfirst _ ih =>
    rcases List.mem_cons.1 herror with rfl | herror
    · exact hfirst.not_strange
    · exact ih herror

/-! ## Stages -/

/-- A body holds no value because its bytes hold no text, or the text is no JSON. -/
theorem Body.value_eq_error {body : Body} {error : FetchError} (h : body.value = .error error) :
    error = .notText ∨ ∃ fault, error = .notJson fault := by
  unfold Body.value at h
  split at h
  · cases h
  · split at h
    · cases h
      exact .inl rfl
    · obtain ⟨fault, -, rfl⟩ := mapError_eq_error_iff.1 h
      exact .inr ⟨fault, rfl⟩

theorem schemaOfValue_of_misshapen {value : Json} {problems : List Json.Problem}
    (h : readReply value = .error problems) (url : String) :
    schemaOfValue url value = .error (.misshapen problems) := by
  simp [schemaOfValue, h, Except.mapError, bind, Except.bind]

theorem schemaOfValue_of_errors {value : Json} {told : Told} (h : IsReply value told)
    (herrors : told.errors ≠ []) (url : String) :
    schemaOfValue url value =
      (errorMessages 0 told.errors >>= fun messages => .error (.reported messages told.errors)) := by
  have hread := readReply_eq_ok_iff.2 h
  simp [schemaOfValue, hread, herrors, Except.mapError, bind, Except.bind, throw_eq_error]

theorem schemaOfValue_of_schema {value : Json} {schema : RawText}
    (h : IsReply value { schema := some schema, errors := [] }) (url : String) :
    schemaOfValue url value = .ok schema := by
  have hread := readReply_eq_ok_iff.2 h
  simp [schemaOfValue, hread, Except.mapError, bind, Except.bind, pure, Except.pure]

theorem schemaOfValue_of_noSchema {value : Json}
    (h : IsReply value { schema := none, errors := [] }) (url : String) :
    schemaOfValue url value = .error (.noSchema url) := by
  have hread := readReply_eq_ok_iff.2 h
  simp [schemaOfValue, hread, Except.mapError, bind, Except.bind, throw_eq_error]

section Answers

variable {status : Int} (body : Body) (url : String) {target : Url}

theorem schemaOfReply_of_failure (hstatus : isSuccess status = false)
    (habsolute : target.isAbsolute) :
    schemaOfReply url target (.answer status body) = .error (.status status target.text) := by
  simp [schemaOfReply, habsolute, hstatus, throw_eq_error]

theorem schemaOfReply_of_success (hstatus : isSuccess status = true)
    (habsolute : target.isAbsolute) :
    schemaOfReply url target (.answer status body) = (body.value >>= schemaOfValue url) := by
  simp [schemaOfReply, habsolute, hstatus]

end Answers

/-! ## Faults -/

/-- Whether it is foreseen that no schema is fetched in this way: a host that cannot be reached, a
status that is no success, errors that the service reports, and a service without a schema. -/
def FetchError.isForeseen : FetchError → Bool
  | .unreachable _ | .status .. | .reported .. | .noSchema _ => true
  | _ => false

/-- A reply that is not foreseen: a success whose body is no JSON, has not the shape of a reply, or
reports an error with a message that is no text. -/
inductive IsUnforeseen : Reply → Prop where
  | notJson {status : Int} {body : Body} {error : FetchError} (hstatus : isSuccess status = true)
      (hbody : body.value = .error error) : IsUnforeseen (.answer status body)
  | misshapen {status : Int} {body : Body} {value : Json} (hstatus : isSuccess status = true)
      (hbody : body.value = .ok value) (hshape : ∀ told, ¬ IsReply value told) :
      IsUnforeseen (.answer status body)
  | strangeMessage {status : Int} {body : Body} {value : Json} {told : Told} {error : Json}
      (hstatus : isSuccess status = true) (hbody : body.value = .ok value)
      (hreply : IsReply value told) (herror : error ∈ told.errors)
      (hmessage : HasStrangeMessage error) : IsUnforeseen (.answer status body)

theorem isForeseen_of_value {body : Body} {error : FetchError} (h : body.value = .error error) :
    error.isForeseen = false := by
  rcases Body.value_eq_error h with rfl | ⟨_, rfl⟩ <;> rfl

/-- The schema that a value tells is missing in an unforeseen way just where the value has not the
shape of a reply or reports an error with a message that is no text. -/
theorem schemaOfValue_unforeseen_iff {url : String} {value : Json} :
    (∃ error, schemaOfValue url value = .error error ∧ error.isForeseen = false) ↔
      (∀ told, ¬ IsReply value told) ∨
        ∃ told, IsReply value told ∧ ∃ error ∈ told.errors, HasStrangeMessage error := by
  cases hread : readReply value with
  | error problems =>
    have hshape : ∀ told, ¬ IsReply value told := by
      intro told htold
      cases hread.symm.trans (readReply_eq_ok_iff.2 htold)
    exact ⟨fun _ => .inl hshape, fun _ => ⟨_, schemaOfValue_of_misshapen hread url, rfl⟩⟩
  | ok told =>
    have hshape := readReply_eq_ok_iff.1 hread
    have hstrange : ((∀ told, ¬ IsReply value told) ∨ ∃ told, IsReply value told ∧
        ∃ error ∈ told.errors, HasStrangeMessage error) ↔
          ∃ error ∈ told.errors, HasStrangeMessage error := by
      constructor
      · rintro (hnone | ⟨other, hother, herror⟩)
        · exact absurd hshape (hnone told)
        · cases hread.symm.trans (readReply_eq_ok_iff.2 hother)
          exact herror
      · exact fun herror => .inr ⟨told, hshape, herror⟩
    rw [hstrange]
    by_cases herrors : told.errors = []
    · obtain ⟨schema, _⟩ := told
      subst herrors
      cases schema with
      | none => simp [schemaOfValue_of_noSchema hshape, FetchError.isForeseen]
      | some text => simp [schemaOfValue_of_schema hshape]
    · rw [schemaOfValue_of_errors hshape herrors]
      rcases errorMessages_cases 0 told.errors with ⟨messages, hok, hmessages⟩ |
        ⟨hsome, strange, message, herror⟩
      · rw [hok]
        constructor
        · rintro ⟨failure, ⟨⟩, hforeseen⟩
          cases hforeseen
        · rintro ⟨other, hother, hstrange⟩
          exact absurd hstrange (not_strange_of_forall₂ hmessages hother)
      · rw [herror]
        exact ⟨fun _ => hsome, fun _ => ⟨_, rfl, rfl⟩⟩

/-- A reply to a request at a host is no reason for an unforeseen fault unless it is unforeseen. -/
theorem schemaOfReply_unforeseen_iff (url : String) {target : Url}
    (habsolute : target.isAbsolute) (reply : Reply) :
    (∃ error, schemaOfReply url target reply = .error error ∧ error.isForeseen = false) ↔
      IsUnforeseen reply := by
  cases reply with
  | unreachable message =>
    constructor
    · rintro ⟨error, ⟨⟩, hforeseen⟩
      cases hforeseen
    · rintro ⟨⟩
  | answer status body =>
    cases hstatus : isSuccess status with
    | true =>
      rw [schemaOfReply_of_success body url hstatus habsolute]
      cases hbody : body.value with
      | error error =>
        exact ⟨fun _ => .notJson hstatus hbody, fun _ => ⟨error, rfl, isForeseen_of_value hbody⟩⟩
      | ok value =>
        change (∃ error, schemaOfValue url value = .error error ∧ _) ↔ _
        rw [schemaOfValue_unforeseen_iff]
        constructor
        · rintro (hshape | ⟨told, hshape, error, herror, hmessage⟩)
          · exact .misshapen hstatus hbody hshape
          · exact .strangeMessage hstatus hbody hshape herror hmessage
        · rintro (⟨-, hother⟩ | ⟨-, hother, hshape⟩ | ⟨-, hother, hshape, herror, hmessage⟩) <;>
            cases hbody.symm.trans hother
          · exact .inl hshape
          · exact .inr ⟨_, hshape, _, herror, hmessage⟩
    | false =>
      rw [schemaOfReply_of_failure body url hstatus habsolute]
      constructor
      · rintro ⟨error, ⟨⟩, hforeseen⟩
        cases hforeseen
      · rintro (⟨hsuccess, -⟩ | ⟨hsuccess, -, -⟩ | ⟨hsuccess, -, -, -, -⟩) <;>
          cases hstatus.symm.trans hsuccess

/-! ## Schemas -/

/-- A reply tells a schema: it is a success, and what its body holds has the shape of a reply, with
the schema and without errors. -/
inductive Tells : Reply → RawText → Prop where
  | intro {status : Int} {body : Body} {value : Json} {schema : RawText}
      (hstatus : isSuccess status = true) (hbody : body.value = .ok value)
      (hshape : IsReply value { schema := some schema, errors := [] }) :
      Tells (.answer status body) schema

/-- The schema of a reply is the one that it tells, as it is. -/
theorem Tells.schemaOfReply_eq_ok {reply : Reply} {schema : RawText} (h : Tells reply schema)
    (url : String) {target : Url} (habsolute : target.isAbsolute) :
    schemaOfReply url target reply = .ok schema := by
  obtain ⟨hstatus, hbody, hshape⟩ := h
  rw [schemaOfReply_of_success _ url hstatus habsolute, hbody]
  exact schemaOfValue_of_schema hshape url

/-! ## Requests -/

/-- A request can be made if its headers can be sent, the URL has a target, and the host can be
told where no header tells it. -/
theorem schemaRequest_eq_ok {url : String} {credentials : Credentials} {target : Url}
    (hheaders : (schemaHeaders credentials).areAscii = true)
    (htarget : (Url.parse url >>= Url.target) = .ok target)
    (hhost : (schemaHeaders credentials).tellHost = false → checkHost target = .ok ()) :
    schemaRequest url credentials = .ok
      { method := "POST", target, headers := schemaHeaders credentials,
        body := .obj [("query", .str schemaQuery)] } := by
  have hsent : (Url.parse url >>= Url.target).mapError FetchError.badUrl = .ok target :=
    mapError_eq_ok_iff.2 htarget
  unfold schemaRequest
  rw [hsent]
  cases htell : (schemaHeaders credentials).tellHost with
  | true => simp [hheaders, htell, bind, Except.bind, pure, Except.pure]
  | false => simp [hheaders, htell, hhost htell, bind, Except.bind, pure, Except.pure]

/-- Where a request can be made, what comes of it is decided by the reply. -/
theorem outcome_attempt {url : String} {credentials : Credentials} {request : Request}
    (h : schemaRequest url credentials = .ok request) (reply : Reply) :
    (attempt url credentials reply).outcome = schemaOfReply url request.target reply := by
  unfold attempt
  rw [h]

end ResolverTypings.Service
