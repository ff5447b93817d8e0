import ResolverTypings.Proofs.TypeScript.Lines

/-!
# Names that a file declares

What is read off the lines of a file is the names of its declarations in order, where all names
in the schema are names of the grammar. So the names that a file declares are known from the
schema, and they are distinct exactly if none of those that the file makes is also the name of
a definition.
-/
namespace ResolverTypings.TypeScript

open Graphql (isName isNamePart)
open Text (RawText CodePoint)

/-! ## Behind the names -/

theorem stops_append {start more : String} {c : Char} (hstart : start.toList.head? = some c)
    (hc : isNamePart c = false) : (start ++ more).toList.takeWhile isNamePart = [] := by
  obtain ⟨rest, hrest⟩ := List.head?_eq_some_iff.1 hstart
  rw [String.toList_append, hrest, List.cons_append, List.takeWhile_cons_of_neg (by simp [hc])]

theorem isNamePart_of_suffixed {name suffix : String} (hname : isName name)
    (hsuffix : suffix.toList.all isNamePart) : ∀ c ∈ (name ++ suffix).toList, isNamePart c := by
  rw [String.toList_append, List.forall_mem_append]
  exact ⟨isNamePart_of_isName hname, List.all_eq_true.1 hsuffix⟩

theorem oneLine_parameters : OneLine (RawText.ofString (resolverParameters ++ " \x7b")) := by
  decide

theorem stops_parameters : (resolverParameters ++ " \x7b").toList.takeWhile isNamePart = [] := by
  decide

theorem oneLine_any : OneLine " = any" := by
  decide

theorem stops_any : " = any".toList.takeWhile isNamePart = [] := by
  decide

/-! ## Declarations -/

/-- A declaration whose name is what its lines declare. -/
structure TopLevel.Readable (declaration : TopLevel) : Prop where
  above : Silent declaration.above
  name : ∀ c ∈ declaration.name.toList, isNamePart c
  behind : OneLine declaration.behind
  stops : declaration.behind.toList.takeWhile isNamePart = []
  below : Silent declaration.below

theorem TopLevel.Readable.introduces {declaration : TopLevel} (h : declaration.Readable) :
    Introduces declaration.text [declaration.name] := by
  have hopening : OneLine declaration.opening.text := by
    cases declaration.opening <;> decide
  have hname := oneLine_of_isNamePart h.name
  have hline := Introduces.line
    (oneLine_append.2 ⟨hopening, oneLine_append.2 ⟨hname, h.behind⟩⟩)
  have hstops : RawText.charsWhile isNamePart declaration.behind = [] := by
    rw [RawText.ofString, RawText.charsWhile_ofChars, h.stops]
  have hdeclared := declaredOn?_opening declaration.opening h.name hstops
  rw [← RawText.ofString, String.ofList_toList] at hdeclared
  rw [hdeclared] at hline
  have hall := Introduces.append (Introduces.append h.above hline) h.below
  simpa only [TopLevel.text, List.append_assoc, List.nil_append, List.append_nil,
    Option.toList_some] using hall

theorem readable_headLevel : ∀ declaration ∈ headLevel, declaration.Readable := by
  have habove : Silent ("// This is a machine generated file.\n" ++
      RawText.ofString "// Use \"gql-tsgen generate\" to regenerate.\n") := by
    have hfirst : Silent ("// This is a machine generated file." ++ RawText.ofString "\n") :=
      Silent.line_of_head (c := '/') rfl (by decide) (by decide)
    have hsecond :
        Silent ("// Use \"gql-tsgen generate\" to regenerate." ++ RawText.ofString "\n") :=
      Silent.line_of_head (c := '/') rfl (by decide) (by decide)
    exact hfirst.append hsecond
  simp only [headLevel, List.forall_mem_cons, List.not_mem_nil, false_imp_iff, implies_true,
    and_true]
  exact ⟨⟨habove, List.all_eq_true.1 (by decide), by decide, by decide, Introduces.empty⟩,
    ⟨Introduces.empty, List.all_eq_true.1 (by decide), by decide, by decide, Introduces.empty⟩,
    ⟨Introduces.empty, List.all_eq_true.1 (by decide), oneLine_ofString_append.2 ⟨by decide, by decide⟩,
      by decide +kernel, Introduces.empty⟩⟩

theorem silent_entries (settings : Settings) {schema : Schema}
    (hnames : ∀ name ∈ schema.names, isName name) :
    ∀ line ∈ (entries settings schema).map (·.text), Silent (line ++ "\n") := by
  simp only [Schema.names, List.forall_mem_append, List.forall_mem_map] at hnames
  obtain ⟨⟨hobjects, henums⟩, hscalars⟩ := hnames
  simp only [entries, List.map_append, List.forall_mem_append, List.forall_mem_map]
  refine ⟨⟨fun object hobject => ?_, fun scalar hscalar => ?_⟩, ?_⟩
  · have hname := oneLine_of_isName (hobjects object hobject)
    have hmark := oneLine_memberMark (schema.rootNames.contains object.name)
    have hentry := Silent.indented (oneLine_append.2 ⟨hname, oneLine_append.2 ⟨hmark,
      oneLine_append.2 ⟨hname, (by decide : OneLine "Resolver<TContext, TInternalReps>")⟩⟩⟩)
    simpa only [objectEntry, memberMark, List.append_assoc] using hentry
  · have hname := oneLine_of_isName (hscalars scalar hscalar)
    have hentry := Silent.indented (oneLine_append.2 ⟨hname, (by decide : OneLine ": any")⟩)
    simpa only [scalarEntry, List.append_assoc] using hentry
  · split
    · intro entry hmem
      obtain ⟨enum, henum, rfl⟩ := List.mem_map.1 hmem
      have hname := oneLine_of_isName (henums enum henum)
      have hentry := Silent.indented (oneLine_append.2 ⟨hname, oneLine_append.2
        ⟨(by decide : OneLine ": \x7b [external: "), oneLine_append.2
        ⟨hname, (by decide : OneLine "External]: any \x7d")⟩⟩⟩)
      simpa only [enumEntry, List.append_assoc] using hentry
    · simp

theorem readable_resolversLevel {entries : List Fragment}
    (hentries : ∀ line ∈ entries.map (·.text), Silent (line ++ "\n")) :
    (resolversLevel entries).Readable where
  above := Silent.lineEnd
  name := List.all_eq_true.1 (by decide : "Resolvers".toList.all isNamePart)
  behind := oneLine_parameters
  stops := stops_parameters
  below := (silent_lineBlock hentries).append silent_brace

section Objects

variable {object : ObjectType} (hnames : ∀ name ∈ object.mentioned, isName name)

include hnames

theorem oneLine_keys {keys : List Record} (hkind : object.kind = .entity keys) :
    OneLine (String.intercalate " | " (keys.map recordText)) := by
  refine oneLine_intercalate (by decide) fun text htext => ?_
  obtain ⟨key, hkey, rfl⟩ := List.mem_map.1 htext
  exact oneLine_recordText (isName_of_mem_key hnames hkind hkey)

theorem readable_aliasLevel : (aliasLevel object).Readable where
  above := Silent.lineEnd
  name := isNamePart_of_suffixed (isName_object hnames) (by decide)
  behind := by
    have hname := oneLine_of_isName (isName_object hnames)
    refine oneLine_ofString_append.2 ⟨oneLine_ofString_append.2
      ⟨oneLine_ofString_append.2 ⟨by decide, hname⟩, by decide⟩, ?_⟩
    split
    · decide
    · rename_i keys hkind
      exact oneLine_ofString_append.2
        ⟨oneLine_ofString_append.2 ⟨by decide, oneLine_keys hnames hkind⟩, by decide⟩
  stops := by
    simp only [aliasLevel, String.append_assoc]
    exact stops_append (c := '<') rfl (by decide)
  below := by
    unfold aliasLevel
    dsimp only
    split
    · exact Silent.lineEnd
    · exact Introduces.empty

theorem silent_fields :
    ∀ line ∈ object.fields.map fieldText, Silent (line ++ "\n") := by
  rw [List.forall_mem_map]
  intro field hfield
  obtain ⟨hname, htype⟩ := List.forall_mem_cons.1 (isName_of_mem_field hnames hfield)
  exact silent_fieldText hname htype

theorem silent_interfaceMembers :
    ∀ line ∈ interfaceMembers object, Silent (line ++ "\n") := by
  have hmembers : ∀ line ∈ object.resolvers.map resolverMember, Silent (line ++ "\n") := by
    rw [List.forall_mem_map]
    exact fun resolver hresolver =>
      silent_resolverMember (isName_of_mem_resolver hnames hresolver)
  unfold interfaceMembers
  split
  · exact hmembers
  · exact List.forall_mem_cons.2 ⟨silent_referenceMember (isName_object hnames), hmembers⟩

theorem readable_shapeLevel : (shapeLevel object).Readable where
  above := silent_comment _
  name := isNamePart_of_isName (isName_object hnames)
  behind := by
    have hname := oneLine_of_isName (isName_object hnames)
    unfold shapeLevel
    dsimp only
    split
    · exact oneLine_ofString_append.2 ⟨oneLine_ofString_append.2 ⟨by decide, hname⟩, by decide⟩
    · decide
  stops := by
    unfold shapeLevel
    dsimp only
    split
    · rw [String.append_assoc]
      exact stops_append (c := '<') rfl (by decide)
    · decide
  below := silent_body (silent_fields hnames)

theorem readable_resolverLevel : (resolverLevel object).Readable where
  above := silent_comment _
  name := isNamePart_of_suffixed (isName_object hnames) (by decide)
  behind := oneLine_parameters
  stops := stops_parameters
  below := silent_body (silent_interfaceMembers hnames)

theorem readable_objectLevel : ∀ declaration ∈ objectLevel object, declaration.Readable :=
  forall_mem_objectLevel (readable_aliasLevel hnames) (readable_shapeLevel hnames)
    (readable_resolverLevel hnames)

end Objects

theorem readable_enumLevel (settings : Settings) {enum : EnumType} (hname : isName enum.name)
    (hvalues : ∀ value ∈ enum.values, isName value) :
    ∀ declaration ∈ enumLevel settings enum, declaration.Readable := by
  have halternatives : OneLine (RawText.ofString (" = " ++ alternatives enum.values)) := by
    refine oneLine_ofString_append.2
      ⟨by decide, oneLine_intercalate (by decide) fun text htext => ?_⟩
    obtain ⟨value, hvalue, rfl⟩ := List.mem_map.1 htext
    have hline := oneLine_of_isName (hvalues value hvalue)
    exact oneLine_ofString_append.2 ⟨oneLine_ofString_append.2 ⟨by decide, hline⟩, by decide⟩
  have hstops : (" = " ++ alternatives enum.values).toList.takeWhile isNamePart = [] :=
    stops_append (c := ' ') rfl (by decide)
  have hown := isNamePart_of_isName hname
  have hexternal : ∀ c ∈ (enum.name ++ "External").toList, isNamePart c :=
    isNamePart_of_suffixed hname (by decide)
  unfold enumLevel
  split
  · simp only [List.forall_mem_cons, List.not_mem_nil, false_imp_iff, implies_true, and_true]
    exact ⟨⟨Silent.lineEnd, hexternal, halternatives, hstops, Introduces.empty⟩,
      ⟨Introduces.empty, hown, oneLine_any, stops_any, Introduces.empty⟩⟩
  · rw [List.forall_mem_singleton]
    exact ⟨Silent.lineEnd, hown, halternatives, hstops, Introduces.empty⟩

theorem readable_scalarLevel {scalar : ScalarType} (hname : isName scalar.name) :
    (scalarLevel scalar).Readable where
  above := Silent.lineEnd
  name := isNamePart_of_isName hname
  behind := oneLine_any
  stops := stops_any
  below := Introduces.empty

theorem readable_topLevel (settings : Settings) {schema : Schema}
    (hnames : ∀ name ∈ schema.mentioned, isName name) :
    ∀ declaration ∈ topLevel settings schema, declaration.Readable := by
  have hown := isName_of_mem_names hnames
  simp only [Schema.mentioned, List.forall_mem_append, List.forall_mem_flatMap,
    List.forall_mem_cons, List.forall_mem_map] at hnames
  obtain ⟨⟨hobjects, henums⟩, hscalars⟩ := hnames
  refine forall_mem_topLevel readable_headLevel
    (readable_resolversLevel (silent_entries settings hown)) ?_ ?_ ?_
  · exact fun object hobject => readable_objectLevel (hobjects object hobject)
  · exact fun enum henum => readable_enumLevel settings (henums enum henum).1 (henums enum henum).2
  · exact fun scalar hscalar => readable_scalarLevel (hscalars scalar hscalar)

/-- What is read off a file is the names of its declarations. -/
theorem declaredNames_layout (settings : Settings) {schema : Schema}
    (hnames : ∀ name ∈ schema.mentioned, isName name) :
    declaredNames (layout settings schema).text = (topLevel settings schema).map (·.name) := by
  -- Each declaration introduces its own name, whatever stands behind it in the file.
  have hfile : Introduces (layout settings schema).text
      ((topLevel settings schema).flatMap fun declaration => [declaration.name]) := by
    rw [text_layout]
    exact Introduces.flatMap fun declaration hdeclaration =>
      (readable_topLevel settings hnames declaration hdeclaration).introduces
  have hread := hfile []
  have hnothing : declaredNames [] = [] := rfl
  rw [List.append_nil, hnothing, List.append_nil, ← List.map_eq_flatMap] at hread
  exact hread

/-! ## Distinct names -/

/-- The file for a schema with distinct names is a sequence of declarations. Their names are
distinct exactly if no definition that is declared under its own name is called by a name that
the file gives to something else; and where all names in the schema are names of the grammar,
these are the names that the lines of the file declare. -/
theorem nodup_names_iff_of_generate {settings : Settings} {schema : Schema} {text : RawText}
    (hdistinct : schema.names.Nodup) (hgenerate : generate settings schema = .ok text) :
    text = (topLevel settings schema).flatMap (·.text) ∧
      (((topLevel settings schema).map (·.name)).Nodup ↔ ClashFree settings schema) ∧
      ((∀ name ∈ schema.mentioned, isName name) →
        declaredNames text = (topLevel settings schema).map (·.name)) := by
  rw [(generate_eq_ok_iff.1 hgenerate).2]
  exact ⟨text_layout settings schema, nodup_names_topLevel_iff settings hdistinct,
    declaredNames_layout settings⟩

/-- A root, an entity, an enum and a scalar. -/
def mixedSchema : Schema where
  objects :=
    [ { name := "Query"
        resolvers := [{ name := "me", type := .named "User", parent := "Query" }] },
      { name := "User"
        kind := .entity [[("id", .nonNull (.named "ID"))]]
        fields := [{ name := "id", type := .nonNull (.named "ID") }]
        description := some "type Index = 1\ntype Index = 2" } ]
  enums := [{ name := "Role", values := ["ADMIN"] }]
  scalars := [{ name := "Date" }]

theorem nodup_names_mixedSchema :
    mixedSchema.names.Nodup ∧ ∃ text, generate { internalEnumValues := true } mixedSchema = .ok text ∧
      declaredNames text =
        ["PromiseOrValue", "Nullable", "Index", "Resolvers", "QueryRepresentation",
          "QueryResolver", "UserRepresentation", "User", "UserResolver", "RoleExternal", "Role",
          "Date"] ∧
      (declaredNames text).Nodup := by
  have hdistinct : mixedSchema.names.Nodup := by decide
  have hgenerate : generate { internalEnumValues := true } mixedSchema =
      .ok (layout { internalEnumValues := true } mixedSchema).text :=
    generate_eq_ok_iff.2 ⟨by decide, rfl⟩
  obtain ⟨-, hclash, hread⟩ := nodup_names_iff_of_generate hdistinct hgenerate
  have hnames := hread (by decide)
  refine ⟨hdistinct, _, hgenerate, hnames, ?_⟩
  rw [hnames]
  exact hclash.2 (by decide)

/-- Whether the definitions of a schema have distinct names of the grammar, and its file declares
the given names, one of them twice. -/
def DeclaresTwice (settings : Settings) (schema : Schema) (names : List String) : Prop :=
  schema.names.Nodup ∧ (∀ name ∈ schema.names, isName name) ∧
    ∃ text, generate settings schema = .ok text ∧ declaredNames text = names ∧ ¬ names.Nodup

/-- An object, and a scalar that may be called like something that the file makes. -/
def besideUser (scalar : String) : Schema where
  objects := [{ name := "User" }]
  scalars := [{ name := scalar }]

theorem declaresTwice_besideUser {scalar : String} (hscalar : scalar ∈ ["Index", "UserResolver"]) :
    DeclaresTwice {} (besideUser scalar) ["PromiseOrValue", "Nullable", "Index", "Resolvers",
      "UserRepresentation", "User", "UserResolver", scalar] := by
  have hnames : (besideUser scalar).names.Nodup ∧
      ∀ name ∈ (besideUser scalar).mentioned, isName name := by
    revert scalar
    decide
  have htext : ∀ object ∈ (besideUser scalar).objects, object.HasText := by
    have huser : ({ name := "User" } : ObjectType).HasText := by decide
    exact List.forall_mem_singleton.2 huser
  have hgenerate : generate {} (besideUser scalar) = .ok (layout {} (besideUser scalar)).text :=
    generate_eq_ok_iff.2 ⟨htext, rfl⟩
  have hclash : ∀ called ∈ ["Index", "UserResolver"],
      ¬ ["PromiseOrValue", "Nullable", "Index", "Resolvers", "UserRepresentation", "User",
        "UserResolver", called].Nodup := by
    decide
  exact ⟨hnames.1, hnames.2, _, hgenerate, declaredNames_layout {} hnames.2, hclash scalar hscalar⟩

/-- Distinct names of definitions do not keep a file from declaring a name twice. -/
theorem declaresTwice_indexScalar_and_resolverScalar :
    DeclaresTwice {} (besideUser "Index")
      ["PromiseOrValue", "Nullable", "Index", "Resolvers", "UserRepresentation", "User",
        "UserResolver", "Index"] ∧
    DeclaresTwice {} (besideUser "UserResolver")
      ["PromiseOrValue", "Nullable", "Index", "Resolvers", "UserRepresentation", "User",
        "UserResolver", "UserResolver"] :=
  ⟨declaresTwice_besideUser (by decide), declaresTwice_besideUser (by decide)⟩

end ResolverTypings.TypeScript
