import ResolverTypings.Proofs.Text.Brackets
import ResolverTypings.Proofs.TypeScript.Lines

/-!
# Brackets in files

All that is written for a schema has its brackets properly nested and closed, if the names in
it are names of the grammar and it has no descriptions. A pair of brackets is often opened and
closed by different words of a text, with names and types between them; what stands between is
bracketed by itself. Names matter since any other text could hold a bracket, and so could a
description.
-/
namespace ResolverTypings

/-! ## The descriptions in a schema -/

/-- The descriptions in a resolver. -/
def Resolver.descriptions (resolver : Resolver) : List Text.RawText :=
  resolver.description.toList ++ resolver.arguments.flatMap (·.description.toList)

/-- The descriptions in an object. -/
def ObjectType.descriptions (object : ObjectType) : List Text.RawText :=
  object.description.toList ++ object.fields.flatMap (·.description.toList) ++
    object.resolvers.flatMap Resolver.descriptions

/-- The descriptions in a schema that show in its file. -/
def Schema.descriptions (schema : Schema) : List Text.RawText :=
  schema.objects.flatMap ObjectType.descriptions

namespace TypeScript

open Graphql (isName isNamePart)
open Text (Bracketed RawText Turns)

/-! ## Names and types -/

theorem not_mem_marks_of_isNamePart {c : Char} (h : isNamePart c) : c ∉ Text.marks := by
  intro hmem
  have hmarks : Text.marks.all fun mark => !isNamePart mark := by decide
  have hno := List.all_eq_true.1 hmarks c hmem
  simp [h] at hno

theorem bracketed_of_isName {name : String} (h : isName name) : Bracketed name :=
  Bracketed.of_plain fun c hc => not_mem_marks_of_isNamePart (isNamePart_of_isName h c hc)

theorem bracketed_lineEnd : Bracketed "\n" := by
  decide

theorem bracketed_intercalate {separator : String} (hseparator : Bracketed separator)
    {texts : List String} (h : ∀ text ∈ texts, Bracketed text) :
    Bracketed (String.intercalate separator texts) := by
  rw [RawText.ofString_intercalate]
  exact RawText.intercalate_induction Bracketed.empty Turns.append hseparator
    (List.forall_mem_map.2 h)

theorem bracketed_orNull {nullable : Bool} {text : String} (h : Bracketed text) :
    Bracketed (orNull nullable text) := by
  have hopen : Turns "Nullable<" [] ['>'] := by decide
  have hclose : Turns ">" ['>'] [] := by decide
  unfold orNull
  split
  · exact h.ofString_enclosed hopen hclose
  · exact h

mutual

theorem bracketed_typeText {nullable : Bool} :
    (type : FieldType) → (∀ name ∈ type.mentioned, isName name) → Bracketed (typeText nullable type)
  | .named name, h =>
    bracketed_orNull (bracketed_of_isName (isName_typeName (h name (List.mem_singleton_self name))))
  | .nonNull base, h => bracketed_typeText base h
  | .list base, h => by
    have hopen : Turns "Array<" [] ['>'] := by decide
    have hclose : Turns ">" ['>'] [] := by decide
    have hbase : Bracketed (typeText true base) := bracketed_typeText base h
    exact bracketed_orNull (hbase.ofString_enclosed hopen hclose)
  | .record members, h => by
    have hopen : Turns "\x7b " [] ['\x7d'] := by decide
    have hclose : Turns "\x7d" ['\x7d'] [] := by decide
    have hmembers := bracketed_membersText members h
    exact hmembers.ofString_enclosed hopen hclose

theorem bracketed_membersText :
    (members : List (String × FieldType)) →
      (∀ name ∈ FieldType.mentionedBy members, isName name) → Bracketed (membersText members)
  | [], _ => Bracketed.empty
  | (name, type) :: rest, h => by
    rw [FieldType.mentionedBy, List.cons_append, List.forall_mem_cons,
      List.forall_mem_append] at h
    have hname := bracketed_of_isName h.1
    have hcolon : Bracketed ": " := by decide
    have htype : Bracketed (typeText true type) := bracketed_typeText type h.2.1
    have hcomma : Bracketed ", " := by decide
    exact (((hname.ofString_append hcolon).ofString_append htype).ofString_append
      hcomma).ofString_append (bracketed_membersText rest h.2.2)

end

theorem bracketed_recordText {record : Record}
    (h : ∀ name ∈ FieldType.mentionedBy record, isName name) : Bracketed (recordText record) :=
  bracketed_typeText (.record record) h

/-! ## Members -/

theorem comment_eq_empty {description : Option RawText}
    (h : ∀ text ∈ description.toList, text = []) : comment description = [] := by
  cases description with
  | none => rfl
  | some text =>
    obtain rfl : text = [] := h text (by simp)
    rfl

theorem bracketed_comment {description : Option RawText}
    (h : ∀ text ∈ description.toList, text = []) : Bracketed (comment description) := by
  rw [comment_eq_empty h]
  exact Bracketed.empty

theorem bracketed_memberMark (required : Bool) : Bracketed (memberMark required) := by
  cases required <;> decide

/-- A member with a type that is bracketed. -/
theorem bracketed_member {description : Option RawText} {name : String} {type : RawText}
    (hdescription : ∀ text ∈ description.toList, text = []) (hname : isName name) (required : Bool)
    (htype : Bracketed type) :
    Bracketed (comment description ++ name ++ memberMark required ++ type) :=
  (((bracketed_comment hdescription).append (bracketed_of_isName hname)).append
    (bracketed_memberMark required)).append htype

theorem bracketed_argumentText {argument : Argument}
    (hnames : ∀ name ∈ argument.name :: argument.type.mentioned, isName name)
    (hdescription : ∀ text ∈ argument.description.toList, text = []) :
    Bracketed (argumentText argument) := by
  rw [List.forall_mem_cons] at hnames
  exact bracketed_member hdescription hnames.1 argument.type.isNonNull
    (bracketed_typeText _ hnames.2)

theorem bracketed_fieldText {field : Field}
    (hnames : ∀ name ∈ field.name :: field.type.mentioned, isName name)
    (hdescription : ∀ text ∈ field.description.toList, text = []) :
    Bracketed (fieldText field) := by
  rw [List.forall_mem_cons] at hnames
  exact bracketed_member hdescription hnames.1 false (bracketed_typeText _ hnames.2)

theorem bracketed_argumentsText {arguments : List Argument}
    (h : ∀ argument ∈ arguments, Bracketed (argumentText argument)) :
    Bracketed (argumentsText arguments) := by
  have hopen : Turns "\x7b\n" [] ['\x7d'] := by decide
  have hclose : Turns "\n\x7d" ['\x7d'] [] := by decide
  have hlines : Bracketed (RawText.intercalate "\n" (arguments.map argumentText)) :=
    RawText.intercalate_induction Bracketed.empty Turns.append bracketed_lineEnd
      (List.forall_mem_map.2 h)
  unfold argumentsText
  split
  · decide
  · exact hlines.enclosed hopen hclose

theorem bracketed_parentText {resolver : Resolver} (hparent : isName resolver.parent)
    (hrequires : ∀ name ∈ FieldType.mentionedBy resolver.requires, isName name) :
    Bracketed (parentText resolver) := by
  have hrepresentation : Bracketed "Representation<TInternalReps>" := by decide
  have hand : Bracketed " & " := by decide
  refine ((bracketed_of_isName hparent).ofString_append hrepresentation).ofString_append ?_
  split
  · exact Bracketed.empty
  · exact hand.ofString_append (bracketed_recordText hrequires)

theorem bracketed_signatureText {resolver : Resolver} (hparent : Bracketed (parentText resolver))
    (harguments : Bracketed (argumentsText resolver.arguments))
    (htype : Bracketed (typeText true resolver.type)) : Bracketed (signatureText resolver) := by
  have hopen : Turns "(parent: " [] [')'] := by decide
  have hargs : Turns ", args: " [')'] [')'] := by decide
  have hresult : Turns ", context: TContext, info: any) => PromiseOrValue<" [')'] ['>'] := by
    decide
  have hclose : Turns ">" ['>'] [] := by decide
  exact ((((hparent.enclosed hopen hargs).append (harguments.turns _)).append hresult).append
    (htype.turns _)).append hclose

theorem bracketed_resolverMember {resolver : Resolver}
    (hnames : ∀ name ∈ resolver.mentioned, isName name)
    (hdescriptions : ∀ text ∈ resolver.descriptions, text = []) :
    Bracketed (resolverMember resolver) := by
  simp only [Resolver.mentioned, List.cons_append, List.forall_mem_cons, List.forall_mem_append,
    List.forall_mem_flatMap] at hnames
  simp only [Resolver.descriptions, List.forall_mem_append, List.forall_mem_flatMap]
    at hdescriptions
  obtain ⟨hname, hparent, ⟨htype, harguments⟩, hrequires⟩ := hnames
  obtain ⟨hdescription, hdocumented⟩ := hdescriptions
  unfold resolverMember
  split
  · have hnever : Bracketed unresolvableText := by decide
    exact (bracketed_of_isName hname).append hnever
  · refine bracketed_member hdescription hname resolver.isRootType ?_
    refine bracketed_signatureText (bracketed_parentText hparent hrequires)
      (bracketed_argumentsText fun argument hargument => ?_) (bracketed_typeText _ htype)
    exact bracketed_argumentText (List.forall_mem_cons.2 (harguments argument hargument))
      (hdocumented argument hargument)

theorem bracketed_referenceMember {name : String} (hname : isName name) :
    Bracketed (referenceMember name) := by
  have hbare := bracketed_of_isName hname
  have hopen : Turns "  __resolveReference?: (parent: " [] [')'] := by decide
  have hrepresentation :
      Turns "Representation<\x7b /* internal reps are not known here */ \x7d>," [')'] [')'] := by
    decide
  have hresult : Turns " args: \x7b\x7d, context: TContext, info: any) => PromiseOrValue<Nullable<"
      [')'] ['>', '>'] := by
    decide
  have hclose : Turns ">>" ['>', '>'] [] := by decide
  exact (((hbare.ofString_enclosed hopen hrepresentation).ofString_append
    hresult).ofString_append (hbare.turns _)).ofString_append hclose

theorem bracketed_lineBlock {lines : List RawText} (h : ∀ line ∈ lines, Bracketed line) :
    Bracketed (lineBlock lines) :=
  Bracketed.flatMap fun line hline => (h line hline).append bracketed_lineEnd

/-- Members, and the brace that closes a declaration. -/
theorem turns_body {lines : List RawText} (h : ∀ line ∈ lines, Bracketed line) :
    Turns (lineBlock lines ++ "\n\x7d\n") ['\x7d'] [] := by
  have hclose : Turns "\n\x7d\n" ['\x7d'] [] := by decide
  exact ((bracketed_lineBlock h).turns _).append hclose

/-! ## Declarations -/

/-- A declaration whose first line leaves some brackets open that the lines below close. -/
structure TopLevel.Closed (declaration : TopLevel) (pending : List Char) : Prop where
  above : Bracketed declaration.above
  name : Bracketed declaration.name
  behind : Turns declaration.behind [] pending
  below : Turns declaration.below pending []

theorem TopLevel.Closed.bracketed {declaration : TopLevel} {pending : List Char}
    (h : declaration.Closed pending) : Bracketed declaration.text := by
  have hopening : Bracketed declaration.opening.text := by
    cases declaration.opening <;> decide
  exact ((((h.above.append hopening).append h.name).append h.behind).append
    (bracketed_lineEnd.turns _)).append h.below

theorem turns_parameters :
    Turns (RawText.ofString (resolverParameters ++ " \x7b")) [] ['\x7d'] := by
  decide

theorem bracketed_any : Bracketed " = any" := by
  decide

theorem bracketed_objectComment {object : ObjectType}
    (hdescriptions : ∀ text ∈ object.descriptions, text = []) :
    Bracketed (comment object.description) :=
  bracketed_comment fun text htext =>
    hdescriptions text (List.mem_append_left _ (List.mem_append_left _ htext))

section Objects

variable {object : ObjectType} (hnames : ∀ name ∈ object.mentioned, isName name)

include hnames

theorem bracketed_name : Bracketed object.name :=
  bracketed_of_isName (isName_object hnames)

theorem bracketed_keys {keys : List Record} (hkind : object.kind = .entity keys) :
    Bracketed (String.intercalate " | " (keys.map recordText)) := by
  refine bracketed_intercalate (by decide) (List.forall_mem_map.2 fun key hkey => ?_)
  exact bracketed_recordText (isName_of_mem_key hnames hkind hkey)

theorem closed_aliasLevel : (aliasLevel object).Closed [] where
  above := bracketed_lineEnd
  name := by
    have hsuffix : Bracketed "Representation" := by decide
    exact (bracketed_name hnames).ofString_append hsuffix
  behind := by
    have hopen : Turns "<TInternalReps extends Record<string, any>> = Index<TInternalReps, \"" []
        ['>'] := by
      decide
    have hquote : Turns "\", " ['>'] ['>'] := by decide
    refine ((bracketed_name hnames).ofString_enclosed hopen hquote).ofString_append ?_
    split
    · decide
    · rename_i keys hkind
      have hand : Turns "\x7b\x7d> & (" ['>'] [')'] := by decide
      have hclose : Turns ")" [')'] [] := by decide
      exact (bracketed_keys hnames hkind).ofString_enclosed hand hclose
  below := by
    unfold aliasLevel
    dsimp only
    split <;> decide

variable (hdescriptions : ∀ text ∈ object.descriptions, text = [])

include hdescriptions

theorem bracketed_fields : ∀ line ∈ object.fields.map fieldText, Bracketed line := by
  simp only [ObjectType.descriptions, List.forall_mem_append, List.forall_mem_flatMap]
    at hdescriptions
  rw [List.forall_mem_map]
  exact fun field hfield =>
    bracketed_fieldText (isName_of_mem_field hnames hfield) (hdescriptions.1.2 field hfield)

theorem bracketed_interfaceMembers : ∀ line ∈ interfaceMembers object, Bracketed line := by
  simp only [ObjectType.descriptions, List.forall_mem_append, List.forall_mem_flatMap]
    at hdescriptions
  have hmembers : ∀ line ∈ object.resolvers.map resolverMember, Bracketed line := by
    rw [List.forall_mem_map]
    exact fun resolver hresolver => bracketed_resolverMember
      (isName_of_mem_resolver hnames hresolver) (hdescriptions.2 resolver hresolver)
  unfold interfaceMembers
  split
  · exact hmembers
  · exact List.forall_mem_cons.2 ⟨bracketed_referenceMember (isName_object hnames), hmembers⟩

theorem closed_shapeLevel : (shapeLevel object).Closed ['\x7d'] where
  above := bracketed_objectComment hdescriptions
  name := bracketed_name hnames
  behind := by
    unfold shapeLevel
    dsimp only
    split
    · have hparameters : Bracketed "<TInternalReps = \x7b\x7d> = " := by decide
      have hbrace : Turns "Representation<TInternalReps> & \x7b" [] ['\x7d'] := by decide
      exact (hparameters.ofString_append (bracketed_name hnames)).ofString_append hbrace
    · decide
  below := turns_body (bracketed_fields hnames hdescriptions)

theorem closed_resolverLevel : (resolverLevel object).Closed ['\x7d'] where
  above := bracketed_objectComment hdescriptions
  name := by
    have hsuffix : Bracketed "Resolver" := by decide
    exact (bracketed_name hnames).ofString_append hsuffix
  behind := turns_parameters
  below := turns_body (bracketed_interfaceMembers hnames hdescriptions)

theorem bracketed_objectLevel : ∀ declaration ∈ objectLevel object, Bracketed declaration.text :=
  forall_mem_objectLevel (closed_aliasLevel hnames).bracketed
    (closed_shapeLevel hnames hdescriptions).bracketed
    (closed_resolverLevel hnames hdescriptions).bracketed

end Objects

theorem bracketed_enumLevel (settings : Settings) {enum : EnumType}
    (hnames : ∀ name ∈ enum.name :: enum.values, isName name) :
    ∀ declaration ∈ enumLevel settings enum, Bracketed declaration.text := by
  rw [List.forall_mem_cons] at hnames
  have hname := bracketed_of_isName hnames.1
  have hsuffix : Bracketed "External" := by decide
  have hequals : Bracketed " = " := by decide
  have hquote : Bracketed "\"" := by decide
  have halternatives : Bracketed (alternatives enum.values) :=
    bracketed_intercalate (by decide) (List.forall_mem_map.2 fun value hvalue =>
      (hquote.ofString_append (bracketed_of_isName (hnames.2 value hvalue))).ofString_append hquote)
  unfold enumLevel
  split
  · simp only [List.forall_mem_cons, List.not_mem_nil, false_imp_iff, implies_true, and_true]
    exact ⟨TopLevel.Closed.bracketed ⟨bracketed_lineEnd, hname.ofString_append hsuffix,
        hequals.ofString_append halternatives, Bracketed.empty⟩,
      TopLevel.Closed.bracketed ⟨Bracketed.empty, hname, bracketed_any, Bracketed.empty⟩⟩
  · rw [List.forall_mem_singleton]
    exact TopLevel.Closed.bracketed ⟨bracketed_lineEnd, hname,
      hequals.ofString_append halternatives, Bracketed.empty⟩

theorem bracketed_scalarLevel {scalar : ScalarType} (hname : isName scalar.name) :
    Bracketed (scalarLevel scalar).text :=
  TopLevel.Closed.bracketed
    ⟨bracketed_lineEnd, bracketed_of_isName hname, bracketed_any, Bracketed.empty⟩

/-! ## Files -/

theorem bracketed_headLevel : ∀ declaration ∈ headLevel, Bracketed declaration.text := by
  have hgenerated : Bracketed "// This is a machine generated file.\n" := by decide
  have hregenerate : Bracketed "// Use \"gql-tsgen generate\" to regenerate.\n" := by decide
  have hparameters :
      Bracketed "<Map extends Record<string, any>, Key extends string, IfMissing> = " := by
    decide
  have hchoice : Bracketed "Map[Key] extends object ? Map[Key] : IfMissing" := by decide
  simp only [headLevel, List.forall_mem_cons, List.not_mem_nil, false_imp_iff, implies_true,
    and_true]
  exact ⟨TopLevel.Closed.bracketed
      ⟨hgenerated.append hregenerate, by decide, (by decide : Bracketed "<T> = Promise<T> | T"),
        Bracketed.empty⟩,
    TopLevel.Closed.bracketed
      ⟨Bracketed.empty, by decide, (by decide : Bracketed "<T> = T | null | undefined"),
        Bracketed.empty⟩,
    TopLevel.Closed.bracketed
      ⟨Bracketed.empty, by decide, hparameters.ofString_append hchoice, Bracketed.empty⟩⟩

theorem bracketed_entries (settings : Settings) {schema : Schema}
    (hnames : ∀ name ∈ schema.names, isName name) :
    ∀ line ∈ (entries settings schema).map (·.text), Bracketed line := by
  simp only [Schema.names, List.forall_mem_append, List.forall_mem_map] at hnames
  obtain ⟨⟨hobjects, henums⟩, hscalars⟩ := hnames
  have hindent : Bracketed "  " := by decide
  simp only [entries, List.map_append, List.forall_mem_append, List.forall_mem_map]
  refine ⟨⟨fun object hobject => ?_, fun scalar hscalar => ?_⟩, ?_⟩
  · have hname := bracketed_of_isName (hobjects object hobject)
    have hmark := bracketed_memberMark (schema.rootNames.contains object.name)
    have hresolver : Bracketed "Resolver<TContext, TInternalReps>" := by decide
    exact (((hindent.append hname).append hmark).append hname).append hresolver
  · have hany : Bracketed ": any" := by decide
    exact (hindent.append (bracketed_of_isName (hscalars scalar hscalar))).append hany
  · split
    · intro entry hmem
      obtain ⟨enum, henum, rfl⟩ := List.mem_map.1 hmem
      have hname := bracketed_of_isName (henums enum henum)
      have hopen : Turns ": \x7b [external: " [] [']', '\x7d'] := by decide
      have hclose : Turns "External]: any \x7d" [']', '\x7d'] [] := by decide
      exact (((hindent.append hname).append hopen).append (hname.turns _)).append hclose
    · simp

theorem bracketed_resolversLevel {entries : List Fragment}
    (h : ∀ line ∈ entries.map (·.text), Bracketed line) :
    Bracketed (resolversLevel entries).text := by
  have hname : Bracketed "Resolvers" := by decide
  have hclose : Turns "\x7d\n" ['\x7d'] [] := by decide
  exact TopLevel.Closed.bracketed ⟨bracketed_lineEnd, hname, turns_parameters,
    ((bracketed_lineBlock h).turns _).append hclose⟩

theorem bracketed_topLevel (settings : Settings) {schema : Schema}
    (hnames : ∀ name ∈ schema.mentioned, isName name)
    (hdescriptions : ∀ text ∈ schema.descriptions, text = []) :
    ∀ declaration ∈ topLevel settings schema, Bracketed declaration.text := by
  have hown := isName_of_mem_names hnames
  simp only [Schema.mentioned, List.forall_mem_append, List.forall_mem_flatMap,
    List.forall_mem_map] at hnames
  simp only [Schema.descriptions, List.forall_mem_flatMap] at hdescriptions
  obtain ⟨⟨hobjects, henums⟩, hscalars⟩ := hnames
  refine forall_mem_topLevel bracketed_headLevel
    (bracketed_resolversLevel (bracketed_entries settings hown)) ?_ ?_ ?_
  · exact fun object hobject =>
      bracketed_objectLevel (hobjects object hobject) (hdescriptions object hobject)
  · exact fun enum henum => bracketed_enumLevel settings (henums enum henum)
  · exact fun scalar hscalar => bracketed_scalarLevel (hscalars scalar hscalar)

/-! ## Nodes -/

/-- What has a text: a whole schema, or any part of one. -/
inductive Node where
  | type (nullable : Bool) (type : FieldType)
  | description (description : Option RawText)
  | argument (argument : Argument)
  | field (field : Field)
  | resolver (resolver : Resolver)
  | object (object : ObjectType)
  | enum (enum : EnumType)
  | scalar (scalar : ScalarType)
  | schema (schema : Schema)
  deriving Repr, Inhabited

namespace Node

/-- The names in a node. -/
def mentioned : Node → List String
  | .type _ t => t.mentioned
  | .description _ => []
  | .argument a => a.name :: a.type.mentioned
  | .field f => f.name :: f.type.mentioned
  | .resolver r => r.mentioned
  | .object o => o.mentioned
  | .enum e => e.name :: e.values
  | .scalar s => [s.name]
  | .schema s => s.mentioned

/-- The descriptions that show in the text of a node. -/
def descriptions : Node → List RawText
  | .type .. | .enum _ | .scalar _ => []
  | .description d => d.toList
  | .argument a => a.description.toList
  | .field f => f.description.toList
  | .resolver r => r.descriptions
  | .object o => o.descriptions
  | .schema s => s.descriptions

/-- The text of a node. -/
def text (settings : Settings) : Node → Except DeclarationError RawText
  | .type nullable t => .ok (typeText nullable t)
  | .description d => .ok (comment d)
  | .argument a => .ok (argumentText a)
  | .field f => .ok (fieldText f)
  | .resolver r => resolverText r
  | .object o => objectText o
  | .enum e => .ok (enumText settings e)
  | .scalar s => .ok (scalarText s)
  | .schema s => generate settings s

end Node

/-- Declarations make up the text of a definition but for the line end in front. -/
theorem bracketed_of_levels {levels : List TopLevel} {text : RawText}
    (htext : levels.flatMap (·.text) = "\n" ++ text)
    (h : ∀ declaration ∈ levels, Bracketed declaration.text) : Bracketed text := by
  have hall : Bracketed ("\n" ++ text) := by
    rw [← htext]
    exact Bracketed.flatMap h
  rw [Bracketed, Turns, Text.Nesting.read_append, bracketed_lineEnd] at hall
  exact hall

/-- **Texts are properly bracketed.** Where all names in a node are names of the grammar and
its descriptions are empty, the brackets of its text are nested and closed, if it has one. -/
theorem bracketed_text {settings : Settings} {node : Node} {text : RawText}
    (hnames : ∀ name ∈ node.mentioned, isName name)
    (hdescriptions : ∀ text ∈ node.descriptions, text = [])
    (htext : node.text settings = .ok text) : Bracketed text := by
  cases node with
  | type nullable type =>
    cases htext
    exact bracketed_typeText type hnames
  | description description =>
    cases htext
    exact bracketed_comment hdescriptions
  | argument argument =>
    cases htext
    exact bracketed_argumentText hnames hdescriptions
  | field field =>
    cases htext
    exact bracketed_fieldText hnames hdescriptions
  | resolver resolver =>
    obtain ⟨-, rfl⟩ := resolverText_eq_ok_iff.1 htext
    exact bracketed_resolverMember hnames hdescriptions
  | object object =>
    obtain ⟨-, rfl⟩ := objectText_eq_ok_iff.1 htext
    exact bracketed_of_levels (flatMap_objectLevel object) (bracketed_objectLevel hnames hdescriptions)
  | enum enum =>
    cases htext
    exact bracketed_of_levels (flatMap_enumLevel settings enum) (bracketed_enumLevel settings hnames)
  | scalar scalar =>
    cases htext
    have hlevel : ∀ declaration ∈ [scalarLevel scalar], Bracketed declaration.text :=
      List.forall_mem_singleton.2 (bracketed_scalarLevel (hnames _ List.mem_cons_self))
    exact bracketed_of_levels (by simp [text_scalarLevel]) hlevel
  | schema schema =>
    rw [(generate_eq_ok_iff.1 htext).2, text_layout]
    exact Bracketed.flatMap (bracketed_topLevel settings hnames hdescriptions)

/-- An entity with resolvers of all kinds, a root, an enum and a scalar. -/
def bracketedSchema : Schema where
  objects :=
    [ { name := "Query"
        resolvers := [{ name := "me", type := .named "User", parent := "Query" }]
        isRootType := true },
      { name := "User"
        kind := .entity
          [ [("id", .nonNull (.named "ID"))],
            [("team", .record [("id", .nonNull (.named "ID"))]), ("tags", .list (.named "Tag"))] ]
        fields := [{ name := "id", type := .nonNull (.named "ID"), description := some "" }]
        resolvers :=
          [ { name := "posts"
              type := .nonNull (.list (.named "Post"))
              parent := "User"
              arguments := [{ name := "first", type := .named "Int" }]
              requires := [("team", .record [])] },
            { name := "email", type := .named "String", parent := "User", isUnresolvable := true } ]
        description := some "" } ]
  enums := [{ name := "Role", values := ["ADMIN", "GUEST"] }]
  scalars := [{ name := "Date" }]

theorem bracketed_text_bracketedSchema :
    ∃ text, (Node.schema bracketedSchema).text { internalEnumValues := true } = .ok text ∧
      Bracketed text := by
  have htext : (Node.schema bracketedSchema).text { internalEnumValues := true } =
      .ok (layout { internalEnumValues := true } bracketedSchema).text :=
    generate_eq_ok_iff.2 ⟨by decide, rfl⟩
  exact ⟨_, htext, bracketed_text (by decide) (by decide) htext⟩

/-- A description may hold any bracket. -/
example : ¬ Bracketed (comment (some "see [1")) := by decide

end TypeScript
end ResolverTypings
