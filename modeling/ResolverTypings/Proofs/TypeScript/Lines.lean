import ResolverTypings.Proofs.Graphql.Names
import ResolverTypings.Proofs.Graphql.Scanning
import ResolverTypings.Proofs.TypeScript.TopLevel

/-!
# Names read off lines

The names that a text declares are found by its lines alone: a line that begins with the words
of a declaration gives the name behind them. Where all names of a schema are names of the
grammar, no line of a comment or of a member looks like that, whatever the descriptions say.
-/
namespace ResolverTypings

/-! ## The names in a schema -/

mutual
/-- The names in a type. -/
def FieldType.mentioned : FieldType → List String
  | .named name => [name]
  | .nonNull base => base.mentioned
  | .list base => base.mentioned
  | .record members => FieldType.mentionedBy members

/-- The names in the members of a record. -/
def FieldType.mentionedBy : List (String × FieldType) → List String
  | [] => []
  | (name, type) :: rest => name :: type.mentioned ++ FieldType.mentionedBy rest
end

/-- The names in a resolver. -/
def Resolver.mentioned (resolver : Resolver) : List String :=
  resolver.name :: resolver.parent :: resolver.type.mentioned ++
    resolver.arguments.flatMap (fun argument => argument.name :: argument.type.mentioned) ++
    FieldType.mentionedBy resolver.requires

/-- The names in the keys of an object, if it is an entity. -/
def ObjectKind.mentioned : ObjectKind → List String
  | .plain => []
  | .entity keys => keys.flatMap FieldType.mentionedBy

/-- The names in an object. -/
def ObjectType.mentioned (object : ObjectType) : List String :=
  object.name :: object.kind.mentioned ++
    object.fields.flatMap (fun field => field.name :: field.type.mentioned) ++
    object.resolvers.flatMap Resolver.mentioned

/-- The names in a schema. -/
def Schema.mentioned (schema : Schema) : List String :=
  schema.objects.flatMap ObjectType.mentioned ++
    schema.enums.flatMap (fun enum => enum.name :: enum.values) ++ schema.scalars.map (·.name)

namespace TypeScript

open Graphql (isName isNamePart)
open Text (RawText CodePoint)

/-! ## Reading -/

/-- The name that stands behind given words on a line. -/
def declaredBehind? (line : RawText) (opening : Opening) : Option String :=
  ((RawText.ofString opening.text).isPrefixOf? line).map fun rest =>
    String.ofList (RawText.charsWhile isNamePart rest)

/-- The name that a line declares. -/
def declaredOn? (line : RawText) : Option String :=
  [Opening.hiddenType, .exportedType, .exportedInterface].findSome? (declaredBehind? line)

/-- The names that the lines of a text declare. -/
def declaredNames (text : RawText) : List String :=
  (text.splitOn (.char '\n')).filterMap declaredOn?

/-- Lines that declare names, whatever stands below them. -/
def Introduces (text : RawText) (names : List String) : Prop :=
  ∀ rest, declaredNames (text ++ rest) = names ++ declaredNames rest

/-- Lines that declare nothing. -/
abbrev Silent (text : RawText) : Prop :=
  Introduces text []

/-- A text without a line end. -/
def OneLine (text : RawText) : Prop :=
  .char '\n' ∉ text

instance (text : RawText) : Decidable (OneLine text) :=
  inferInstanceAs (Decidable (.char '\n' ∉ text))

@[simp] theorem oneLine_append {first second : RawText} :
    OneLine (first ++ second) ↔ OneLine first ∧ OneLine second := by
  simp [OneLine]

@[simp] theorem oneLine_ofString_append {first second : String} :
    OneLine (RawText.ofString (first ++ second)) ↔
      OneLine (RawText.ofString first) ∧ OneLine (RawText.ofString second) := by
  rw [RawText.ofString_append, oneLine_append]

namespace Introduces

theorem empty : Silent [] := fun _ => rfl

theorem append {first second : RawText} {names more : List String}
    (hfirst : Introduces first names) (hsecond : Introduces second more) :
    Introduces (first ++ second) (names ++ more) := by
  intro rest
  rw [List.append_assoc, hfirst, hsecond, List.append_assoc]

theorem flatMap {α : Type} {text : α → RawText} {names : α → List String} {xs : List α}
    (h : ∀ x ∈ xs, Introduces (text x) (names x)) :
    Introduces (xs.flatMap text) (xs.flatMap names) := by
  induction xs with
  | nil => exact empty
  | cons x xs ih =>
    rw [List.flatMap_cons, List.flatMap_cons]
    exact (h x List.mem_cons_self).append (ih fun y hy => h y (List.mem_cons_of_mem _ hy))

theorem line {text : RawText} (h : OneLine text) :
    Introduces (text ++ "\n") (declaredOn? text).toList := by
  intro rest
  have hlines : (text ++ "\n" ++ rest).splitOn (.char '\n') =
      text :: rest.splitOn (.char '\n') := by
    rw [List.append_assoc]
    exact List.splitOn_append_cons_self_of_not_mem h rest
  rw [declaredNames, hlines, List.filterMap_cons]
  cases declaredOn? text <;> rfl

end Introduces

theorem Silent.append {first second : RawText} (hfirst : Silent first) (hsecond : Silent second) :
    Silent (first ++ second) :=
  Introduces.append hfirst hsecond

theorem Silent.flatMap {α : Type} {text : α → RawText} {xs : List α}
    (h : ∀ x ∈ xs, Silent (text x)) : Silent (xs.flatMap text) := by
  have hall : Introduces (xs.flatMap text) (xs.flatMap fun _ => []) := Introduces.flatMap h
  rwa [List.flatMap_eq_nil_iff.2 fun _ _ => rfl] at hall

/-! ## Lines -/

theorem declaredBehind?_eq_none_iff {line : RawText} {opening : Opening} :
    declaredBehind? line opening = none ↔
      ∀ rest, RawText.ofString opening.text ++ rest ≠ line := by
  rw [declaredBehind?, Option.map_eq_none_iff, Option.eq_none_iff_forall_ne_some]
  simp only [ne_eq, List.isPrefixOf?_eq_some_iff_append_eq]

theorem declaredOn?_eq_none {line : RawText}
    (h : ∀ (opening : Opening) (rest : RawText), RawText.ofString opening.text ++ rest ≠ line) :
    declaredOn? line = none := by
  rw [declaredOn?, List.findSome?_eq_none_iff]
  exact fun opening _ => declaredBehind?_eq_none_iff.2 (h opening)

/-- A line that begins like none of the words of a declaration. -/
theorem declaredOn?_eq_none_of_start {c : Char} (hc : c ≠ 't' ∧ c ≠ 'e') (line : RawText) :
    declaredOn? (.char c :: line) = none := by
  refine declaredOn?_eq_none fun opening rest heq => ?_
  cases opening <;> simp [Opening.text, RawText.ofString] at heq <;> simp [← heq.1] at hc

/-- The words of a declaration are a name with a space behind it, and more. -/
theorem Opening.exists_word (opening : Opening) :
    ∃ word more, opening.text.toList = word ++ ' ' :: more ∧ ∀ c ∈ word, isNamePart c := by
  cases opening with
  | hiddenType => exact ⟨"type".toList, [], rfl, List.all_eq_true.1 (by decide)⟩
  | exportedType => exact ⟨"export".toList, "type ".toList, rfl, List.all_eq_true.1 (by decide)⟩
  | exportedInterface =>
    exact ⟨"export".toList, "interface ".toList, rfl, List.all_eq_true.1 (by decide)⟩

theorem dropWhile_ofChars_append {name : List Char} (hname : ∀ c ∈ name, isNamePart c)
    (rest : RawText) : (RawText.ofChars name ++ rest).dropWhile (·.satisfies isNamePart) =
      rest.dropWhile (·.satisfies isNamePart) := by
  refine List.dropWhile_append_of_pos fun point hpoint => ?_
  obtain ⟨c, hc, rfl⟩ := List.mem_map.1 hpoint
  exact hname c hc

/-- A line that begins with a name and no space behind it. -/
theorem declaredOn?_eq_none_of_name {name : List Char} (hname : ∀ c ∈ name, isNamePart c)
    {c : Char} (hc : isNamePart c = false) (hspace : c ≠ ' ') (rest : RawText) :
    declaredOn? (RawText.ofChars name ++ .char c :: rest) = none := by
  refine declaredOn?_eq_none fun opening others heq => ?_
  -- Behind the first word the opening has a space, and the line has `c`.
  obtain ⟨word, more, hopening, hword⟩ := opening.exists_word
  rw [RawText.ofString, hopening, RawText.ofChars_append, List.append_assoc] at heq
  have hbehind := congrArg (List.dropWhile (·.satisfies isNamePart)) heq
  rw [dropWhile_ofChars_append hword, dropWhile_ofChars_append hname, RawText.ofChars_cons,
    List.cons_append, List.dropWhile_cons_of_neg (by decide),
    List.dropWhile_cons_of_neg (by simp [CodePoint.satisfies, hc])] at hbehind
  exact hspace (CodePoint.char.inj (List.cons.inj hbehind).1).symm

/-- The line of a declaration. -/
theorem declaredOn?_opening (opening : Opening) {name : List Char} {rest : RawText}
    (hname : ∀ c ∈ name, isNamePart c) (hrest : rest.charsWhile isNamePart = []) :
    declaredOn? (opening.text ++ (RawText.ofChars name ++ rest)) = some (String.ofList name) := by
  have hname : (RawText.ofChars name ++ rest).charsWhile isNamePart = name := by
    rw [RawText.charsWhile_ofChars_append hname, hrest, List.append_nil]
  cases opening <;>
    simp [declaredOn?, declaredBehind?, Opening.text, RawText.ofString, List.isPrefixOf?, hname]

/-! ## Lines that declare nothing -/

theorem Silent.line {text : RawText} (h : OneLine text) (hnone : declaredOn? text = none) :
    Silent (text ++ "\n") := by
  have hline := Introduces.line h
  rwa [hnone] at hline

theorem Silent.lineEnd : Silent "\n" := by
  have hempty : Silent ([] ++ RawText.ofString "\n") := Silent.line (by decide) rfl
  exact hempty

/-- A line whose first character tells it from declarations. -/
theorem Silent.line_of_head {text : RawText} {c : Char} (hhead : text.head? = some (.char c))
    (hc : c ≠ 't' ∧ c ≠ 'e') (h : OneLine text) : Silent (text ++ "\n") := by
  refine Silent.line h ?_
  obtain ⟨rest, hrest⟩ := List.head?_eq_some_iff.1 hhead
  rw [hrest]
  exact declaredOn?_eq_none_of_start hc rest

theorem Silent.line_of_start {start more : RawText} {c : Char}
    (hstart : start.head? = some (.char c)) (hc : c ≠ 't' ∧ c ≠ 'e')
    (h : OneLine (start ++ more)) : Silent (start ++ more ++ "\n") := by
  refine Silent.line_of_head ?_ hc h
  rw [List.head?_append, hstart]
  rfl

theorem Silent.indented {text : RawText} (h : OneLine text) : Silent ("  " ++ text ++ "\n") :=
  Silent.line_of_start (c := ' ') rfl (by decide) (oneLine_append.2 ⟨by decide, h⟩)

theorem commentLines_cons (point : CodePoint) (text : RawText) :
    commentLines (point :: text) =
      (if point = .char '\n' then "\n" ++ RawText.ofString " * " else [point]) ++
        commentLines text := by
  by_cases hpoint : point = .char '\n' <;> simp [commentLines, hpoint, RawText.ofString]

/-- Inside a comment every line begins with a mark, also behind the line ends of the text. -/
theorem silent_commentLines {front : RawText} (hfront : OneLine front) (text : RawText) :
    Silent (" * " ++ front ++ commentLines text ++ "\n") := by
  have hmark : ∀ {more : RawText}, OneLine more → Silent (" * " ++ more ++ "\n") := fun hmore =>
    Silent.line_of_start (c := ' ') rfl (by decide) (oneLine_append.2 ⟨by decide, hmore⟩)
  induction text generalizing front with
  | nil =>
    have hend : commentLines [] = [] := rfl
    rw [hend, List.append_nil]
    exact hmark hfront
  | cons point text ih =>
    -- A line end closes the line so far and opens the next with its mark; anything else makes
    -- the line longer.
    rw [commentLines_cons]
    by_cases hpoint : point = .char '\n'
    · have hempty : OneLine [] := by decide
      have hline := (hmark hfront).append (ih hempty)
      rw [if_pos hpoint]
      simpa only [List.append_assoc, List.nil_append] using hline
    · have hlonger : OneLine (front ++ [point]) := by
        refine oneLine_append.2 ⟨hfront, ?_⟩
        simpa [OneLine, eq_comm] using hpoint
      rw [if_neg hpoint]
      simpa only [List.append_assoc] using ih hlonger

theorem silent_comment (description : Option RawText) : Silent (comment description) := by
  unfold comment
  split
  · exact Introduces.empty
  · rename_i text
    split
    · exact Introduces.empty
    · have hopen : Silent ("/**" ++ RawText.ofString "\n") :=
        Silent.line_of_head (c := '/') rfl (by decide) (by decide)
      have hclose : Silent (" */" ++ RawText.ofString "\n") :=
        Silent.line_of_head (c := ' ') rfl (by decide) (by decide)
      have hempty : OneLine [] := by decide
      have hlines := silent_commentLines hempty text
      have hall := (hopen.append hlines).append hclose
      simpa [RawText.ofString] using hall

/-! ## Names and types -/

theorem isNamePart_of_isName {name : String} (h : isName name) :
    ∀ c ∈ name.toList, isNamePart c := by
  unfold isName at h
  split at h
  · cases h
  · rename_i c rest heq
    rw [Bool.and_eq_true, List.all_eq_true] at h
    rw [heq]
    exact List.forall_mem_cons.2 ⟨by simp [isNamePart, h.1], h.2⟩

theorem oneLine_of_isNamePart {name : String} (h : ∀ c ∈ name.toList, isNamePart c) :
    OneLine name := by
  intro hmem
  obtain ⟨c, hc, hend⟩ := List.mem_map.1 hmem
  have hpart : isNamePart '\n' := CodePoint.char.inj hend ▸ h c hc
  exact absurd hpart (by decide)

theorem oneLine_of_isName {name : String} (h : isName name) : OneLine name :=
  oneLine_of_isNamePart (isNamePart_of_isName h)

section Objects

variable {object : ObjectType} (hnames : ∀ name ∈ object.mentioned, isName name)

include hnames

theorem isName_object : isName object.name :=
  hnames _ List.mem_cons_self

theorem isName_of_mem_key {keys : List Record} (hkind : object.kind = .entity keys) {key : Record}
    (hkey : key ∈ keys) : ∀ name ∈ FieldType.mentionedBy key, isName name := by
  intro name hname
  refine hnames name ?_
  simp only [ObjectType.mentioned, ObjectKind.mentioned, hkind]
  exact List.mem_append_left _ (List.mem_append_left _
    (List.mem_cons_of_mem _ (List.mem_flatMap.2 ⟨key, hkey, hname⟩)))

theorem isName_of_mem_field {field : Field} (hfield : field ∈ object.fields) :
    ∀ name ∈ field.name :: field.type.mentioned, isName name := by
  simp only [ObjectType.mentioned, List.forall_mem_append, List.forall_mem_flatMap] at hnames
  exact hnames.1.2 field hfield

theorem isName_of_mem_resolver {resolver : Resolver} (hresolver : resolver ∈ object.resolvers) :
    ∀ name ∈ resolver.mentioned, isName name := by
  simp only [ObjectType.mentioned, List.forall_mem_append, List.forall_mem_flatMap] at hnames
  exact hnames.2 resolver hresolver

end Objects

theorem isName_of_mem_names {schema : Schema} (hnames : ∀ name ∈ schema.mentioned, isName name) :
    ∀ name ∈ schema.names, isName name := by
  simp only [Schema.mentioned, List.forall_mem_append, List.forall_mem_flatMap] at hnames
  obtain ⟨⟨hobjects, henums⟩, hscalars⟩ := hnames
  simp only [Schema.names, List.forall_mem_append, List.forall_mem_map] at hscalars ⊢
  exact ⟨⟨fun object hobject => isName_object (hobjects object hobject),
    fun enum henum => henums enum henum _ List.mem_cons_self⟩, hscalars⟩

theorem oneLine_orNull {nullable : Bool} {text : String} (h : OneLine text) :
    OneLine (orNull nullable text) := by
  unfold orNull
  split
  · exact oneLine_ofString_append.2 ⟨oneLine_ofString_append.2 ⟨by decide, h⟩, by decide⟩
  · exact h

theorem isName_typeName {name : String} (h : isName name) : isName (typeName name) := by
  unfold typeName
  split_ifs
  all_goals first | exact h | decide

mutual

theorem oneLine_typeText {nullable : Bool} :
    (type : FieldType) → (∀ name ∈ type.mentioned, isName name) → OneLine (typeText nullable type)
  | .named name, h =>
    oneLine_orNull (oneLine_of_isName (isName_typeName (h name (List.mem_singleton_self name))))
  | .nonNull base, h => oneLine_typeText base h
  | .list base, h => by
    have hbase : OneLine (typeText true base) := oneLine_typeText base h
    exact oneLine_orNull (oneLine_ofString_append.2 ⟨oneLine_ofString_append.2 ⟨by decide, hbase⟩, by decide⟩)
  | .record members, h => by
    have hmembers := oneLine_membersText members h
    exact oneLine_ofString_append.2 ⟨oneLine_ofString_append.2 ⟨by decide, hmembers⟩, by decide⟩

theorem oneLine_membersText :
    (members : List (String × FieldType)) →
      (∀ name ∈ FieldType.mentionedBy members, isName name) → OneLine (membersText members)
  | [], _ => by decide
  | (name, type) :: rest, h => by
    rw [FieldType.mentionedBy, List.cons_append, List.forall_mem_cons,
      List.forall_mem_append] at h
    have htype : OneLine (typeText true type) := oneLine_typeText type h.2.1
    have hrest := oneLine_membersText rest h.2.2
    have hname := oneLine_of_isName h.1
    have hcolon : OneLine ": " := by decide
    have hcomma : OneLine ", " := by decide
    simp [membersText, hname, htype, hrest, hcolon, hcomma]

end

theorem oneLine_recordText {record : Record}
    (h : ∀ name ∈ FieldType.mentionedBy record, isName name) : OneLine (recordText record) :=
  oneLine_typeText (.record record) h

theorem oneLine_intercalate {separator : String} (hseparator : OneLine separator)
    {texts : List String} (h : ∀ text ∈ texts, OneLine text) :
    OneLine (String.intercalate separator texts) := by
  rw [RawText.ofString_intercalate]
  exact RawText.intercalate_induction (by decide)
    (fun hfront hback => oneLine_append.2 ⟨hfront, hback⟩) hseparator (List.forall_mem_map.2 h)

/-! ## Members -/

theorem memberMark_shape (required : Bool) :
    ∃ c rest, (memberMark required).toList = c :: rest ∧ isNamePart c = false ∧ c ≠ ' ' := by
  cases required with
  | true => exact ⟨':', [' '], rfl, by decide, by decide⟩
  | false => exact ⟨'?', [':', ' '], rfl, by decide, by decide⟩

theorem oneLine_memberMark (required : Bool) : OneLine (memberMark required) := by
  cases required <;> decide

/-- A member is told from a declaration by the mark behind its name. -/
theorem Silent.member {name : String} {more : RawText} {required : Bool} (hname : isName name)
    (hmore : OneLine more) : Silent (name ++ memberMark required ++ more ++ "\n") := by
  refine Silent.line ?_ ?_
  · exact oneLine_append.2 ⟨oneLine_append.2 ⟨oneLine_of_isName hname, oneLine_memberMark required⟩,
      hmore⟩
  · obtain ⟨c, rest, hmark, hc, hspace⟩ := memberMark_shape required
    rw [RawText.ofString, RawText.ofString, hmark, List.append_assoc, RawText.ofChars_cons,
      List.cons_append]
    exact declaredOn?_eq_none_of_name (isNamePart_of_isName hname) hc hspace _

theorem silent_fieldText {field : Field} (hname : isName field.name)
    (htype : ∀ name ∈ field.type.mentioned, isName name) : Silent (fieldText field ++ "\n") := by
  have hmember : Silent (field.name ++ memberMark false ++
      RawText.ofString (typeText true field.type) ++ "\n") :=
    Silent.member hname (oneLine_typeText _ htype)
  have hfield := (silent_comment field.description).append hmember
  simpa only [fieldText, memberMark, List.append_assoc, Bool.false_eq_true, if_false] using hfield

theorem silent_argumentText {argument : Argument} (hname : isName argument.name)
    (htype : ∀ name ∈ argument.type.mentioned, isName name) :
    Silent (argumentText argument ++ "\n") := by
  have hmember : Silent (argument.name ++ memberMark argument.type.isNonNull ++
      RawText.ofString (typeText false argument.type) ++ "\n") :=
    Silent.member hname (oneLine_typeText _ htype)
  have hargument := (silent_comment argument.description).append hmember
  simpa only [argumentText, memberMark, List.append_assoc] using hargument

theorem silent_lineBlock {lines : List RawText} (h : ∀ line ∈ lines, Silent (line ++ "\n")) :
    Silent (lineBlock lines) :=
  Silent.flatMap h

theorem oneLine_parentText {resolver : Resolver} (hparent : isName resolver.parent)
    (hrequires : ∀ name ∈ FieldType.mentionedBy resolver.requires, isName name) :
    OneLine (parentText resolver) := by
  have hrecord := oneLine_recordText hrequires
  refine oneLine_ofString_append.2
    ⟨oneLine_ofString_append.2 ⟨oneLine_of_isName hparent, by decide⟩, ?_⟩
  split
  · decide
  · exact oneLine_ofString_append.2 ⟨by decide, hrecord⟩

/-- Arguments stand on lines of their own, between the line of the resolver and the line that
ends its type. -/
theorem silent_signature {head tail : RawText} {arguments : List Argument}
    (hhead : ∀ {more : RawText}, OneLine more → Silent (head ++ more ++ "\n")) (htail : OneLine tail)
    (harguments : ∀ argument ∈ arguments,
      isName argument.name ∧ ∀ name ∈ argument.type.mentioned, isName name) :
    Silent (head ++ argumentsText arguments ++ tail ++ "\n") := by
  unfold argumentsText
  cases arguments with
  | nil =>
    have hline := hhead (oneLine_append.2 ⟨(by decide : OneLine (RawText.ofString "\x7b\x7d")), htail⟩)
    simpa only [List.isEmpty_nil, if_true, List.append_assoc] using hline
  | cons first others =>
    have hopen : Silent (head ++ "\x7b" ++ "\n") := hhead (by decide)
    have hblock : Silent (lineBlock ((first :: others).map argumentText)) := by
      refine silent_lineBlock fun line hline => ?_
      obtain ⟨argument, hargument, rfl⟩ := List.mem_map.1 hline
      exact silent_argumentText (harguments argument hargument).1 (harguments argument hargument).2
    have hclose : Silent ("\x7d" ++ tail ++ "\n") :=
      Silent.line_of_start rfl (by decide) (oneLine_append.2 ⟨by decide, htail⟩)
    have hall := (hopen.append hblock).append hclose
    rw [← intercalate_append_lineEnd (by simp)] at hall
    have hshape : RawText.ofString "\x7b\n" = "\x7b" ++ RawText.ofString "\n" ∧
        RawText.ofString "\n\x7d" = "\n" ++ RawText.ofString "\x7d" :=
      ⟨rfl, rfl⟩
    simpa only [List.isEmpty_cons, Bool.false_eq_true, if_false, hshape, List.append_assoc]
      using hall

theorem silent_resolverMember {resolver : Resolver}
    (hnames : ∀ name ∈ resolver.mentioned, isName name) :
    Silent (resolverMember resolver ++ "\n") := by
  simp only [Resolver.mentioned, List.cons_append, List.forall_mem_cons, List.forall_mem_append,
    List.forall_mem_flatMap] at hnames
  obtain ⟨hname, hparent, ⟨htype, harguments⟩, hrequires⟩ := hnames
  unfold resolverMember
  split
  · have hmark : RawText.ofString unresolvableText = memberMark true ++ RawText.ofString
        "never // non-resolvable: marked @external and not @provide'd by any fields" := rfl
    have hmember : Silent (resolver.name ++ memberMark true ++ RawText.ofString
        "never // non-resolvable: marked @external and not @provide'd by any fields" ++ "\n") :=
      Silent.member hname (by decide)
    rwa [hmark, ← List.append_assoc]
  · have hhead : ∀ {more : RawText}, OneLine more → Silent (comment resolver.description ++
        (resolver.name ++ memberMark resolver.isRootType ++
          ("(parent: " ++ parentText resolver ++ ", args: " ++ more) ++ "\n")) := by
      intro more hmore
      have hline : OneLine ("(parent: " ++ parentText resolver ++ ", args: " ++ more) := by
        have hparentText := oneLine_parentText hparent hrequires
        exact oneLine_append.2 ⟨oneLine_append.2 ⟨oneLine_append.2 ⟨by decide, hparentText⟩,
          by decide⟩, hmore⟩
      exact (silent_comment _).append (Silent.member hname hline)
    have htail : OneLine (", context: TContext, info: any) => PromiseOrValue<" ++
        typeText true resolver.type ++ ">") :=
      oneLine_append.2 ⟨oneLine_append.2 ⟨by decide, oneLine_typeText _ htype⟩, by decide⟩
    simp only [← List.append_assoc] at hhead htail
    simpa only [signatureText, ← List.append_assoc] using
      silent_signature hhead htail harguments

/-- What stands in the member that finds an entity again, from the first name of the entity on. -/
def referenceTail (name : String) : String :=
  name ++ ("Representation<\x7b /* internal reps are not known here */ \x7d>," ++
    (" args: \x7b\x7d, context: TContext, info: any) => PromiseOrValue<Nullable<" ++
      (name ++ ">>")))

theorem referenceMember_eq (name : String) :
    referenceMember name = "  __resolveReference?: (parent: " ++ referenceTail name := by
  unfold referenceMember referenceTail
  repeat rw [String.append_assoc]

theorem silent_referenceMember {name : String} (hname : isName name) :
    Silent (referenceMember name ++ RawText.ofString "\n") := by
  have hline := oneLine_of_isName hname
  have htail : OneLine (referenceTail name) := by
    refine oneLine_ofString_append.2 ⟨hline, oneLine_ofString_append.2 ⟨by decide, ?_⟩⟩
    exact oneLine_ofString_append.2 ⟨by decide, oneLine_ofString_append.2 ⟨hline, by decide⟩⟩
  have hstart : OneLine "  __resolveReference?: (parent: " := by decide
  rw [referenceMember_eq, RawText.ofString_append]
  exact Silent.line_of_start (c := ' ') rfl (by decide) (oneLine_append.2 ⟨hstart, htail⟩)

theorem silent_brace : Silent "\x7d\n" := by
  have hclose : Silent ("\x7d" ++ RawText.ofString "\n") :=
    Silent.line_of_head (c := '\x7d') rfl (by decide) (by decide)
  exact hclose

/-- Members in the braces of a declaration. -/
theorem silent_body {lines : List RawText} (h : ∀ line ∈ lines, Silent (line ++ "\n")) :
    Silent (lineBlock lines ++ "\n\x7d\n") := by
  have hshape : RawText.ofString "\n\x7d\n" = "\n" ++ RawText.ofString "\x7d\n" := rfl
  rw [hshape]
  exact (silent_lineBlock h).append (Silent.lineEnd.append silent_brace)

end TypeScript
end ResolverTypings
