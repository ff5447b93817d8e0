import ResolverTypings.Proofs.Federation.Directives
import ResolverTypings.Proofs.Federation.FieldSetTexts
import ResolverTypings.Proofs.Graphql.Mirroring
import ResolverTypings.Proofs.Graphql.Respacing
import ResolverTypings.Proofs.Graphql.StringValues

/-!
# Field sets with single spaces

The text of a key is read with single spaces between its words, and that of any other
directive as it stands. Where both readings succeed they come to the same field set. One of
them may fail alone: the words of a key are on one line, which a comment then takes to its
end and a string no longer ends at, and the blanks between them are those that the grammar
knows. On a text where white space has its plain meaning neither happens.
-/
namespace ResolverTypings.Federation

open Graphql
open Text (RawText singleSpaced joined singleSpaced_ofString)

/-! ## Two readings -/

theorem quiet_closing : Quiet closing closing := by
  refine ⟨?_, ?_, ?_⟩ <;> simp [closing, Text.isBlank]

/-- Both readings of a text come to the same field set, if they succeed. -/
theorem FieldSet.eq_of_parse_singleSpaced {directive directive' text : String}
    {set set' : FieldSet} (h : FieldSet.parse directive text = .ok set)
    (h' : FieldSet.parse directive' (singleSpaced text) = .ok set') : set = set' := by
  obtain ⟨-, inner, left, htokens, hinner⟩ := exists_isFields_of_parse h
  rw [singleSpaced_ofString] at h'
  obtain ⟨-, inner', left', htokens', hinner'⟩ := exists_isFields_of_parse h'
  rw [String.toList_ofList] at htokens'
  have hline : ∀ c ∈ closing, Text.isLineEnd c = false := by simp [closing, Text.isLineEnd]
  have halike := alike_joined False quiet_closing hline text.toList False.elim
  have hfront : ∀ {cs : List Char} {inner left : List Token} {set : FieldSet},
      tokensOf cs = inner ++ .punctuator .braceRight :: left →
      IsFields (maxDepth - 1) inner set →
      inner.map Token.shape ∈ balanced ∧
        inner.map Token.shape ++ [.punctuator .braceRight] <+: shapesOf cs ∧
        ∀ shape ∈ inner.map Token.shape ++ [.punctuator .braceRight], shape.stops = false := by
    intro cs inner left set htokens hinner
    refine ⟨fun depth => ?_, ⟨left.map Token.shape, ?_⟩, ?_⟩
    · rw [openBraces_shape, hinner.mem_balanced]
    · simp [shapesOf, htokens, Token.shape]
    · have hended := ended_tokensOf cs
      rw [htokens] at hended
      simp only [List.forall_mem_append, List.forall_mem_map, List.forall_mem_singleton, stops_shape]
      exact ⟨hended.stops_eq_false (by simp), rfl⟩
  obtain ⟨hbalanced, hfronts, hstops⟩ := hfront htokens hinner
  obtain ⟨hbalanced', hfronts', hstops'⟩ := hfront htokens' hinner'
  obtain ⟨common, hcommon, hcommon'⟩ :=
    halike.shapes.exists_common hfronts hstops hfronts' hstops'
  have hshapes := eq_of_isPrefix_of_balanced hbalanced hbalanced' hcommon hcommon'
  exact hinner.unique (hinner'.of_shape hshapes)

theorem firstSelections_eq_of_forall₂ {found found' : List Definition}
    (h : List.Forall₂ SelectsSame found found') :
    FieldSet.firstSelections found = FieldSet.firstSelections found' := by
  cases h with
  | nil => rfl
  | @cons first first' _ _ hfirst _ =>
    by_cases hselects : ∃ selections, first = .operation selections
    · obtain ⟨selections, rfl⟩ := hselects
      obtain rfl := (hfirst selections).1 rfl
      rfl
    · have hfirst' : ¬ ∃ selections, first' = .operation selections :=
        fun ⟨selections, h⟩ => hselects ⟨selections, (hfirst selections).2 h⟩
      cases first <;> cases first' <;>
        first | rfl | exact absurd ⟨_, rfl⟩ hselects | exact absurd ⟨_, rfl⟩ hfirst'

/-- What a text is accepted for shows in the shapes of its tokens. -/
theorem FieldSet.parse_of_shapesOf {directive directive' text text' : String} {set : FieldSet}
    (hshapes : shapesOf (text.toList ++ closing) = shapesOf (text'.toList ++ closing))
    (h : FieldSet.parse directive text = .ok set) : FieldSet.parse directive' text' = .ok set := by
  obtain ⟨found, hparse, hset⟩ := parse_eq_ok_iff_exists.1 h
  obtain ⟨rest, hrun⟩ := parseDocument_eq_ok_iff.1 hparse
  have htokens : SameShapes ((lexemes (document text)).map (·.token))
      ((lexemes (document text')).map (·.token)) := by
    rw [tokens_document, tokens_document, SameShapes, List.map_cons, List.map_cons, ← shapesOf,
      ← shapesOf, hshapes]
  have hmirrored := mirrors_definitions _ _ htokens
  rw [hrun] at hmirrored
  generalize hrun' : definitions.run ((lexemes (document text')).map (·.token)) = result at hmirrored
  cases hmirrored with
  | give hfound hrest =>
    refine parse_eq_ok_iff_exists.2 ⟨_, parseDocument_eq_ok_iff.2 ⟨_, hrun'⟩, ?_⟩
    rw [← firstSelections_eq_of_forall₂ hfound, hset]

/-- Where white space has its plain meaning both readings are accepted or both refused. -/
theorem FieldSet.toOption_parse_singleSpaced {directive directive' text : String}
    (h : plainlySpaced text.toList) :
    (FieldSet.parse directive (singleSpaced text)).toOption =
      (FieldSet.parse directive' text).toOption := by
  have hquiet : Quiet [] [] := ⟨by simp, by simp, by simp⟩
  have halike := alike_joined True hquiet (by simp) text.toList (by simpa using h)
  rw [List.append_nil, List.append_nil] at halike
  have hshapes : shapesOf (text.toList ++ closing) =
      shapesOf ((String.ofList (joined text.toList)).toList ++ closing) := by
    rw [String.toList_ofList]
    exact halike.shapesOf_brace
  rw [singleSpaced_ofString]
  ext set
  rw [toOption_eq_some_iff, toOption_eq_some_iff]
  exact ⟨FieldSet.parse_of_shapesOf hshapes.symm, FieldSet.parse_of_shapesOf hshapes⟩

/-! ## Keys and required fields -/

/-- The field set of a key is a text as the document is. -/
theorem exists_ofString_of_fieldSetText {document : String} {definitions : List Definition}
    (hparse : Graphql.parseDocument document = .ok definitions) {part : ObjectPart}
    (hpart : .object part ∈ definitions) {directive : Directive}
    (hmem : directive ∈ part.directives) {text : RawText}
    (htext : fieldSetText directive = .ok text) : ∃ s : String, text = s := by
  have hbears := bears_of_isUnbroken (RawText.isUnbroken_ofString document) hparse _ hpart
  unfold fieldSetText at htext
  split at htext
  · next found hfound =>
    cases htext
    obtain ⟨⟨name, value⟩, hargument, hvalue⟩ := List.exists_of_findSome?_eq_some hfound
    obtain ⟨-, rfl⟩ : name = "fields" ∧ value = some text := by simpa using hvalue
    exact RawText.isUnbroken_iff.1
      (hbears.hasTexts.directives directive hmem _ hargument text rfl)
  · cases htext

section Records

variable {collected : Collected} {type text : String} {requires : Directive}

theorem keyOf_eq_of_requiredRecord {record record' : Record}
    (htext : fieldSetText requires = .ok text)
    (hkey : collected.keyOf type (singleSpaced text) = .ok record)
    (hrequired : requiredRecord collected.objects type [] [requires] = .ok record') :
    record = record' := by
  obtain ⟨set, hset, hrecord⟩ := Collected.keyOf_eq_ok_iff.1 hkey
  obtain ⟨set', hset', hrecord'⟩ := requiredRecord_singleton_eq_ok_iff.1 hrequired
  rw [fieldSetOf, htext] at hset'
  obtain rfl := FieldSet.eq_of_parse_singleSpaced hset' hset
  exact Except.ok.inj (hrecord.symm.trans hrecord')

theorem toOption_keyOf_eq (htext : fieldSetText requires = .ok text)
    (h : plainlySpaced text.toList) : (collected.keyOf type (singleSpaced text)).toOption =
      (requiredRecord collected.objects type [] [requires]).toOption := by
  have hparse : ∀ set, FieldSet.parse "key" (singleSpaced text) = .ok set ↔
      FieldSet.parse requires.name text = .ok set := by
    intro set
    rw [← toOption_eq_some_iff, ← toOption_eq_some_iff, FieldSet.toOption_parse_singleSpaced h]
  ext record
  rw [toOption_eq_some_iff, toOption_eq_some_iff, Collected.keyOf_eq_ok_iff,
    requiredRecord_singleton_eq_ok_iff]
  simp only [hparse, fieldSetOf, htext]
  rfl

end Records

/-- **One text, one meaning.** Let an object type have a key and one of its fields a required
field set of the same text. If both are accepted their records are the same, and if white
space has its plain meaning in the text both are accepted or both refused. In a schema that is
made of the document, the record of the key is that of the resolver. -/
theorem key_eq_requires_of_document {document : String} {definitions : List Definition}
    (hparse : Graphql.parseDocument document = .ok definitions) {part : ObjectPart}
    (hpart : .object part ∈ definitions) {key : Directive}
    (hkey : key ∈ directivesNamed part.directives "key") {declaration : FieldDeclaration}
    (hdeclaration : findField (({} : Collected).addAll definitions).objects part.name
      declaration.name = .ok declaration) {requires : Directive}
    (hrequires : requires ∈ directivesNamed declaration.directives "requires") {text : String}
    (hkeyText : fieldSetText key = .ok text) (hrequiresText : fieldSetText requires = .ok text) :
    let collected := ({} : Collected).addAll definitions
    let asKey := collected.keyOf part.name (singleSpaced text)
    let asRequired := requiredRecord collected.objects part.name [] [requires]
    (∀ record record', asKey = .ok record → asRequired = .ok record' → record = record') ∧
      (plainlySpaced text.toList → asKey.toOption = asRequired.toOption) ∧
      ∀ schema, schemaOfDocument document = .ok schema → ∃ record,
        asKey = .ok record ∧ asRequired = .ok record ∧ ∃ built ∈ schema.objects,
          built.name = part.name ∧ (∃ keys, built.kind = .entity keys ∧ record ∈ keys) ∧
          ∃ resolver ∈ built.resolvers, resolver.name = declaration.name ∧
            ((directivesNamed declaration.directives "requires").getLast? = some requires →
              resolver.requires = record) := by
  refine ⟨fun record record' hasKey hasRequired =>
    keyOf_eq_of_requiredRecord hrequiresText hasKey hasRequired,
    toOption_keyOf_eq hrequiresText, fun schema hschema => ?_⟩
  obtain ⟨error, herror⟩ | ⟨schema, hschema', hfault, hbuild⟩ := schemaOfDocument_cases hparse
  · rw [hschema] at herror
    cases herror
  obtain rfl := Except.ok.inj (hschema.symm.trans hschema')
  obtain ⟨text', object, htext', hobject, hmem⟩ := exists_mem_keys_addAll hfault hpart hkey
  obtain rfl := Except.ok.inj (hkeyText.symm.trans htext')
  obtain ⟨built, hbuilt, hcarries⟩ := exists_carriesRecords_of_build hbuild hobject
  obtain ⟨record, hasKey, hrecord⟩ := hcarries.keys _ hmem
  obtain ⟨found, hfound, hfield⟩ := findField_eq_ok_iff.1 hdeclaration
  obtain rfl := Option.some.inj (hobject.symm.trans hfound)
  obtain ⟨all, hall, resolver, hresolver, hname, hresolved⟩ :=
    hcarries.requires declaration (List.mem_of_find?_eq_some hfield)
  obtain ⟨record', hasRequired, hlast⟩ := requiredRecord_of_mem hall hrequires
  obtain rfl := keyOf_eq_of_requiredRecord hrequiresText hasKey hasRequired
  exact ⟨record, hasKey, hasRequired, built, hbuilt, hcarries.name, hrecord, resolver, hresolver,
    hname, fun h => hresolved.trans (hlast h)⟩

/-- A directive with a field set. -/
def withFields (name text : String) : Directive :=
  ⟨name, [("fields", some (RawText.ofString text))]⟩

/-- The declaration of a field without arguments. -/
def declared (name : String) (type : TypeRef) (directives : List Directive) : FieldDeclaration :=
  ⟨name, type, [], directives, none⟩

/-- The definition of an object type. -/
def defined (name : String) (directives : List Directive) (fields : List FieldDeclaration) :
    ObjectPart :=
  ⟨name, false, directives, fields, none⟩

/-- An object type with a key and a required field set of the same text. -/
def itemWith (text : String) : ObjectPart :=
  defined "Item" [withFields "key" text] [declared "id" (.nonNull (.named "ID")) [],
    declared "size" (.named "Int") [withFields "requires" text]]

/-- How the two field sets of such a type are read. -/
def recordsOfItem (text : String) : Option Record × Option Record :=
  let collected := ({} : Collected).addAll [.object (itemWith text)]
  ((collected.keyOf "Item" (singleSpaced text)).toOption,
    (requiredRecord collected.objects "Item" [] [withFields "requires" text]).toOption)

/-- A document with words on two lines. -/
def twoLines : String :=
  "type Item @key(fields: \"id\\n  size\") \x7b id: ID! size: Int @requires(fields: \"id\\n  size\") \x7d"

/-- The line end makes no difference. -/
theorem key_eq_requires_twoLines : ∃ schema, schemaOfDocument twoLines = .ok schema ∧
    plainlySpaced "id\n  size".toList ∧ ∃ record, ∃ built ∈ schema.objects, built.name = "Item" ∧
      (∃ keys, built.kind = .entity keys ∧ record ∈ keys) ∧
      ∃ resolver ∈ built.resolvers, resolver.name = "size" ∧ resolver.requires = record := by
  have hparse : Graphql.parseDocument twoLines = .ok [.object (itemWith "id\n  size")] := by
    decide +kernel
  have hplain : plainlySpaced "id\n  size".toList := by decide +kernel
  let size := declared "size" (.named "Int") [withFields "requires" "id\n  size"]
  have hfield : findField (({} : Collected).addAll [.object (itemWith "id\n  size")]).objects
      (itemWith "id\n  size").name size.name = .ok size := by
    decide +kernel
  have hschema : (schemaOfDocument twoLines).toOption.isSome := by decide +kernel
  obtain ⟨schema, hschema⟩ := Option.isSome_iff_exists.1 hschema
  rw [toOption_eq_some_iff] at hschema
  have hkey : withFields "key" "id\n  size" ∈
      directivesNamed (itemWith "id\n  size").directives "key" := by
    decide
  obtain ⟨-, -, h⟩ := key_eq_requires_of_document hparse (List.mem_singleton.2 rfl) hkey hfield
    (List.mem_singleton.2 rfl) rfl rfl
  obtain ⟨record, -, -, built, hbuilt, hname, hkeys, resolver, hresolver, hsize, hlast⟩ :=
    h schema hschema
  exact ⟨schema, hschema, hplain, record, built, hbuilt, hname, hkeys, resolver, hresolver, hsize,
    hlast rfl⟩

/-- A document with a comment that a line end closes. -/
def commented : String :=
  "type Item @key(fields: \"id # c\\n\") \x7b id: ID! size: Int @requires(fields: \"id # c\\n\") \x7d"

/-- A key is refused where a line end closes a comment, and accepted where it cuts off a
string or where a blank is none of the grammar. The required field set of the same text is
accepted and refused the other way round. -/
theorem key_ne_requires_blanks :
    Graphql.parseDocument commented = .ok [.object (itemWith "id # c\n")] ∧
      recordsOfItem "id # c\n" = (none, some [("id", .nonNull (.named "ID"))]) ∧
      recordsOfItem "id(a: \"b\nc\")" = (some [("id", .nonNull (.named "ID"))], none) ∧
      recordsOfItem "id\u00a0" = (some [("id", .nonNull (.named "ID"))], none) := by
  refine ⟨?_, ?_, ?_, ?_⟩ <;> decide +kernel

end ResolverTypings.Federation
