import ResolverTypings.Proofs.Federation.Merging
import ResolverTypings.Proofs.TypeScript.Lines

/-!
# The values of enums

The definitions and extensions of an enum give it their values in the order in which they come
up, whatever documents they stand in, and the union that is written for the enum is read back as
these values. A later part adds only what is not there, but it adds what it says twice two times,
and so does the first part. A value stands in the union as often as in the first part that
mentions it, and where no part has a value there is nothing to make a union of.
-/
namespace ResolverTypings

/-! ## Unions of literals -/

namespace TypeScript

/-- The literals of a union that has been cut at its quotes, behind the first of them. -/
def literalsBehind? : List (List Char) → Option (List String)
  | [value, []] => some [String.ofList value]
  | value :: [' ', '|', ' '] :: rest => (literalsBehind? rest).map (String.ofList value :: ·)
  | _ => none

/-- The literals of a union: at least one quoted value, with bars between them. -/
def literals? (union : String) : Option (List String) :=
  match union.toList.splitOn '"' with
  | [] :: pieces => literalsBehind? pieces
  | _ => none

/-- A union behind its first quote: a value and a quote, then a bar in front of the union of the
other values if there are any. -/
def behindQuote (value : String) (values : List String) : List Char :=
  value.toList ++ '"' ::
    if values = [] then [] else ' ' :: '|' :: ' ' :: (alternatives values).toList

theorem toList_alternatives_cons (value : String) (values : List String) :
    (alternatives (value :: values)).toList = '"' :: behindQuote value values := by
  cases values with
  | nil => simp [alternatives, behindQuote]
  | cons next values => simp [alternatives, behindQuote, String.intercalate_cons_cons]

theorem splitOn_quote_cons (rest : List Char) :
    ('"' :: rest).splitOn '"' = [] :: rest.splitOn '"' := by
  have hnothing : '"' ∉ ([] : List Char) := List.not_mem_nil
  exact List.splitOn_append_cons_self_of_not_mem hnothing rest

theorem splitOn_bar_quote_cons (rest : List Char) :
    (' ' :: '|' :: ' ' :: '"' :: rest).splitOn '"' = [' ', '|', ' '] :: rest.splitOn '"' := by
  have hbar : '"' ∉ [' ', '|', ' '] := by decide
  exact List.splitOn_append_cons_self_of_not_mem hbar rest

theorem literalsBehind?_behindQuote {value : String} {values : List String}
    (hvalue : '"' ∉ value.toList) (h : ∀ other ∈ values, '"' ∉ other.toList) :
    literalsBehind? ((behindQuote value values).splitOn '"') = some (value :: values) := by
  induction values generalizing value with
  | nil =>
    rw [behindQuote, List.splitOn_append_cons_self_of_not_mem hvalue]
    simp [literalsBehind?]
  | cons next values ih =>
    rw [List.forall_mem_cons] at h
    rw [behindQuote, List.splitOn_append_cons_self_of_not_mem hvalue,
      if_neg (List.cons_ne_nil _ _), toList_alternatives_cons, splitOn_bar_quote_cons,
      literalsBehind?, ih h.1 h.2, Option.map_some, String.ofList_toList]

/-- Values without quotes are read back from their union. Without a value it is none. -/
theorem literals?_alternatives {values : List String} (h : ∀ value ∈ values, '"' ∉ value.toList) :
    literals? (alternatives values) = if values = [] then none else some values := by
  cases values with
  | nil => rfl
  | cons value values =>
    rw [List.forall_mem_cons] at h
    rw [literals?, toList_alternatives_cons, splitOn_quote_cons, if_neg (List.cons_ne_nil _ _)]
    exact literalsBehind?_behindQuote h.1 h.2

/-- The name of the union of an enum. -/
def unionName (settings : Settings) (enum : EnumType) : String :=
  if settings.internalEnumValues then enum.name ++ "External" else enum.name

/-- What is declared of an enum beside its union: its own name, if that is left open. -/
def openedText (settings : Settings) (enum : EnumType) : String :=
  if settings.internalEnumValues then "export type " ++ enum.name ++ " = any\n" else ""

theorem enumText_eq (settings : Settings) (enum : EnumType) :
    enumText settings enum = "export type " ++ unionName settings enum ++ " = " ++
      alternatives enum.values ++ "\n" ++ openedText settings enum := by
  rw [← String.toList_inj]
  cases hsetting : settings.internalEnumValues <;>
    simp [enumText, unionName, openedText, hsetting]

end TypeScript

namespace Federation

open Graphql (Definition EnumPart isName isNamePart)
open TypeScript

/-! ## What parts come to -/

/-- The names of enums in the order in which definitions and extensions mention them. -/
def enumNames (definitions : List Definition) : List String :=
  ((enumParts definitions).map (·.name)).eraseDups

/-- How often a value stands in the first part that mentions it. -/
def firstCount (parts : List EnumPart) (value : String) : Nat :=
  ((parts.find? (·.values.contains value)).map (·.values.count value)).getD 0

theorem firstCount_cons (part : EnumPart) (parts : List EnumPart) (value : String) :
    firstCount (part :: parts) value =
      if value ∈ part.values then part.values.count value else firstCount parts value := by
  by_cases hvalue : value ∈ part.values <;> simp [firstCount, hvalue]

namespace CollectedEnum

/-- Leaving out what is there already leaves the first occurrences as they are. -/
theorem eraseDups_values_foldl_merge (enum : CollectedEnum) (parts : List EnumPart) :
    (parts.foldl merge enum).values.eraseDups =
      (enum.values ++ parts.flatMap (·.values)).eraseDups := by
  induction parts generalizing enum with
  | nil => simp
  | cons part rest ih =>
    have hnew : (part.values.filter fun value => !enum.values.contains value) =
        part.values.removeAll enum.values := rfl
    rw [List.foldl_cons, ih, merge, hnew, List.flatMap_cons, List.append_assoc,
      List.eraseDups_append, List.eraseDups_append]
    simp [List.removeAll]

theorem count_values_merge (enum : CollectedEnum) (part : EnumPart) (value : String) :
    (enum.merge part).values.count value =
      if value ∈ enum.values then enum.values.count value else part.values.count value := by
  by_cases hvalue : value ∈ enum.values
  · have hnew : value ∉ part.values.filter fun other => !enum.values.contains other := by
      simp [hvalue]
    rw [if_pos hvalue, merge, List.count_append, List.count_eq_zero_of_not_mem hnew,
      Nat.add_zero]
  · rw [if_neg hvalue, merge, List.count_append, List.count_eq_zero_of_not_mem hvalue,
      List.count_filter (by simp [hvalue]), Nat.zero_add]

/-- A value that is not there before is taken from the first part that mentions it. -/
theorem count_values_foldl_merge (enum : CollectedEnum) (parts : List EnumPart)
    (value : String) : (parts.foldl merge enum).values.count value =
      if value ∈ enum.values then enum.values.count value else firstCount parts value := by
  induction parts generalizing enum with
  | nil =>
    by_cases hvalue : value ∈ enum.values
    · rw [if_pos hvalue]
      rfl
    · rw [if_neg hvalue]
      exact List.count_eq_zero_of_not_mem hvalue
  | cons part rest ih =>
    rw [List.foldl_cons, ih, count_values_merge, firstCount_cons]
    by_cases hvalue : value ∈ enum.values
    · simp [merge, hvalue]
    · by_cases hpart : value ∈ part.values <;> simp [merge, hvalue, hpart]

end CollectedEnum

/-! ## Enums of a schema -/

/-- An enum of a schema against its definitions and extensions. -/
structure ListsValuesOf (parts : List EnumPart) (enum : EnumType) : Prop where
  /-- Its values are those of all parts, in the order in which they come up first. -/
  firsts : enum.values.eraseDups = (parts.flatMap (·.values)).eraseDups
  /-- A value is repeated just as in the first part that mentions it. -/
  count : ∀ value, enum.values.count value = firstCount parts value
  nodup_iff : enum.values.Nodup ↔ ∀ value, firstCount parts value ≤ 1
  ne_nil_iff : enum.values ≠ [] ↔ ∃ part ∈ parts, part.values ≠ []
  /-- Its union is read back as its values, if there are any. -/
  union : ∀ settings, ∃ union, enumText settings enum =
      "export type " ++ unionName settings enum ++ " = " ++ union ++ "\n" ++
        openedText settings enum ∧
    literals? union = if enum.values = [] then none else some enum.values

theorem not_mem_quote_of_isName {value : String} (h : isName value) : '"' ∉ value.toList := by
  intro hquote
  exact absurd (isNamePart_of_isName h '"' hquote) (by decide)

theorem listsValuesOf_foldl_merge {parts : List EnumPart} {enum : EnumType}
    (hnames : ∀ part ∈ parts, ∀ value ∈ part.values, isName value)
    (hvalues : enum.values = (parts.foldl CollectedEnum.merge CollectedEnum.empty).values) :
    ListsValuesOf parts enum := by
  have hcount : ∀ value, enum.values.count value = firstCount parts value := by
    intro value
    rw [hvalues, CollectedEnum.count_values_foldl_merge]
    exact if_neg (List.not_mem_nil)
  have hmem : ∀ value, value ∈ enum.values ↔ ∃ part ∈ parts, value ∈ part.values := by
    intro value
    rw [hvalues, CollectedEnum.mem_values_foldl_merge]
    exact or_iff_right List.not_mem_nil
  refine ⟨?_, hcount, ?_, ?_, fun settings => ⟨_, enumText_eq settings enum, ?_⟩⟩
  · rw [hvalues, CollectedEnum.eraseDups_values_foldl_merge]
    rfl
  · rw [List.nodup_iff_count_le_one]
    exact forall_congr' fun value => by rw [hcount]
  · constructor
    · intro hne
      obtain ⟨value, hvalue⟩ := List.exists_mem_of_ne_nil _ hne
      obtain ⟨part, hpart, hvalue⟩ := (hmem value).1 hvalue
      exact ⟨part, hpart, List.ne_nil_of_mem hvalue⟩
    · rintro ⟨part, hpart, hne⟩
      obtain ⟨value, hvalue⟩ := List.exists_mem_of_ne_nil _ hne
      exact List.ne_nil_of_mem ((hmem value).2 ⟨part, hpart, hvalue⟩)
  · refine literals?_alternatives fun value hvalue => ?_
    obtain ⟨part, hpart, hvalue⟩ := (hmem value).1 hvalue
    exact not_mem_quote_of_isName (hnames part hpart value hvalue)

/-- The enums of a schema are those that a run has read, each merged from its parts. -/
theorem SchemaReader.enums_of_build {steps : List Step} {schema : Schema}
    (h : (run {} steps).build.2 = .ok schema) :
    schema.enums = (enumNames (definitionsRead steps)).map fun name =>
      Collected.enumOf (name, (enumPartsNamed name (definitionsRead steps)).foldl
        CollectedEnum.merge CollectedEnum.empty) := by
  obtain ⟨-, hschema⟩ := Collected.build_eq_ok_iff.1 (build_eq_ok_iff.1 h)
  obtain ⟨objects, -, rfl⟩ := Collected.schema_eq_ok_iff.1 hschema
  have hnoted : (run {} steps).collected.noteProvided.1.enums = (run {} steps).collected.enums :=
    rfl
  rw [hnoted, enums_run, Collected.gatherEnums, Table.gather_nil, List.map_map]
  rfl

theorem isName_of_mem_enumPartsNamed {steps : List Step} {name : String} {part : EnumPart}
    (h : part ∈ enumPartsNamed name (definitionsRead steps)) :
    ∀ value ∈ part.values, isName value := by
  obtain ⟨definition, hdefinition, hpart⟩ := List.mem_filterMap.1 (List.mem_of_mem_filter h)
  have hproper := isProper_of_mem_definitionsRead hdefinition
  cases definition <;> cases hpart
  exact hproper

/-- **The values of an enum.** A schema that is built after any run has the enums that its
documents mention. Each of them has the values of its definitions and extensions, and nothing
else, in the order in which they come up first, and its union is read back as these values. No
value is repeated just if none is repeated in the first part that mentions it, and there is a
value just if a part has one. -/
theorem listsValuesOf_of_run {steps : List Step} {schema : Schema}
    (h : (SchemaReader.run {} steps).build.2 = .ok schema) :
    schema.enums.map (·.name) = enumNames (definitionsRead steps) ∧
      ∀ enum ∈ schema.enums,
        ListsValuesOf (enumPartsNamed enum.name (definitionsRead steps)) enum := by
  rw [SchemaReader.enums_of_build h]
  constructor
  · rw [List.map_map]
    exact List.map_id _
  · intro enum henum
    obtain ⟨name, -, rfl⟩ := List.mem_map.1 henum
    exact listsValuesOf_foldl_merge (fun part hpart => isName_of_mem_enumPartsNamed hpart) rfl

/-- An extension in front of the definition of its enum, with a build between them. -/
def growingSize : List Step :=
  [.read "more" "extend enum Size \x7b L S \x7d", .build, .read "sizes" "enum Size \x7b S M \x7d"]

theorem listsValuesOf_growingSize : ∃ schema,
    (SchemaReader.run {} growingSize).build.2 = .ok schema ∧
      schema.enums = [⟨"Size", ["L", "S", "M"], none⟩] ∧
      enumText {} ⟨"Size", ["L", "S", "M"], none⟩ =
        "export type Size = \"L\" | \"S\" | \"M\"\n" ∧
      ListsValuesOf (enumPartsNamed "Size" (definitionsRead growingSize))
        ⟨"Size", ["L", "S", "M"], none⟩ := by
  have hbuilt : (SchemaReader.run {} growingSize).build.2.map (·.enums) =
      .ok [⟨"Size", ["L", "S", "M"], none⟩] := by
    decide +kernel
  obtain ⟨schema, hschema, henums⟩ := map_eq_ok_iff.1 hbuilt
  have hmem : ⟨"Size", ["L", "S", "M"], none⟩ ∈ schema.enums := by
    rw [henums]
    exact List.mem_cons_self
  have hlists := (listsValuesOf_of_run hschema).2 ⟨"Size", ["L", "S", "M"], none⟩ hmem
  exact ⟨schema, hschema, henums, by decide +kernel, hlists⟩

/-- A value that is said twice in one definition is repeated in the union, and a definition
without values makes a union of nothing. -/
theorem repeatsValue_and_listsNothing :
    (∃ schema,
      (SchemaReader.run {} [.read "sizes" "enum Size \x7b S S \x7d"]).build.2 = .ok schema ∧
      ∃ enum ∈ schema.enums, ¬ enum.values.Nodup ∧
        enumText {} enum = "export type Size = \"S\" | \"S\"\n") ∧
    ∃ schema, (SchemaReader.run {} [.read "sizes" "enum Size"]).build.2 = .ok schema ∧
      ∃ enum ∈ schema.enums, enum.values = [] ∧ enumText {} enum = "export type Size = \n" := by
  have hrepeated : (SchemaReader.run {} [.read "sizes" "enum Size \x7b S S \x7d"]).build.2.map
      (·.enums) = .ok [⟨"Size", ["S", "S"], none⟩] := by
    decide +kernel
  have hempty : (SchemaReader.run {} [.read "sizes" "enum Size"]).build.2.map (·.enums) =
      .ok [⟨"Size", [], none⟩] := by
    decide +kernel
  constructor
  · obtain ⟨schema, hschema, henums⟩ := map_eq_ok_iff.1 hrepeated
    refine ⟨schema, hschema, ⟨"Size", ["S", "S"], none⟩, ?_, by decide, by decide +kernel⟩
    rw [henums]
    exact List.mem_cons_self
  · obtain ⟨schema, hschema, henums⟩ := map_eq_ok_iff.1 hempty
    refine ⟨schema, hschema, ⟨"Size", [], none⟩, ?_, rfl, by decide +kernel⟩
    rw [henums]
    exact List.mem_cons_self

end Federation
end ResolverTypings
