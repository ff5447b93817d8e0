import ResolverTypings.Proofs.TypeScript.TopLevel
import ResolverTypings.Schema.Filter

/-!
# Files of filtered schemas

Filters look at names alone, so a definition stays if its name passes every one of them,
whatever their order and however often they are applied. The file of what stays is the file of
the whole schema with pieces left out: each definition that is dropped takes its entry and its
declarations with it, and nothing else changes. That an entry is required hangs on the roots of
the whole schema, but only on those with the name of the entry, and these stay with it.
-/
namespace ResolverTypings

/-! ## Filtered schemas -/

/-- Whether a name passes all filters. -/
def passesAll (filters : List NameFilter) (name : String) : Bool :=
  filters.all (·.accepts name)

namespace Schema

variable (schema : Schema) {filters others : List NameFilter}

/-- The schema of the definitions whose names satisfy a condition. -/
def keep (stays : String → Bool) : Schema where
  objects := schema.objects.filter fun object => stays object.name
  enums := schema.enums.filter fun enum => stays enum.name
  scalars := schema.scalars.filter fun scalar => stays scalar.name

/-- Filters keep what passes all of them. -/
theorem filterAll_eq_keep (filters : List NameFilter) :
    schema.filterAll filters = schema.keep (passesAll filters) := by
  induction filters generalizing schema with
  | nil => simp [keep, passesAll]
  | cons names rest ih =>
    rw [filterAll_cons, ih]
    simp [keep, filter, passesAll, List.filter_filter, Bool.and_comm]

/-- Neither the order of filters counts nor how often one of them is applied. -/
theorem filterAll_congr (h : ∀ names, names ∈ others ↔ names ∈ filters) :
    schema.filterAll others = schema.filterAll filters := by
  have hpasses : passesAll others = passesAll filters := by
    funext name
    rw [Bool.eq_iff_iff, passesAll, passesAll, List.all_eq_true, List.all_eq_true]
    exact forall_congr' fun names => by rw [h]
  rw [filterAll_eq_keep, filterAll_eq_keep, hpasses]

end Schema

namespace TypeScript

/-! ## The pieces of a file -/

/-- A piece of the text of a file, which belongs to a definition or to the file as such. -/
structure Piece where
  /-- The name of the definition. -/
  owner : Option String
  text : Text.RawText
  deriving Repr, DecidableEq, Inhabited

/-- Whether a piece stays where only some definitions do. -/
def Piece.isKept (stays : String → Bool) (piece : Piece) : Bool :=
  piece.owner.all stays

namespace Outline

/-- The pieces of a file in order. The line of an entry ends with a line end, and the one in
front of declarations joins them to what stands before. -/
def pieces (file : Outline) : List Piece :=
  [⟨none, fileHead ++ "\n" ++ ("export interface Resolvers" ++ resolverParameters ++ " \x7b\n")⟩] ++
    file.entries.map (fun entry => ⟨some entry.owner, entry.text ++ "\n"⟩) ++ [⟨none, "\x7d\n"⟩] ++
    file.declarations.map fun declaration => ⟨some declaration.owner, "\n" ++ declaration.text⟩

/-- The outline with the fragments of some definitions only. -/
def keep (file : Outline) (stays : String → Bool) : Outline where
  entries := file.entries.filter fun entry => stays entry.owner
  declarations := file.declarations.filter fun declaration => stays declaration.owner

/-- A file is its pieces, one behind the other. -/
theorem text_eq_flatMap_pieces (file : Outline) :
    file.text = file.pieces.flatMap (·.text) := by
  rw [text, intercalate_cons_eq_flatMap, resolversText_eq, pieces]
  simp [lineBlock, List.flatMap_map, Text.RawText.ofString]

theorem pieces_keep (file : Outline) (stays : String → Bool) :
    (file.keep stays).pieces = file.pieces.filter (·.isKept stays) := by
  simp [pieces, keep, Piece.isKept, List.filter_map, Function.comp_def]

end Outline

/-! ## What stays in a file -/

variable {schema : Schema} {stays : String → Bool}

/-- The roots with the name of an object that stays are those of the whole schema. -/
theorem contains_rootNames_keep {name : String} (hname : stays name) :
    (schema.keep stays).rootNames.contains name = schema.rootNames.contains name := by
  rw [Bool.eq_iff_iff, List.contains_iff_mem, List.contains_iff_mem]
  simp only [Schema.rootNames, Schema.keep, List.mem_map, List.mem_filter]
  constructor
  · rintro ⟨object, ⟨⟨hobject, -⟩, hroot⟩, rfl⟩
    exact ⟨object, ⟨hobject, hroot⟩, rfl⟩
  · rintro ⟨object, ⟨hobject, hroot⟩, rfl⟩
    exact ⟨object, ⟨⟨hobject, hname⟩, hroot⟩, rfl⟩

theorem objectEntry_keep {object : ObjectType} (hname : stays object.name) :
    objectEntry (schema.keep stays).rootNames object = objectEntry schema.rootNames object := by
  rw [objectEntry, objectEntry, contains_rootNames_keep hname]

theorem entries_keep (settings : Settings) (schema : Schema) (stays : String → Bool) :
    entries settings (schema.keep stays) =
      (entries settings schema).filter fun entry => stays entry.owner := by
  have hobjects : (schema.keep stays).objects.map (objectEntry (schema.keep stays).rootNames) =
      (schema.objects.map (objectEntry schema.rootNames)).filter fun entry => stays entry.owner := by
    rw [List.filter_map]
    refine List.map_congr_left fun object hobject => objectEntry_keep ?_
    exact (List.mem_filter.1 hobject).2
  rw [entries, hobjects, entries, List.filter_append, List.filter_append]
  congr 2
  · rw [List.filter_map]
    rfl
  · split
    · rw [List.filter_map]
      rfl
    · rfl

theorem layout_keep (settings : Settings) (schema : Schema) (stays : String → Bool) :
    layout settings (schema.keep stays) = (layout settings schema).keep stays := by
  have hdeclarations : (layout settings (schema.keep stays)).declarations =
      (layout settings schema).declarations.filter fun declaration => stays declaration.owner := by
    simp only [layout, List.filter_append, List.filter_map]
    rfl
  rw [Outline.keep, ← hdeclarations]
  exact congrArg (Outline.mk · _) (entries_keep settings schema stays)

/-- What has a text in the whole schema has one if only some definitions stay. -/
theorem hasText_keep (h : ∀ object ∈ schema.objects, object.HasText) (stays : String → Bool) :
    ∀ object ∈ (schema.keep stays).objects, object.HasText :=
  fun object hobject => h object (List.mem_filter.1 hobject).1

/-- **Filters take pieces out of a file.** Filters keep the definitions whose names pass all of
them, in their order, and it makes no difference in which order or how often they are applied.
If the whole schema has a file, then what they keep has one as well, and it is the same sequence
of pieces without those of the definitions that are dropped. -/
theorem generate_filterAll (settings : Settings) (schema : Schema) (filters : List NameFilter) :
    schema.filterAll filters = schema.keep (passesAll filters) ∧
      (∀ others, (∀ names, names ∈ others ↔ names ∈ filters) →
        schema.filterAll others = schema.filterAll filters) ∧
      ∀ text, generate settings schema = .ok text →
        text = (layout settings schema).pieces.flatMap (·.text) ∧
          generate settings (schema.filterAll filters) = .ok
            (((layout settings schema).pieces.filter (·.isKept (passesAll filters))).flatMap
              (·.text)) := by
  have hkeep := schema.filterAll_eq_keep filters
  refine ⟨hkeep, fun others => schema.filterAll_congr, fun text htext => ?_⟩
  obtain ⟨hobjects, htext⟩ := generate_eq_ok_iff.1 htext
  refine ⟨htext.trans (Outline.text_eq_flatMap_pieces _), generate_eq_ok_iff.2 ⟨?_, ?_⟩⟩
  · rw [hkeep]
    exact hasText_keep hobjects _
  · rw [hkeep, layout_keep, Outline.text_eq_flatMap_pieces, Outline.pieces_keep]

/-- An object that is a root in one of its two definitions, and definitions of all kinds that
are not meant for the file. -/
def hiddenTypes : Schema where
  objects := [{ name := "User" }, { name := "_Entity" }, { name := "User", isRootType := true }]
  enums := [{ name := "_Kind", values := ["A"] }]
  scalars := [{ name := "Date" }, { name := "DateDraft" }]

theorem generate_filterAll_hiddenTypes : ∃ text,
    generate { internalEnumValues := true } hiddenTypes = .ok text ∧
      generate { internalEnumValues := true } (hiddenTypes.filterAll
          [{ excludePrefix := some "_" }, { excludeSuffix := some "Draft" }]) =
        .ok (((layout { internalEnumValues := true } hiddenTypes).pieces.filter
          fun piece => piece.owner ∈ [none, some "User", some "Date"]).flatMap (·.text)) := by
  have hgenerate : generate { internalEnumValues := true } hiddenTypes =
      .ok (layout { internalEnumValues := true } hiddenTypes).text :=
    generate_eq_ok_iff.2 ⟨by decide, rfl⟩
  have hpieces : (layout { internalEnumValues := true } hiddenTypes).pieces.filter
        (·.isKept (passesAll [{ excludePrefix := some "_" }, { excludeSuffix := some "Draft" }])) =
      (layout { internalEnumValues := true } hiddenTypes).pieces.filter
        fun piece => piece.owner ∈ [none, some "User", some "Date"] :=
    List.filter_congr (by decide +kernel)
  have hfiltered := ((generate_filterAll { internalEnumValues := true } hiddenTypes
    [{ excludePrefix := some "_" }, { excludeSuffix := some "Draft" }]).2.2 _ hgenerate).2
  rw [hpieces] at hfiltered
  exact ⟨_, hgenerate, hfiltered⟩

end TypeScript
end ResolverTypings
