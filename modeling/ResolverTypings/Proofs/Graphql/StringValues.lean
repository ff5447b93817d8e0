import ResolverTypings.Proofs.Graphql.Names
import ResolverTypings.Proofs.Text.RawTexts

/-!
# Surrogates in string values

A string holds a surrogate only if its document does: an escape always stands for a character,
and the lines of a block string are parts of its text. So where a document is a text, all
descriptions and all strings of its directives are texts as well.
-/
namespace ResolverTypings.Graphql

open Text (RawText CodePoint)

/-! ## Strings between quotes -/

theorem StringResult.further_eq_ok_iff {result : StringResult} {value : RawText} {length : Nat} :
    result.further = .ok (value, length) ↔
      ∃ before, result = .ok (value, before) ∧ length = before + 1 := by
  rcases result with fault | ⟨found, before⟩
  · simp [StringResult.further]
  · simp [StringResult.further, eq_comm]

theorem StringResult.behind_eq_ok_iff {result : StringResult} {front value : RawText}
    {length : Nat} : result.behind front = .ok (value, length) ↔
      ∃ found, result = .ok (found, length) ∧ value = front ++ found := by
  rcases result with fault | ⟨found, before⟩
  · simp [StringResult.behind, Except.map]
  · simp [StringResult.behind, Except.map, eq_comm, and_comm]

/-- The character in front is made up of code points of the text. -/
theorem isPrefix_of_front? {text front : RawText} (h : text.front? = some front) :
    front <+: text := by
  unfold RawText.front? at h
  split at h
  · cases h
    exact ⟨_, rfl⟩
  · split at h
    · cases h
      exact ⟨_, rfl⟩
    · cases h
  · cases h

theorem isUnbroken_of_stringFront {text front : RawText} {point : CodePoint}
    (htext : text.IsUnbroken) (h : stringFront text point = .ok front) : front.IsUnbroken := by
  unfold stringFront at h
  split at h
  · next found hfound =>
    cases h
    exact htext.of_subset (isPrefix_of_front? hfound).subset
  · cases h

/-- A value that goes on behind a front holds a surrogate only if the front or its rest does. -/
theorem isUnbroken_of_behind {rest : StringResult} {front value : RawText} {length : Nat}
    (hfront : front.IsUnbroken)
    (hrest : ∀ {found before}, rest = .ok (found, before) → found.IsUnbroken)
    (h : rest.further.behind front = .ok (value, length)) : value.IsUnbroken := by
  obtain ⟨found, hfound, rfl⟩ := StringResult.behind_eq_ok_iff.1 h
  obtain ⟨before, hbefore, -⟩ := StringResult.further_eq_ok_iff.1 hfound
  exact RawText.isUnbroken_append.2 ⟨hfront, hrest hbefore⟩

theorem isUnbroken_of_quotedValue {covered : Nat} {text value : RawText} {length : Nat}
    (htext : text.IsUnbroken) (h : quotedValue covered text = .ok (value, length)) :
    value.IsUnbroken := by
  fun_induction quotedValue covered text generalizing value length with
  | case1 => cases h
  | case2 _ _ _ ih =>
    obtain ⟨before, hrest, -⟩ := StringResult.further_eq_ok_iff.1 h
    exact ih (RawText.isUnbroken_cons.1 htext).2 hrest
  | case3 =>
    cases h
    exact RawText.isUnbroken_nil
  | case4 => cases h
  | case5 _ _ _ _ _ ih =>
    -- An escape stands for a character.
    exact isUnbroken_of_behind (RawText.isUnbroken_ofChars [_])
      (ih (RawText.isUnbroken_cons.1 htext).2) h
  | case6 => cases h
  | case7 _ _ _ _ _ _ hfront => cases h
  | case8 _ _ _ _ _ front hfront ih =>
    exact isUnbroken_of_behind (isUnbroken_of_stringFront htext hfront)
      (ih (RawText.isUnbroken_cons.1 htext).2) h

/-! ## Block strings -/

theorem isUnbroken_of_rawBlock {covered : Nat} {text raw : RawText} {length : Nat}
    (htext : text.IsUnbroken) (h : rawBlock covered text = .ok (raw, length)) :
    raw.IsUnbroken := by
  fun_induction rawBlock covered text generalizing raw length with
  | case1 => cases h
  | case2 _ _ _ ih =>
    obtain ⟨before, hrest, -⟩ := StringResult.further_eq_ok_iff.1 h
    exact ih (RawText.isUnbroken_cons.1 htext).2 hrest
  | case3 =>
    cases h
    exact RawText.isUnbroken_nil
  | case4 _ _ _ _ ih =>
    exact isUnbroken_of_behind (RawText.isUnbroken_ofString _)
      (ih (RawText.isUnbroken_cons.1 htext).2) h
  | case5 => cases h
  | case6 _ _ _ _ front hfront ih =>
    exact isUnbroken_of_behind (isUnbroken_of_stringFront htext hfront)
      (ih (RawText.isUnbroken_cons.1 htext).2) h

theorem subset_of_mem_lines {text line : RawText} (h : line ∈ Text.lines text) :
    line ⊆ text := by
  fun_induction Text.lines text generalizing line with
  | case1 =>
    obtain rfl := List.mem_singleton.1 h
    exact List.Subset.refl _
  | case2 rest ih =>
    rcases List.mem_cons.1 h with rfl | h
    · exact List.nil_subset _
    · exact fun point hpoint => List.mem_cons_of_mem _ (List.mem_cons_of_mem _ (ih h hpoint))
  | case3 point rest _ _ ih =>
    rcases List.mem_cons.1 h with rfl | h
    · exact List.nil_subset _
    · exact List.Subset.trans (ih h) (List.subset_cons_self point rest)
  | case4 point rest _ _ first others hlines ih =>
    rw [hlines] at ih
    rcases List.mem_cons.1 h with rfl | h
    · exact List.cons_subset_cons point (ih List.mem_cons_self)
    · exact List.Subset.trans (ih (List.mem_cons_of_mem first h))
        (List.subset_cons_self point rest)
  | case5 point rest =>
    rw [List.mem_singleton.1 h]
    exact List.cons_subset.2 ⟨List.mem_cons_self, List.nil_subset _⟩

/-- Each line that is kept is one of the lines, or the end of one. -/
theorem exists_subset_of_mem_dedent {lines : List RawText} {line : RawText}
    (h : line ∈ dedent lines) : ∃ whole ∈ lines, line ⊆ whole := by
  have hshifted : line ∈ lines.take 1 ++ (lines.drop 1).map (·.drop (commonIndent lines)) := by
    have hbehind := (List.dropWhile_sublist _).subset (List.mem_reverse.1 h)
    exact (List.dropWhile_sublist _).subset (List.mem_reverse.1 hbehind)
  rcases List.mem_append.1 hshifted with hfirst | hbehind
  · exact ⟨line, List.mem_of_mem_take hfirst, List.Subset.refl line⟩
  · obtain ⟨whole, hwhole, rfl⟩ := List.mem_map.1 hbehind
    exact ⟨whole, List.mem_of_mem_drop hwhole, List.drop_subset _ whole⟩

theorem isUnbroken_blockValue {raw : RawText} (h : raw.IsUnbroken) :
    (blockValue raw).IsUnbroken := by
  refine (RawText.isUnbroken_intercalate (RawText.isUnbroken_ofString _)).2 fun line hline => ?_
  obtain ⟨whole, hwhole, hsubset⟩ := exists_subset_of_mem_dedent hline
  exact h.of_subset (List.Subset.trans hsubset (subset_of_mem_lines hwhole))

/-! ## Documents -/

theorem hasText_of_scanString {text : RawText} {token : Token} {length : Nat}
    (htext : text.IsUnbroken) (h : scanString text = .ok (token, length)) :
    token.HasText RawText.IsUnbroken := by
  unfold scanString at h
  split at h
  · next rest =>
    have hrest : RawText.IsUnbroken rest :=
      (RawText.isUnbroken_cons.1 (RawText.isUnbroken_cons.1 htext).2).2
    split at h
    · next hraw =>
      cases h
      exact isUnbroken_blockValue (isUnbroken_of_rawBlock hrest hraw)
    · cases h
  · split at h
    · next hvalue =>
      cases h
      exact isUnbroken_of_quotedValue htext hvalue
    · cases h

/-- In a document without surrogates, no description and no string of a directive holds one. -/
theorem bears_of_isUnbroken {document : RawText} (hdocument : document.IsUnbroken)
    {found : List Definition} (h : parseDocument document = .ok found) :
    ∀ definition ∈ found, definition.Bears RawText.IsUnbroken :=
  bears_of_parseDocument (bearNames_lexemes fun _ hrest {_ _} =>
    hasText_of_scanString (hdocument.of_subset hrest.subset)) h

end ResolverTypings.Graphql
