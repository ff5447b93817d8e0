import ResolverTypings.Proofs.Graphql.Names
import ResolverTypings.Proofs.Graphql.Soundness
import ResolverTypings.Proofs.Text.LineEnds

/-!
# Documents that differ in their line ends

Which characters end a line makes no difference to a document. A string between quotes holds no
line end, and a block string is read line by line; between tokens a line end is passed over, and
a comment ends in front of it. Where a text is read without a fault, a text with the same lines
is read into the same tokens.
-/
namespace ResolverTypings.Graphql

open Text (RawText SameLines behindLineEnd isBlank isLineEnd word)

/-! ## Strings -/

/-- A string between quotes has the same value in a text with the same lines. -/
theorem quotedValue_of_sameLines {cs ds value rest : List Char} (h : SameLines cs ds)
    {covered : Nat} (hcovered : covered ≤ (word cs).length)
    (hread : (quotedValue covered (RawText.ofChars cs)).Spells cs value rest) :
    ∃ rest', (quotedValue covered (RawText.ofChars ds)).Spells ds value rest' ∧
      SameLines rest rest' := by
  induction h generalizing covered value with
  | nil => cases covered <;> simp [quotedValue, throw_eq_error] at hread
  | @char c cs ds hc h ih =>
    rw [RawText.ofChars_cons] at hread ⊢
    cases covered with
    | succ covered =>
      simp only [quotedValue, spells_further] at hread ⊢
      exact ih (Text.le_length_word_of_succ hcovered).2 hread
    | zero =>
      simp only [quotedValue_cons_spells_iff] at hread ⊢
      rcases hread with ⟨rfl, rfl, rfl⟩ | ⟨rfl, d, length, found, rfl, hescape, hread⟩ |
        ⟨hquote, hslash, -, found, rfl, hread⟩
      · exact ⟨ds, .inl ⟨rfl, rfl, rfl⟩, h⟩
      · obtain ⟨hescape', hle⟩ := fromWord_escapeSequence h.word_eq hescape
        obtain ⟨rest', hread', hrest⟩ := ih hle hread
        exact ⟨rest', .inr (.inl ⟨rfl, d, length, found, rfl, hescape', hread'⟩), hrest⟩
      · obtain ⟨rest', hread', hrest⟩ := ih (Nat.zero_le _) hread
        exact ⟨rest', .inr (.inr ⟨hquote, hslash, hc, found, rfl, hread'⟩), hrest⟩
  | @line c d cs ds hc =>
    -- No string goes on behind a line end.
    have hcovered : covered = 0 := by
      simpa [word, Text.isBlank_of_isLineEnd hc] using hcovered
    subst hcovered
    rw [RawText.ofChars_cons, quotedValue_cons_spells_iff] at hread
    rcases hread with ⟨rfl, -⟩ | ⟨rfl, -⟩ | ⟨-, -, hline, -⟩
    · cases hc
    · cases hc
    · rw [hc] at hline
      cases hline

/-- A line end is neither a quote nor a backslash, so it belongs to the text of a block string. -/
theorem rawBlock_lineEnd_spells_iff {c : Char} (hc : isLineEnd c) {cs raw rest : List Char} :
    (rawBlock 0 (.char c :: RawText.ofChars cs)).Spells (c :: cs) raw rest ↔
      ∃ found, raw = c :: found ∧ (rawBlock 0 (RawText.ofChars cs)).Spells cs found rest := by
  have hquote : c ≠ '"' := by
    rintro rfl
    cases hc
  have hslash : c ≠ '\\' := by
    rintro rfl
    cases hc
  rw [rawBlock_cons_spells_iff]
  simp [tripleQuote, hquote.symm, hslash]

/-- The text of a block string starts with a line feed only where the string does. -/
theorem head?_ne_of_rawBlock {cs raw rest : List Char}
    (hread : (rawBlock 0 (RawText.ofChars cs)).Spells cs raw rest)
    (h : cs.head? ≠ some '\n') : raw.head? ≠ some '\n' := by
  cases cs with
  | nil => simp [rawBlock, throw_eq_error] at hread
  | cons c cs =>
    rw [RawText.ofChars_cons, rawBlock_cons_spells_iff] at hread
    rcases hread with ⟨-, rfl, -⟩ | ⟨-, -, found, rfl, -⟩ | ⟨-, -, found, rfl, -⟩
    · simp
    · simp [tripleQuote]
    · simpa using h

/-- Behind a line end of a block string, its text goes on behind that line end as well. -/
theorem rawBlock_behindLineEnd_spells_iff {c : Char} {cs raw rest : List Char} :
    (rawBlock 0 (RawText.ofChars (behindLineEnd c cs))).Spells (behindLineEnd c cs) raw rest ↔
      ∃ found, (rawBlock 0 (RawText.ofChars cs)).Spells cs found rest ∧
        behindLineEnd c found = raw := by
  by_cases hends : c = '\r' ∧ cs.head? = some '\n'
  · obtain ⟨rfl, hfeed⟩ := hends
    obtain ⟨cs, rfl⟩ := List.head?_eq_some_iff.1 hfeed
    have hbehind : ∀ es, behindLineEnd '\r' ('\n' :: es) = es := fun _ => rfl
    simp only [hbehind, RawText.ofChars_cons, rawBlock_lineEnd_spells_iff (c := '\n') rfl]
    constructor
    · intro hread
      exact ⟨_, ⟨raw, rfl, hread⟩, rfl⟩
    · rintro ⟨_, ⟨found, rfl, hread⟩, rfl⟩
      exact hread
  · have hne : c = '\r' → cs.head? ≠ some '\n' := fun hc hfeed => hends ⟨hc, hfeed⟩
    rw [Text.behindLineEnd_of_ne hne]
    constructor
    · intro hread
      exact ⟨raw, hread, Text.behindLineEnd_of_ne fun hc => head?_ne_of_rawBlock hread (hne hc)⟩
    · rintro ⟨found, hread, rfl⟩
      rwa [Text.behindLineEnd_of_ne fun hc => head?_ne_of_rawBlock hread (hne hc)]

/-- The text of a block string has the same lines in a text with the same lines. -/
theorem rawBlock_of_sameLines {cs ds raw rest : List Char} (h : SameLines cs ds)
    {covered : Nat} (hcovered : covered ≤ (word cs).length)
    (hread : (rawBlock covered (RawText.ofChars cs)).Spells cs raw rest) :
    ∃ raw' rest', (rawBlock covered (RawText.ofChars ds)).Spells ds raw' rest' ∧
      SameLines raw raw' ∧ SameLines rest rest' := by
  have hquotes : ∀ c ∈ tripleQuote.toList, isBlank c = false := by simp [tripleQuote, isBlank]
  have hfronts : ∀ {es fs : List Char}, SameLines es fs →
      (tripleQuote.toList <+: es ↔ tripleQuote.toList <+: fs) := fun hfs =>
    Text.isPrefix_iff_of_word_eq hquotes hfs.word_eq
  have hlength : ∀ {es : List Char}, tripleQuote.toList <+: es → 3 ≤ (word es).length := by
    intro es h
    rw [← List.isPrefixOf_iff_prefix] at h
    exact Text.length_le_word_of_isPrefixOf hquotes h
  induction h generalizing covered raw with
  | nil => cases covered <;> simp [rawBlock, throw_eq_error] at hread
  | @char c cs ds hc h ih =>
    rw [RawText.ofChars_cons] at hread ⊢
    cases covered with
    | succ covered =>
      simp only [rawBlock, spells_further] at hread ⊢
      exact ih (Text.le_length_word_of_succ hcovered).2 hread
    | zero =>
      have hwhole : SameLines (c :: cs) (c :: ds) := .char hc h
      simp only [rawBlock_cons_spells_iff, ← hfronts h, ← hfronts hwhole] at hread ⊢
      rcases hread with ⟨hclose, rfl, rfl⟩ | ⟨rfl, hslashed, found, rfl, hread⟩ |
        ⟨hclose, hescape, found, rfl, hread⟩
      · exact ⟨[], _, .inl ⟨hclose, rfl, rfl⟩, .nil, hwhole.drop (hlength hclose)⟩
      · obtain ⟨raw', rest', hread', hraw, hrest⟩ := ih (hlength hslashed) hread
        refine ⟨_, rest', .inr (.inl ⟨rfl, hslashed, raw', rfl, hread'⟩), ?_, hrest⟩
        exact .char rfl (.char rfl (.char rfl hraw))
      · obtain ⟨raw', rest', hread', hraw, hrest⟩ := ih (Nat.zero_le _) hread
        exact ⟨_, rest', .inr (.inr ⟨hclose, hescape, raw', rfl, hread'⟩), .char hc hraw, hrest⟩
  | @line c d cs ds hc hd h ih =>
    have hcovered : covered = 0 := by
      simpa [word, Text.isBlank_of_isLineEnd hc] using hcovered
    subst hcovered
    rw [RawText.ofChars_cons, rawBlock_lineEnd_spells_iff hc] at hread
    obtain ⟨found, rfl, hread⟩ := hread
    obtain ⟨raw', rest', hread', hraw, hrest⟩ :=
      ih (Nat.zero_le _) (rawBlock_behindLineEnd_spells_iff.2 ⟨found, hread, rfl⟩)
    obtain ⟨found', hbehind, rfl⟩ := rawBlock_behindLineEnd_spells_iff.1 hread'
    refine ⟨d :: found', rest', ?_, .line hc hd hraw, hrest⟩
    rw [RawText.ofChars_cons, rawBlock_lineEnd_spells_iff hd]
    exact ⟨found', rfl, hbehind⟩

/-- A block string has the value of its lines. -/
theorem blockValue_of_sameLines {raw raw' : List Char} (h : SameLines raw raw') :
    blockValue (RawText.ofChars raw) = blockValue (RawText.ofChars raw') := by
  rw [blockValue, blockValue, h.lines_eq]

/-! ## Tokens -/

/-- A token is read from a text with the same lines as well. -/
theorem Scans.of_sameLines {c : Char} {cs ds rest : List Char} {token : Token}
    (hscan : Scans c cs token rest) (h : SameLines cs ds) :
    ∃ rest', Scans c ds token rest' ∧ SameLines rest rest' := by
  by_cases hquote : c = '"'
  · subst hquote
    have hquotes : ['"', '"'] <+: cs ↔ ['"', '"'] <+: ds :=
      Text.isPrefix_iff_of_word_eq (by simp [isBlank]) h.word_eq
    by_cases hblock : ['"', '"'] <+: cs
    · obtain ⟨es, rfl⟩ := hblock
      obtain ⟨_, rfl, hbehind⟩ := h.cons rfl
      obtain ⟨fs, rfl, hes⟩ := hbehind.cons rfl
      obtain ⟨raw, rfl, hread⟩ := scans_block_iff.1 hscan
      obtain ⟨raw', rest', hread', hraw, hrest⟩ :=
        rawBlock_of_sameLines hes (Nat.zero_le _) hread
      exact ⟨rest', scans_block_iff.2 ⟨raw', by rw [blockValue_of_sameLines hraw], hread'⟩, hrest⟩
    · obtain ⟨value, rfl, hread⟩ := (scans_quoted_iff hblock).1 hscan
      obtain ⟨rest', hread', hrest⟩ := quotedValue_of_sameLines h (Nat.zero_le _) hread
      rw [hquotes] at hblock
      exact ⟨rest', (scans_quoted_iff hblock).2 ⟨value, rfl, hread'⟩, hrest⟩
  · obtain ⟨length, hscan, rfl⟩ := hscan
    obtain ⟨hscan', hle⟩ := scanToken_of_word hquote h.word_eq hscan
    exact ⟨_, ⟨length, hscan', rfl⟩, h.drop hle⟩

/-- What follows a comment has the same lines in a text with the same lines. -/
theorem behindComment_of_sameLines {cs ds : List Char} (h : SameLines cs ds) :
    SameLines (behindComment cs) (behindComment ds) := by
  induction h with
  | nil => exact .nil
  | char hc _ ih => simpa [behindComment, hc] using ih
  | line hc hd h => simpa [behindComment, hc, hd] using SameLines.line hc hd h

theorem isIgnored_of_isLineEnd {c : Char} (h : isLineEnd c) : isIgnored c := by
  simp [isIgnored, h]

/-- Between tokens, a line end is passed over as a whole. -/
theorem tokensOf_lineEnd {c : Char} (hc : isLineEnd c) (cs : List Char) :
    tokensOf (c :: cs) = tokensOf (behindLineEnd c cs) := by
  rw [tokensOf_cons, if_pos (isIgnored_of_isLineEnd hc)]
  by_cases hends : c = '\r' ∧ cs.head? = some '\n'
  · obtain ⟨rfl, hfeed⟩ := hends
    obtain ⟨cs, rfl⟩ := List.head?_eq_some_iff.1 hfeed
    rw [tokensOf_cons, if_pos (isIgnored_of_isLineEnd rfl)]
    rfl
  · rw [behindLineEnd, if_neg hends]

/-- Where a text is read without a fault, a text with the same lines is read into the same
tokens. -/
theorem tokensOf_of_sameLines {cs ds : List Char} (h : SameLines cs ds)
    (hvalid : ∀ fault, .invalid fault ∉ tokensOf cs) : tokensOf ds = tokensOf cs := by
  induction hlength : cs.length using Nat.strong_induction_on generalizing cs ds with
  | _ n ih =>
    subst hlength
    cases h with
    | nil => rfl
    | @line c d cs ds hc hd h =>
      rw [tokensOf_lineEnd hc] at hvalid ⊢
      rw [tokensOf_lineEnd hd]
      exact ih _ (Nat.lt_succ_of_le (Text.length_behindLineEnd_le c cs)) h hvalid rfl
    | @char c cs ds hc h =>
      rw [tokensOf_cons] at hvalid ⊢
      rw [tokensOf_cons]
      split_ifs at hvalid ⊢ with hignored hcomment
      · exact ih _ (by simp) h hvalid rfl
      · exact ih _ (Nat.lt_succ_of_le (length_behindComment_le cs))
          (behindComment_of_sameLines h) hvalid rfl
      · rcases hscan : scanToken c (RawText.ofChars cs) with ⟨fault, before⟩ | ⟨token, length⟩
        · simp [hscan] at hvalid
        · have hscans : Scans c cs token (cs.drop (length - 1)) := ⟨length, hscan, rfl⟩
          obtain ⟨_, ⟨length', hscan', rfl⟩, hrest⟩ := hscans.of_sameLines h
          simp only [hscan, hscan', List.mem_cons, not_or] at hvalid ⊢
          rw [ih _ ?_ hrest (fun fault => (hvalid fault).2) rfl]
          simp only [List.length_drop, List.length_cons]
          omega

/-- A text and one with the same lines are the same document. -/
theorem parseDocument_of_sameLines {cs ds : List Char} (h : SameLines cs ds)
    {found : List Definition} (hparse : parseDocument (RawText.ofChars cs) = .ok found) :
    parseDocument (RawText.ofChars ds) = .ok found := by
  have hend : .endOfInput ∈ tokensOf cs := endOfInput_mem_of_parseDocument hparse
  have htokens : tokensOf ds = tokensOf cs :=
    tokensOf_of_sameLines h ((ended_tokensOf cs).invalid_not_mem hend)
  obtain ⟨rest, hrun⟩ := parseDocument_eq_ok_iff.1 hparse
  refine parseDocument_eq_ok_iff.2 ⟨rest, ?_⟩
  change definitions.run (tokensOf ds) = _
  rw [htokens]
  exact hrun

end ResolverTypings.Graphql
