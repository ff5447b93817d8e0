import ResolverTypings.Proofs.Graphql.Scanning
import ResolverTypings.Proofs.Graphql.StringValues

/-!
# Tokens of respaced texts

How a text is read into tokens, as a judgement: what a token is read from and what stands
behind it. A text with other blanks or another tail is read into the same tokens, strings
apart, as long as no comment and no string tells the blanks from one another.
-/
namespace ResolverTypings.Graphql

open Text (RawText CodePoint isBlank isLineEnd Respaced StartsBlank word)

/-! ## Strings -/

/-- The content of a string between quotes, which may pass from one text on to another. -/
inductive Content : List Char → List Char → Prop where
  | nothing (cs : List Char) : Content cs cs
  | escape {cs rest : List Char} {c : Char} {length : Nat} :
      escapeSequence (RawText.ofChars cs) = .ok (c, length) →
      Content (cs.drop (length - 1)) rest → Content ('\\' :: cs) rest
  | char {c : Char} {cs rest : List Char} : c ≠ '"' → c ≠ '\\' → isLineEnd c = false →
      Content cs rest → Content (c :: cs) rest

/-- A string between quotes, read from behind the first, and what follows it. -/
def Quoted (cs rest : List Char) : Prop :=
  Content cs ('"' :: rest)

/-- A string between quotes that a line end cuts off. -/
def CutByLine (cs : List Char) : Prop :=
  ∃ b rest, isLineEnd b ∧ Content cs (b :: rest)

/-- A block string, read from behind its first quotes, and what follows it. -/
inductive Block : List Char → List Char → Prop where
  | close {cs : List Char} : tripleQuote.toList <+: cs → Block cs (cs.drop 3)
  | escape {cs rest : List Char} : tripleQuote.toList <+: cs → Block (cs.drop 3) rest →
      Block ('\\' :: cs) rest
  | char {c : Char} {cs rest : List Char} : ¬ tripleQuote.toList <+: c :: cs →
      ¬ (c = '\\' ∧ tripleQuote.toList <+: cs) → Block cs rest → Block (c :: cs) rest

/-- What a string that is read from a text holds, and where it leaves off. -/
def StringResult.Spells (result : StringResult) (cs value rest : List Char) : Prop :=
  ∃ length, result = .ok (RawText.ofChars value, length) ∧ cs.drop length = rest

/-- Where a string that is read from a text leaves off. -/
def StringResult.Leaves (result : StringResult) (cs rest : List Char) : Prop :=
  ∃ value, result.Spells cs value rest

section Spells

variable {cs value rest : List Char}

theorem leaves_iff {result : StringResult} :
    result.Leaves cs rest ↔ ∃ value, result.Spells cs value rest :=
  Iff.rfl

@[simp] theorem spells_ok {found : RawText} {length : Nat} :
    StringResult.Spells (.ok (found, length)) cs value rest ↔
      found = RawText.ofChars value ∧ cs.drop length = rest := by
  simp [StringResult.Spells]

@[simp] theorem not_spells_error (fault : LexicalFault × Nat) :
    ¬ StringResult.Spells (.error fault) cs value rest := by
  simp [StringResult.Spells]

@[simp] theorem spells_further {result : StringResult} {c : Char} :
    result.further.Spells (c :: cs) value rest ↔ result.Spells cs value rest := by
  rcases result with fault | ⟨found, length⟩ <;> simp [StringResult.further]

@[simp] theorem spells_behind {result : StringResult} {front : List Char} :
    (result.behind (RawText.ofChars front)).Spells cs value rest ↔
      ∃ found, value = front ++ found ∧ result.Spells cs found rest := by
  constructor
  · rintro ⟨length, hresult, hrest⟩
    obtain ⟨found, hfound, hvalue⟩ := StringResult.behind_eq_ok_iff.1 hresult
    obtain ⟨ds, rfl, rfl⟩ := RawText.ofChars_eq_append_iff.1 hvalue
    exact ⟨ds, rfl, length, hfound, hrest⟩
  · rintro ⟨found, rfl, length, hfound, hrest⟩
    exact ⟨length, StringResult.behind_eq_ok_iff.2 ⟨_, hfound, RawText.ofChars_append ..⟩, hrest⟩

@[simp] theorem spells_behind_char {result : StringResult} {c : Char} :
    (result.behind [.char c]).Spells cs value rest ↔
      ∃ found, value = c :: found ∧ result.Spells cs found rest := by
  change (result.behind (RawText.ofChars [c])).Spells cs value rest ↔ _
  exact spells_behind

end Spells

theorem quotedValue_cons_spells_iff {c : Char} {cs value rest : List Char} :
    (quotedValue 0 (.char c :: RawText.ofChars cs)).Spells (c :: cs) value rest ↔
      (c = '"' ∧ value = [] ∧ cs = rest) ∨
      (c = '\\' ∧ ∃ d length found, value = d :: found ∧
        escapeSequence (RawText.ofChars cs) = .ok (d, length) ∧
        (quotedValue (length - 1) (RawText.ofChars cs)).Spells cs found rest) ∨
      (c ≠ '"' ∧ c ≠ '\\' ∧ isLineEnd c = false ∧
        ∃ found, value = c :: found ∧ (quotedValue 0 (RawText.ofChars cs)).Spells cs found rest) := by
  rw [quotedValue]
  by_cases hquote : c = '"'
  · simp [hquote, pure, Except.pure]
  · by_cases hslash : c = '\\'
    · subst hslash
      cases hescape : escapeSequence (RawText.ofChars cs) with
      | error fault => simp [throw_eq_error]
      | ok found =>
        obtain ⟨d, length⟩ := found
        simp
    · by_cases hline : isLineEnd c
      · simp [hquote, hslash, hline, Text.CodePoint.satisfies, throw_eq_error]
      · simp [hquote, hslash, hline, Text.CodePoint.satisfies, stringFront,
          RawText.front?, pure, Except.pure]

theorem rawBlock_cons_spells_iff {c : Char} {cs raw rest : List Char} :
    (rawBlock 0 (.char c :: RawText.ofChars cs)).Spells (c :: cs) raw rest ↔
      (tripleQuote.toList <+: c :: cs ∧ raw = [] ∧ (c :: cs).drop 3 = rest) ∨
      (c = '\\' ∧ tripleQuote.toList <+: cs ∧ ∃ found, raw = tripleQuote.toList ++ found ∧
        (rawBlock 3 (RawText.ofChars cs)).Spells cs found rest) ∨
      (¬ tripleQuote.toList <+: c :: cs ∧ ¬ (c = '\\' ∧ tripleQuote.toList <+: cs) ∧
        ∃ found, raw = c :: found ∧ (rawBlock 0 (RawText.ofChars cs)).Spells cs found rest) := by
  have hfronts : ∀ es : List Char, (RawText.ofString tripleQuote).isPrefixOf
      (RawText.ofChars es) = tripleQuote.toList.isPrefixOf es := by
    intro es
    rw [RawText.ofString, RawText.isPrefixOf_ofChars]
  have hclose := hfronts (c :: cs)
  rw [RawText.ofChars_cons] at hclose
  rw [rawBlock, hclose, hfronts]
  simp only [List.isPrefixOf_iff_prefix, CodePoint.char.injEq]
  by_cases hquotes : tripleQuote.toList <+: c :: cs
  · have hslash : c ≠ '\\' := by
      rintro rfl
      simp [tripleQuote] at hquotes
    simp [hquotes, hslash, pure, Except.pure]
  · by_cases hescape : c = '\\' ∧ tripleQuote.toList <+: cs
    · rw [if_neg hquotes, if_pos hescape]
      obtain ⟨rfl, hslashed⟩ := hescape
      simp [hquotes, hslashed, RawText.ofString]
    · rw [if_neg hquotes, if_neg hescape]
      have hnot : ¬ (c = '\\' ∧ tripleQuote.toList <+: cs ∧
          ∃ found, raw = tripleQuote.toList ++ found ∧
            (rawBlock 3 (RawText.ofChars cs)).Spells cs found rest) :=
        fun h => hescape ⟨h.1, h.2.1⟩
      simp [hquotes, hescape, hnot, stringFront, RawText.front?, pure, Except.pure]

@[simp] theorem not_quoted_nil (rest : List Char) : ¬ Quoted [] rest := by
  rintro ⟨⟩

theorem quoted_cons_iff {c : Char} {cs rest : List Char} :
    Quoted (c :: cs) rest ↔ (c = '"' ∧ cs = rest) ∨
      (c = '\\' ∧ ∃ d length, escapeSequence (RawText.ofChars cs) = .ok (d, length) ∧
        Quoted (cs.drop (length - 1)) rest) ∨
      (c ≠ '"' ∧ c ≠ '\\' ∧ isLineEnd c = false ∧ Quoted cs rest) := by
  constructor
  · intro h
    cases h with
    | nothing => exact .inl ⟨rfl, rfl⟩
    | escape hescape hrest => exact .inr (.inl ⟨rfl, _, _, hescape, hrest⟩)
    | char hquote hslash hline hrest => exact .inr (.inr ⟨hquote, hslash, hline, hrest⟩)
  · rintro (⟨rfl, rfl⟩ | ⟨rfl, d, length, hescape, hrest⟩ | ⟨hquote, hslash, hline, hrest⟩)
    · exact .nothing _
    · exact .escape hescape hrest
    · exact .char hquote hslash hline hrest

theorem quotedValue_leaves_iff {covered : Nat} {cs rest : List Char} :
    (quotedValue covered (RawText.ofChars cs)).Leaves cs rest ↔ Quoted (cs.drop covered) rest := by
  induction cs generalizing covered with
  | nil => cases covered <;> simp [leaves_iff, quotedValue, throw_eq_error]
  | cons c cs ih =>
    simp only [leaves_iff] at ih ⊢
    cases covered with
    | succ covered =>
      simp only [RawText.ofChars_cons, quotedValue, spells_further]
      exact ih
    | zero =>
      have hbehind : (∃ value, (quotedValue 0 (RawText.ofChars cs)).Spells cs value rest) ↔
          Quoted cs rest := ih
      simp [quoted_cons_iff, quotedValue_cons_spells_iff, exists_or, ← ih, ← hbehind]

@[simp] theorem not_block_nil (rest : List Char) : ¬ Block [] rest := by
  intro h
  cases h with
  | close h => simp [tripleQuote] at h

theorem block_cons_iff {c : Char} {cs rest : List Char} :
    Block (c :: cs) rest ↔ (tripleQuote.toList <+: c :: cs ∧ (c :: cs).drop 3 = rest) ∨
      (c = '\\' ∧ tripleQuote.toList <+: cs ∧ Block (cs.drop 3) rest) ∨
      (¬ tripleQuote.toList <+: c :: cs ∧ ¬ (c = '\\' ∧ tripleQuote.toList <+: cs) ∧
        Block cs rest) := by
  constructor
  · intro h
    cases h with
    | close h => exact .inl ⟨h, rfl⟩
    | escape h hrest => exact .inr (.inl ⟨rfl, h, hrest⟩)
    | char hclose hescape hrest => exact .inr (.inr ⟨hclose, hescape, hrest⟩)
  · rintro (⟨h, rfl⟩ | ⟨rfl, h, hrest⟩ | ⟨hclose, hescape, hrest⟩)
    · exact .close h
    · exact .escape h hrest
    · exact .char hclose hescape hrest

theorem rawBlock_leaves_iff {covered : Nat} {cs rest : List Char} :
    (rawBlock covered (RawText.ofChars cs)).Leaves cs rest ↔ Block (cs.drop covered) rest := by
  induction cs generalizing covered with
  | nil => cases covered <;> simp [leaves_iff, rawBlock, throw_eq_error]
  | cons c cs ih =>
    simp only [leaves_iff] at ih ⊢
    cases covered with
    | succ covered =>
      simp only [RawText.ofChars_cons, rawBlock, spells_further]
      exact ih
    | zero =>
      have hbehind : (∃ raw, (rawBlock 0 (RawText.ofChars cs)).Spells cs raw rest) ↔
          Block cs rest := ih
      simp [block_cons_iff, rawBlock_cons_spells_iff, exists_or, ← ih, ← hbehind]

section Respaced

variable {swap : Char → Char → Prop} {runs : Prop} {tail tail' : List Char}

/-- Whether a blank that ends no line may be swapped for one that does. -/
def CutsLines (swap : Char → Char → Prop) : Prop :=
  ∃ b b', swap b b' ∧ isLineEnd b = false ∧ isLineEnd b'

theorem not_cutsLines_of_eq (h : ∀ b b', swap b b' → b = b') : ¬ CutsLines swap := by
  rintro ⟨b, b', hswap, hb, hb'⟩
  rw [← h b b' hswap, hb] at hb'
  cases hb'

/-- The ends of two texts that are compared: they start blank and close no string. -/
structure Quiet (tail tail' : List Char) : Prop where
  left : StartsBlank tail
  right : StartsBlank tail'
  unquoted : '"' ∉ tail

theorem Content.mem {cs rest : List Char} (h : Content cs rest) {c : Char} (hc : c ∈ rest) :
    c ∈ cs := by
  induction h with
  | nothing => exact hc
  | escape _ _ ih => exact List.mem_cons_of_mem _ (List.mem_of_mem_drop (ih hc))
  | char _ _ _ _ ih => exact List.mem_cons_of_mem _ (ih hc)

theorem CutByLine.cons {c : Char} {cs : List Char} (hquote : c ≠ '"') (hslash : c ≠ '\\')
    (h : CutByLine cs) : CutByLine (c :: cs) := by
  cases hline : isLineEnd c with
  | true => exact ⟨c, cs, hline, .nothing _⟩
  | false =>
    obtain ⟨b, rest, hb, hcontent⟩ := h
    exact ⟨b, rest, hb, .char hquote hslash hline hcontent⟩

/-- The content of a string is content with other blanks as well, unless one of those ends
the line. -/
theorem Content.respaced (hquiet : Quiet tail tail') {cs rest ds : List Char}
    (h : Content cs rest) (hrest : '"' ∈ rest) (hds : Respaced swap runs tail tail' cs ds) :
    (∃ rest', Content ds rest' ∧ Respaced swap runs tail tail' rest rest') ∨
      CutsLines swap ∧ CutByLine ds := by
  induction h generalizing ds with
  | nothing => exact .inl ⟨ds, .nothing ds, hds⟩
  | escape hescape _ ih =>
    obtain ⟨ds, rfl, hbehind⟩ := hds.cons hquiet.left (by decide)
    obtain ⟨hescape', hle⟩ :=
      fromWord_escapeSequence (hbehind.word_eq hquiet.left hquiet.right) hescape
    refine (ih hrest (hbehind.drop hquiet.left hle)).imp ?_ ?_
    · rintro ⟨rest', hcontent, hrest'⟩
      exact ⟨rest', .escape hescape' hcontent, hrest'⟩
    · rintro ⟨hcuts, b, rest', hb, hcontent⟩
      exact ⟨hcuts, b, rest', hb, .escape hescape' hcontent⟩
  | @char c cs rest hquote hslash hline hcontent ih =>
    -- One more character of the content in front of what is compared already.
    have hcons : ∀ {d : Char} {es : List Char}, d ≠ '"' → d ≠ '\\' →
        (isLineEnd d → CutsLines swap) →
        ((∃ rest', Content es rest' ∧ Respaced swap runs tail tail' rest rest') ∨
          CutsLines swap ∧ CutByLine es) →
        (∃ rest', Content (d :: es) rest' ∧ Respaced swap runs tail tail' rest rest') ∨
          CutsLines swap ∧ CutByLine (d :: es) := by
      intro d es hquote hslash hcuts hes
      cases hd : isLineEnd d with
      | true => exact .inr ⟨hcuts hd, d, es, hd, .nothing _⟩
      | false =>
        refine hes.imp ?_ fun ⟨hcuts, hcut⟩ => ⟨hcuts, hcut.cons hquote hslash⟩
        rintro ⟨rest', hcontent, hrest'⟩
        exact ⟨rest', .char hquote hslash hd hcontent, hrest'⟩
    cases hc : isBlank c with
    | false =>
      obtain ⟨ds, rfl, hbehind⟩ := hds.cons hquiet.left hc
      exact hcons hquote hslash (fun h => by simp [h] at hline) (ih hrest hbehind)
    | true =>
      refine hds.of_blank hc ?_ (fun ds hds => ih hrest hds) fun b' ds hb' hswap hes => ?_
      · rintro rfl
        exact absurd (List.mem_cons_of_mem c (hcontent.mem hrest)) hquiet.unquoted
      · refine hcons ?_ ?_ (fun hend => ⟨c, b', hswap, hline, hend⟩) hes <;>
          rintro rfl <;> exact absurd hb' (by decide)

theorem Block.quote_mem {cs rest : List Char} (h : Block cs rest) : '"' ∈ cs := by
  induction h with
  | close h => exact h.subset (by decide)
  | escape h _ _ => exact List.mem_cons_of_mem _ (h.subset (by decide))
  | char _ _ _ ih => exact List.mem_cons_of_mem _ ih

theorem Block.respaced (hquiet : Quiet tail tail') {cs rest ds : List Char}
    (h : Block cs rest) (hds : Respaced swap runs tail tail' cs ds) :
    ∃ rest', Block ds rest' ∧ Respaced swap runs tail tail' rest rest' := by
  have hquotes : ∀ c ∈ tripleQuote.toList, isBlank c = false := by simp [tripleQuote, isBlank]
  have hfronts : ∀ {es fs : List Char}, Respaced swap runs tail tail' es fs →
      (tripleQuote.toList <+: es ↔ tripleQuote.toList <+: fs) := fun hfs =>
    Text.isPrefix_iff_of_word_eq hquotes (hfs.word_eq hquiet.left hquiet.right)
  have hdrop : ∀ {es fs : List Char}, Respaced swap runs tail tail' es fs →
      tripleQuote.toList <+: es → Respaced swap runs tail tail' (es.drop 3) (fs.drop 3) := by
    intro es fs hfs h
    rw [← List.isPrefixOf_iff_prefix] at h
    exact hfs.drop hquiet.left (Text.length_le_word_of_isPrefixOf hquotes h)
  induction h generalizing ds with
  | close h => exact ⟨ds.drop 3, .close ((hfronts hds).1 h), hdrop hds h⟩
  | escape h _ ih =>
    obtain ⟨ds, rfl, hbehind⟩ := hds.cons hquiet.left (by decide)
    obtain ⟨rest', hblock, hrest'⟩ := ih (hdrop hbehind h)
    exact ⟨rest', .escape ((hfronts hbehind).1 h) hblock, hrest'⟩
  | @char c cs rest hclose hescape hblock ih =>
    cases hc : isBlank c with
    | false =>
      obtain ⟨ds, rfl, hbehind⟩ := hds.cons hquiet.left hc
      obtain ⟨rest', hblock, hrest'⟩ := ih hbehind
      rw [hfronts hds] at hclose
      rw [hfronts hbehind] at hescape
      exact ⟨rest', .char hclose hescape hblock, hrest'⟩
    | true =>
      refine hds.of_blank hc ?_ (fun ds hds => ih hds) fun b' ds hb' _ hes => ?_
      · rintro rfl
        exact absurd (List.mem_cons_of_mem c hblock.quote_mem) hquiet.unquoted
      · obtain ⟨rest', hblock, hrest'⟩ := hes
        have hb'quote : b' ≠ '"' := by
          rintro rfl
          exact absurd hb' (by decide)
        have hb'slash : b' ≠ '\\' := by
          rintro rfl
          exact absurd hb' (by decide)
        refine ⟨rest', .char ?_ (fun h => hb'slash h.1) hblock, hrest'⟩
        intro h
        exact hb'quote (List.cons_prefix_cons.1 h).1.symm

end Respaced

/-! ## Tokens -/

/-- What the grammar sees of a token: neither the value of a string nor the fault that stops
the reading. -/
def Token.shape : Token → Token
  | .string _ => .string ""
  | .blockString _ => .blockString ""
  | .invalid _ => .invalid default
  | token => token

/-- A token of a certain shape is read from a character and the text behind it, and the rest
of that text follows it. -/
def Reads (c : Char) (cs : List Char) (shape : Token) (rest : List Char) : Prop :=
  ∃ token length, scanToken c (RawText.ofChars cs) = .ok (token, length) ∧
    token.shape = shape ∧ cs.drop (length - 1) = rest

/-- A token is read from a character and the text behind it, and the rest of that text follows
it. -/
def Scans (c : Char) (cs : List Char) (token : Token) (rest : List Char) : Prop :=
  ∃ length, scanToken c (RawText.ofChars cs) = .ok (token, length) ∧ cs.drop (length - 1) = rest

theorem reads_iff {c : Char} {cs rest : List Char} {shape : Token} :
    Reads c cs shape rest ↔ ∃ token, Scans c cs token rest ∧ token.shape = shape := by
  constructor
  · rintro ⟨token, length, hscan, hshape, hrest⟩
    exact ⟨token, ⟨length, hscan, hrest⟩, hshape⟩
  · rintro ⟨token, ⟨length, hscan, hrest⟩, hshape⟩
    exact ⟨token, length, hscan, hshape, hrest⟩

theorem scanToken_quote (text : RawText) : scanToken '"' text = scanString text := by
  unfold scanToken
  simp [punctuator?]

theorem scans_block_iff {cs rest : List Char} {token : Token} :
    Scans '"' ('"' :: '"' :: cs) token rest ↔
      ∃ raw, token = .blockString (blockValue (RawText.ofChars raw)) ∧
        (rawBlock 0 (RawText.ofChars cs)).Spells cs raw rest := by
  unfold Scans
  rw [scanToken_quote]
  simp only [RawText.ofChars_cons, scanString]
  rcases hraw : rawBlock 0 (RawText.ofChars cs) with fault | ⟨found, length⟩
  · simp [throw_eq_error]
  · obtain ⟨raw, rfl⟩ := (isUnbroken_of_rawBlock (RawText.isUnbroken_ofChars cs) hraw).exists_ofChars
    simp [pure, Except.pure, eq_comm]

/-- A string that does not start with three quotes ends at its second one. -/
theorem scans_quoted_iff {cs rest : List Char} {token : Token} (h : ¬ ['"', '"'] <+: cs) :
    Scans '"' cs token rest ↔ ∃ value, token = .string (RawText.ofChars value) ∧
      (quotedValue 0 (RawText.ofChars cs)).Spells cs value rest := by
  unfold Scans
  rw [scanToken_quote]
  unfold scanString
  split
  · rcases cs with _ | ⟨c, _ | ⟨d, ds⟩⟩ <;> simp_all
  · rcases hvalue : quotedValue 0 (RawText.ofChars cs) with fault | ⟨found, length⟩
    · simp [throw_eq_error]
    · obtain ⟨value, rfl⟩ :=
        (isUnbroken_of_quotedValue (RawText.isUnbroken_ofChars cs) hvalue).exists_ofChars
      simp [pure, Except.pure, eq_comm]

theorem reads_block_iff {cs rest : List Char} {shape : Token} :
    Reads '"' ('"' :: '"' :: cs) shape rest ↔ shape = .blockString "" ∧ Block cs rest := by
  have hraw : (∃ raw, (rawBlock 0 (RawText.ofChars cs)).Spells cs raw rest) ↔ Block cs rest :=
    rawBlock_leaves_iff
  rw [← hraw, reads_iff]
  simp [scans_block_iff, Token.shape, eq_comm, and_comm]

theorem reads_quoted_iff {cs rest : List Char} {shape : Token} (h : ¬ ['"', '"'] <+: cs) :
    Reads '"' cs shape rest ↔ shape = .string "" ∧ Quoted cs rest := by
  have hvalue : (∃ value, (quotedValue 0 (RawText.ofChars cs)).Spells cs value rest) ↔
      Quoted cs rest := quotedValue_leaves_iff
  rw [← hvalue, reads_iff]
  simp [scans_quoted_iff h, Token.shape, eq_comm, and_comm]

/-- What a token is read from is part of the text. -/
theorem Reads.mem {c : Char} {cs rest : List Char} {shape : Token} (h : Reads c cs shape rest)
    {d : Char} (hd : d ∈ rest) : d ∈ cs := by
  obtain ⟨token, length, -, -, rfl⟩ := h
  exact List.mem_of_mem_drop hd

section Respaced

variable {swap : Char → Char → Prop} {runs : Prop} {tail tail' : List Char}

/-- What stands behind a quote may be an ordinary string that a line end cuts off. -/
def CutString (c : Char) (cs : List Char) : Prop :=
  c = '"' ∧ ¬ ['"', '"'] <+: cs ∧ CutByLine cs

/-- A token is read from a text with other blanks as well, unless one of those ends the line
in a string. -/
theorem Reads.respaced (hquiet : Quiet tail tail') {c : Char} {cs rest ds : List Char}
    {shape : Token} (h : Reads c cs shape rest) (hds : Respaced swap runs tail tail' cs ds) :
    (∃ rest', Reads c ds shape rest' ∧ Respaced swap runs tail tail' rest rest') ∨
      CutsLines swap ∧ CutString c ds := by
  have hword := hds.word_eq hquiet.left hquiet.right
  by_cases hquote : c = '"'
  · subst hquote
    have hquotes : ['"', '"'] <+: cs ↔ ['"', '"'] <+: ds :=
      Text.isPrefix_iff_of_word_eq (by simp [isBlank]) hword
    by_cases hblock : ['"', '"'] <+: cs
    · obtain ⟨es, rfl⟩ := hblock
      obtain ⟨_, rfl, hbehind⟩ := hds.cons hquiet.left (by decide)
      obtain ⟨_, rfl, hes⟩ := Respaced.cons hbehind hquiet.left (by decide)
      obtain ⟨hshape, hblock⟩ := reads_block_iff.1 h
      obtain ⟨rest', hblock', hrest'⟩ := hblock.respaced hquiet hes
      exact .inl ⟨rest', reads_block_iff.2 ⟨hshape, hblock'⟩, hrest'⟩
    · obtain ⟨hshape, hquoted⟩ := (reads_quoted_iff hblock).1 h
      rw [hquotes] at hblock
      refine (Content.respaced hquiet hquoted (by simp) hds).imp ?_ ?_
      · rintro ⟨es, hcontent, hes⟩
        obtain ⟨rest', rfl, hrest'⟩ := hes.cons hquiet.left (by decide)
        exact ⟨rest', (reads_quoted_iff hblock).2 ⟨hshape, hcontent⟩, hrest'⟩
      · rintro ⟨hcuts, hcut⟩
        exact ⟨hcuts, rfl, hblock, hcut⟩
  · obtain ⟨token, length, hscan, hshape, rfl⟩ := h
    obtain ⟨hscan', hle⟩ := scanToken_of_word hquote hword hscan
    exact .inl ⟨ds.drop (length - 1), ⟨token, length, hscan', hshape, rfl⟩,
      hds.drop hquiet.left hle⟩

/-- Where no token is read, none is read from a text with other blanks, unless a string was
cut off. -/
theorem not_reads_of_respaced (hquiet : Quiet tail tail') {c : Char} {cs ds : List Char}
    (hds : Respaced swap runs tail tail' cs ds) (huncut : ¬ (CutsLines swap ∧ CutString c ds))
    (hnone : ∀ shape rest, ¬ Reads c ds shape rest) (shape : Token) (rest : List Char) :
    ¬ Reads c cs shape rest := by
  intro hreads
  obtain ⟨rest', hreads', -⟩ | hcut := hreads.respaced hquiet hds
  · exact hnone shape rest' hreads'
  · exact huncut hcut

end Respaced

/-! ## Whole texts -/

/-- The tokens of a text of characters. -/
def tokensOf (cs : List Char) : List Token :=
  (lexemes (RawText.ofChars cs)).map (·.token)

theorem map_token_scan (covered offset : Nat) (cs : List Char) :
    (scan covered offset (RawText.ofChars cs)).map (·.token) = tokensOf (cs.drop covered) := by
  have hshift : ∀ (text : RawText) (covered offset offset' : Nat),
      (scan covered offset text).map (·.token) = (scan covered offset' text).map (·.token) := by
    intro text
    induction text with
    | nil => intro covered offset offset'; cases covered <;> rfl
    | cons point rest ih =>
      intro covered offset offset'
      cases covered with
      | succ covered => exact ih _ _ _
      | zero =>
        cases point with
        | surrogate index => rfl
        | char c =>
          simp only [scan]
          split_ifs
          · exact ih _ _ _
          · exact ih _ _ _
          · split
            · rw [List.map_cons, List.map_cons, ih _ _ (offset' + 1)]
            · rfl
  induction cs generalizing covered offset with
  | nil => cases covered <;> rfl
  | cons c cs ih =>
    cases covered with
    | zero => exact hshift _ _ _ _
    | succ covered => exact ih _ _

/-- The shapes of the tokens of a text of characters. -/
def shapesOf (cs : List Char) : List Token :=
  (tokensOf cs).map Token.shape

/-- What is left of a comment's text behind it: the line end and what follows. -/
def behindComment (cs : List Char) : List Char :=
  cs.dropWhile (!isLineEnd ·)

theorem drop_commentLength (cs : List Char) :
    cs.drop (commentLength 0 (RawText.ofChars cs)) = behindComment cs := by
  induction cs with
  | nil => rfl
  | cons c cs ih =>
    rw [RawText.ofChars_cons, commentLength]
    cases hc : isLineEnd c with
    | true => simp [RawText.front?, Text.CodePoint.satisfies, behindComment, hc]
    | false =>
      have hskip : behindComment (c :: cs) = behindComment cs := by simp [behindComment, hc]
      rw [hskip, ← ih]
      simp [RawText.front?, Text.CodePoint.satisfies, hc]

/-- The shapes of the tokens that a text is read into. -/
inductive Lexes : List Char → List Token → Prop where
  | nil : Lexes [] [.endOfInput]
  | ignored {c : Char} {cs : List Char} {shapes : List Token} : isIgnored c → Lexes cs shapes →
      Lexes (c :: cs) shapes
  | comment {cs : List Char} {shapes : List Token} : Lexes (behindComment cs) shapes →
      Lexes ('#' :: cs) shapes
  | token {c : Char} {cs rest : List Char} {shape : Token} {shapes : List Token} :
      Reads c cs shape rest → Lexes rest shapes → Lexes (c :: cs) (shape :: shapes)
  | fault {c : Char} {cs : List Char} : isIgnored c = false → c ≠ '#' →
      (∀ shape rest, ¬ Reads c cs shape rest) → Lexes (c :: cs) [.invalid default]

theorem tokensOf_cons (c : Char) (cs : List Char) :
    tokensOf (c :: cs) =
      if isIgnored c then tokensOf cs
      else if c = '#' then tokensOf (behindComment cs)
      else
        match scanToken c (RawText.ofChars cs) with
        | .ok (token, length) => token :: tokensOf (cs.drop (length - 1))
        | .error (fault, _) => [.invalid fault] := by
  have hscan : tokensOf (c :: cs) =
      (scan 0 0 (.char c :: RawText.ofChars cs)).map (·.token) := rfl
  rw [hscan, scan]
  split_ifs
  · rw [map_token_scan, List.drop_zero]
  · rw [map_token_scan, drop_commentLength]
  · rcases scanToken c (RawText.ofChars cs) with ⟨fault, before⟩ | ⟨token, length⟩
    · rfl
    · rw [List.map_cons, map_token_scan]

/-- What is ignored starts no token, and neither does the mark of comments. -/
theorem Reads.isIgnored_eq_false {c : Char} {cs rest : List Char} {shape : Token}
    (h : Reads c cs shape rest) : isIgnored c = false ∧ c ≠ '#' := by
  obtain ⟨token, length, hscan, -⟩ := h
  have hfault : ∀ d ∈ [' ', '\t', ',', '\uFEFF', '\n', '\r', '#'],
      ∀ text, ∃ fault, scanToken d text = .error fault := by
    simp only [List.forall_mem_cons, List.not_mem_nil, false_implies, implies_true, and_true]
    refine ⟨?_, ?_, ?_, ?_, ?_, ?_, ?_⟩ <;> exact fun _ => ⟨_, rfl⟩
  have hc : c ∉ [' ', '\t', ',', '\uFEFF', '\n', '\r', '#'] := by
    intro hc
    obtain ⟨fault, hfault⟩ := hfault c hc (RawText.ofChars cs)
    simp [hfault] at hscan
  simp only [List.mem_cons, List.not_mem_nil, or_false, not_or] at hc
  obtain ⟨hspace, htab, hcomma, hmark, hfeed, hreturn, hcomment⟩ := hc
  exact ⟨by simp [isIgnored, isLineEnd, *], hcomment⟩

theorem length_behindComment_le (cs : List Char) : (behindComment cs).length ≤ cs.length :=
  (List.dropWhile_sublist _).length_le

/-- Reading is a function of the text. -/
theorem lexes_iff {cs : List Char} {shapes : List Token} :
    Lexes cs shapes ↔ shapesOf cs = shapes := by
  unfold shapesOf
  constructor
  · intro h
    induction h with
    | nil => rfl
    | ignored hc _ ih => rw [tokensOf_cons, if_pos hc, ih]
    | comment _ ih => rw [tokensOf_cons, if_neg (by decide), if_pos rfl, ih]
    | token hreads _ ih =>
      obtain ⟨hc, hcomment⟩ := hreads.isIgnored_eq_false
      obtain ⟨token, length, hscan, rfl, rfl⟩ := hreads
      rw [tokensOf_cons, if_neg (by simp [hc]), if_neg hcomment, hscan, List.map_cons, ih]
    | @fault c cs hc hcomment hnone =>
      rw [tokensOf_cons, if_neg (by simp [hc]), if_neg hcomment]
      rcases hscan : scanToken c (RawText.ofChars cs) with ⟨fault, before⟩ | ⟨token, length⟩
      · rfl
      · exact absurd ⟨token, length, hscan, rfl, rfl⟩ (hnone _ _)
  · rintro rfl
    induction hlength : cs.length using Nat.strong_induction_on generalizing cs with
    | _ n ih =>
      subst hlength
      cases cs with
      | nil => exact .nil
      | cons c cs =>
        rw [tokensOf_cons]
        split_ifs with hc hcomment
        · exact .ignored hc (ih _ (by simp) rfl)
        · rw [hcomment]
          exact .comment (ih _ (Nat.lt_succ_of_le (length_behindComment_le cs)) rfl)
        · rcases hscan : scanToken c (RawText.ofChars cs) with ⟨fault, before⟩ | ⟨token, length⟩
          · refine .fault (by simpa using hc) hcomment ?_
            rintro shape rest ⟨token, length, hread, -⟩
            rw [hscan] at hread
            cases hread
          · refine .token ⟨token, length, hscan, rfl, rfl⟩ (ih _ ?_ rfl)
            simp only [List.length_drop, List.length_cons]
            omega

/-! ## Where tokens and comments start -/

/-- How many characters are passed over behind one with which the reading starts anew. -/
def passed (c : Char) (rest : List Char) : Nat :=
  if isIgnored c then 0
  else if c = '#' then commentLength 0 (RawText.ofChars rest)
  else
    match scanToken c (RawText.ofChars rest) with
    | .ok (_, length) => length - 1
    | .error _ => rest.length

/-- What is left of a text wherever the reading starts anew: at each character that is
ignored, each comment and each token. `covered` counts the characters that are passed over. -/
def starts : (covered : Nat) → List Char → List (List Char)
  | _, [] => []
  | covered + 1, _ :: rest => starts covered rest
  | 0, c :: rest => (c :: rest) :: starts (passed c rest) rest

theorem starts_covered (covered : Nat) (cs : List Char) :
    starts covered cs = starts 0 (cs.drop covered) := by
  induction cs generalizing covered with
  | nil => cases covered <;> rfl
  | cons c cs ih =>
    cases covered with
    | zero => rfl
    | succ covered => exact ih covered

theorem starts_cons (c : Char) (cs : List Char) :
    starts 0 (c :: cs) = (c :: cs) :: starts 0 (cs.drop (passed c cs)) := by
  rw [starts, starts_covered]

/-- A comment that the text ends in. -/
def isOpenComment : List Char → Bool
  | '#' :: rest => rest.all (!isLineEnd ·)
  | _ => false

/-- Whether a text ends in a comment, so that what is put behind it belongs to that. -/
def endsInComment (cs : List Char) : Bool :=
  (starts 0 cs).any isOpenComment

theorem isOpenComment_eq_false {c : Char} (h : c ≠ '#') (cs : List Char) :
    isOpenComment (c :: cs) = false := by
  unfold isOpenComment
  split
  · next heq => exact absurd (List.cons.inj heq).1 h
  · rfl

theorem endsInComment_cons (c : Char) (cs : List Char) :
    endsInComment (c :: cs) =
      (isOpenComment (c :: cs) || endsInComment (cs.drop (passed c cs))) := by
  rw [endsInComment, starts_cons, List.any_cons, endsInComment]

theorem passed_of_reads {c : Char} {cs rest : List Char} {shape : Token}
    (h : Reads c cs shape rest) : cs.drop (passed c cs) = rest := by
  obtain ⟨hc, hcomment⟩ := h.isIgnored_eq_false
  obtain ⟨token, length, hscan, rfl, rfl⟩ := h
  simp [passed, hc, hcomment, hscan]

theorem passed_of_fault {c : Char} {cs : List Char} (hc : isIgnored c = false) (hcomment : c ≠ '#')
    (hnone : ∀ shape rest, ¬ Reads c cs shape rest) : cs.drop (passed c cs) = [] := by
  rcases hscan : scanToken c (RawText.ofChars cs) with fault | ⟨token, length⟩
  · simp [passed, hc, hcomment, hscan]
  · exact absurd ⟨token, length, hscan, rfl, rfl⟩ (hnone _ _)

theorem drop_passed_comment (cs : List Char) : cs.drop (passed '#' cs) = behindComment cs := by
  rw [← drop_commentLength]
  rfl

/-! ## Steps of the reading -/

section Steps

variable {c : Char} {cs rest : List Char} {shape : Token}

theorem shapesOf_ignored (hc : isIgnored c) (cs : List Char) :
    shapesOf (c :: cs) = shapesOf cs :=
  lexes_iff.1 (.ignored hc (lexes_iff.2 rfl))

theorem shapesOf_comment (cs : List Char) :
    shapesOf ('#' :: cs) = shapesOf (behindComment cs) :=
  lexes_iff.1 (.comment (lexes_iff.2 rfl))

theorem shapesOf_of_reads (h : Reads c cs shape rest) :
    shapesOf (c :: cs) = shape :: shapesOf rest :=
  lexes_iff.1 (.token h (lexes_iff.2 rfl))

theorem shapesOf_of_fault (hc : isIgnored c = false) (hcomment : c ≠ '#')
    (hnone : ∀ shape rest, ¬ Reads c cs shape rest) : shapesOf (c :: cs) = [.invalid default] :=
  lexes_iff.1 (.fault hc hcomment hnone)

theorem ne_comment_of_isIgnored (hc : isIgnored c) : c ≠ '#' := by
  rintro rfl
  exact absurd hc (by decide)

theorem starts_ignored (hc : isIgnored c) (cs : List Char) :
    starts 0 (c :: cs) = (c :: cs) :: starts 0 cs := by
  rw [starts_cons, passed, if_pos hc, List.drop_zero]

theorem starts_of_reads (h : Reads c cs shape rest) :
    starts 0 (c :: cs) = (c :: cs) :: starts 0 rest := by
  rw [starts_cons, passed_of_reads h]

theorem starts_of_fault (hc : isIgnored c = false) (hcomment : c ≠ '#')
    (hnone : ∀ shape rest, ¬ Reads c cs shape rest) : starts 0 (c :: cs) = [c :: cs] := by
  rw [starts_cons, passed_of_fault hc hcomment hnone, starts]

theorem endsInComment_ignored (hc : isIgnored c) (cs : List Char) :
    endsInComment (c :: cs) = endsInComment cs := by
  rw [endsInComment, starts_ignored hc, List.any_cons,
    isOpenComment_eq_false (ne_comment_of_isIgnored hc), Bool.false_or, endsInComment]

theorem endsInComment_of_reads (h : Reads c cs shape rest) :
    endsInComment (c :: cs) = endsInComment rest := by
  rw [endsInComment, starts_of_reads h, List.any_cons,
    isOpenComment_eq_false h.isIgnored_eq_false.2, Bool.false_or, endsInComment]

theorem endsInComment_of_fault (hc : isIgnored c = false) (hcomment : c ≠ '#')
    (hnone : ∀ shape rest, ¬ Reads c cs shape rest) : endsInComment (c :: cs) = false := by
  rw [endsInComment, starts_of_fault hc hcomment hnone, List.any_cons,
    isOpenComment_eq_false hcomment, List.any_nil, Bool.false_or]

/-- A comment without a line end behind it is the last that is read of a text. -/
theorem behindComment_eq_nil (h : ∀ c ∈ cs, isLineEnd c = false) : behindComment cs = [] := by
  rw [behindComment, List.dropWhile_eq_nil_iff]
  intro c hc
  simp [h c hc]

theorem behindComment_append (h : cs.all (!isLineEnd ·) = false) (more : List Char) :
    behindComment (cs ++ more) = behindComment cs ++ more := by
  rw [behindComment, List.dropWhile_append, if_neg, ← behindComment]
  rw [List.isEmpty_iff, List.dropWhile_eq_nil_iff, ← List.all_eq_true, h]
  exact Bool.false_ne_true

theorem endsInComment_comment (cs : List Char) :
    endsInComment ('#' :: cs) = (cs.all (!isLineEnd ·) || endsInComment (behindComment cs)) := by
  rw [endsInComment_cons, isOpenComment, drop_passed_comment]

theorem endsInComment_of_comment (h : ∀ c ∈ cs, isLineEnd c = false) :
    endsInComment ('#' :: cs) = true := by
  have hopen : cs.all (!isLineEnd ·) = true := by simpa using h
  rw [endsInComment_comment, hopen, Bool.true_or]

end Steps

/-! ## A brace behind a text -/

/-- A token behind which nothing is read. -/
def Token.stops : Token → Bool
  | .endOfInput | .invalid _ => true
  | _ => false

theorem stops_shape (token : Token) : token.shape.stops = token.stops := by
  cases token <;> rfl

theorem stops_of_scanToken {c : Char} {text : RawText} {token : Token} {length : Nat}
    (h : scanToken c text = .ok (token, length)) : token.stops = false := by
  unfold scanToken at h
  cases hmark : punctuator? c with
  | some mark =>
    simp only [hmark] at h
    cases h
    rfl
  | none =>
    simp only [hmark] at h
    split_ifs at h
    · cases h
      rfl
    · unfold scanString at h
      split at h <;> split at h <;> cases h <;> rfl
    · obtain ⟨whole, fraction, exponent, -, -, -, -, hresult⟩ := scanNumber_eq_ok_iff.1 h
      cases hresult
      unfold numberToken
      split <;> rfl
    · cases h
      rfl

theorem Reads.stops_eq_false {c : Char} {cs rest : List Char} {shape : Token}
    (h : Reads c cs shape rest) : shape.stops = false := by
  obtain ⟨token, length, hscan, rfl, -⟩ := h
  rw [stops_shape, stops_of_scanToken hscan]

/-- What a text is read into ends at the one token that stops the reading. A blank and a
brace behind the text add the mark of the brace in front of that, unless a fault or a
comment comes first. -/
theorem exists_shapesOf_brace (cs : List Char) : ∃ body last,
    shapesOf cs = body ++ [last] ∧ last.stops ∧ (∀ shape ∈ body, shape.stops = false) ∧
    shapesOf (cs ++ [' ', '\x7d']) = body ++
      if last = .endOfInput ∧ endsInComment cs = false
      then [.punctuator .braceRight, .endOfInput] else [last] := by
  have hquiet : Quiet [] [' ', '\x7d'] := ⟨by simp, by simp [isBlank], by simp⟩
  have hquiet' : Quiet [' ', '\x7d'] [] := ⟨by simp [isBlank], by simp, by simp⟩
  have h : Lexes cs (shapesOf cs) := lexes_iff.2 rfl
  simp only [← @lexes_iff (cs ++ [' ', '\x7d'])]
  generalize shapesOf cs = shapes at h
  induction h with
  | nil =>
    refine ⟨[], .endOfInput, rfl, rfl, by simp, ?_⟩
    rw [if_pos ⟨rfl, rfl⟩]
    exact .ignored rfl (.token ⟨.punctuator .braceRight, 1, rfl, rfl, rfl⟩ .nil)
  | @ignored c cs shapes hc _ ih =>
    obtain ⟨body, last, hshapes, hstops, hbody, hbrace⟩ := ih
    rw [endsInComment_ignored hc]
    exact ⟨body, last, hshapes, hstops, hbody, .ignored hc hbrace⟩
  | @comment cs shapes h ih =>
    cases hopen : cs.all (!isLineEnd ·) with
    | true =>
      have hline : ∀ c ∈ cs, isLineEnd c = false := by simpa using hopen
      have hline' : ∀ c ∈ cs ++ [' ', '\x7d'], isLineEnd c = false := by
        rw [List.forall_mem_append]
        exact ⟨hline, by simp [isLineEnd]⟩
      rw [behindComment_eq_nil hline] at h
      cases h
      refine ⟨[], .endOfInput, rfl, rfl, by simp, ?_⟩
      rw [if_neg (by simp [endsInComment_of_comment hline])]
      refine .comment ?_
      rw [List.append_eq, behindComment_eq_nil hline']
      exact .nil
    | false =>
      obtain ⟨body, last, hshapes, hstops, hbody, hbrace⟩ := ih
      rw [endsInComment_comment, hopen, Bool.false_or]
      exact ⟨body, last, hshapes, hstops, hbody, .comment (behindComment_append hopen _ ▸ hbrace)⟩
  | @token c cs rest shape shapes hreads _ ih =>
    obtain ⟨body, last, rfl, hstops, hbody, hbrace⟩ := ih
    rw [endsInComment_of_reads hreads]
    refine ⟨shape :: body, last, rfl, hstops,
      List.forall_mem_cons.2 ⟨hreads.stops_eq_false, hbody⟩, ?_⟩
    obtain ⟨rest', hreads', hrest'⟩ | ⟨h, -⟩ :=
      hreads.respaced hquiet (Respaced.eq_append_iff.2 rfl)
    · rw [Respaced.eq_append_iff] at hrest'
      exact .token hreads' (hrest' ▸ hbrace)
    · exact absurd h (not_cutsLines_of_eq fun _ _ hswap => hswap)
  | @fault c cs hc hcomment hnone =>
    refine ⟨[], .invalid default, rfl, rfl, by simp, ?_⟩
    rw [if_neg (by simp)]
    exact .fault hc hcomment (not_reads_of_respaced hquiet' (Respaced.eq_append_iff.2 rfl).symm
      (fun h => not_cutsLines_of_eq (fun _ _ hswap => hswap.symm) h.1) hnone)

end ResolverTypings.Graphql
