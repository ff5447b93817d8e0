import ResolverTypings.Proofs.Graphql.Lexing

/-!
# Tokens of words with single spaces between them

What becomes of the tokens of a text when its words are put on one line with single spaces.
Three things can get in the way: a blank between tokens that the grammar does not pass over,
a line end that cuts off a string, and one that a comment ends at. A text without any of
them is read into the same tokens. Otherwise the two readings agree until the first of them
is met, where one of the readings stops.
-/
namespace ResolverTypings.Graphql

open Text (RawText isBlank isBlank_of_isLineEnd isLineEnd Respaced ToSpace)

/-! ## Strings cut off -/

/-- Whether a line end cuts off the string that is read from behind its first quote. -/
def isCutByLine (cs : List Char) : Bool :=
  match quotedValue 0 (RawText.ofChars cs) with
  | .error (.unterminatedString, before) => before < cs.length
  | _ => false

theorem CutByLine.isCutByLine {cs : List Char} (h : CutByLine cs) : isCutByLine cs := by
  obtain ⟨b, rest, hb, hcontent⟩ := h
  have hcut : ∀ {covered : Nat} {cs : List Char}, Content (cs.drop covered) (b :: rest) →
      ∃ before < cs.length,
        quotedValue covered (RawText.ofChars cs) = .error (.unterminatedString, before) := by
    intro covered cs hcontent
    induction cs generalizing covered with
    | nil =>
      rw [List.drop_nil] at hcontent
      cases hcontent
    | cons c cs ih =>
      have hfurther : ∀ {covered : Nat}, Content (cs.drop covered) (b :: rest) →
          ∃ before < (c :: cs).length, (quotedValue covered (RawText.ofChars cs)).further =
            .error (.unterminatedString, before) := by
        intro covered hcontent
        obtain ⟨before, hlt, hvalue⟩ := ih hcontent
        exact ⟨before + 1, Nat.succ_lt_succ hlt, by rw [hvalue]; rfl⟩
      cases covered with
      | succ covered => exact hfurther hcontent
      | zero =>
        rw [List.drop_zero] at hcontent
        rw [RawText.ofChars_cons, quotedValue]
        cases hcontent with
        | nothing =>
          have hquote : b ≠ '"' := by
            rintro rfl
            exact absurd hb (by decide)
          have hslash : b ≠ '\\' := by
            rintro rfl
            exact absurd hb (by decide)
          refine ⟨0, Nat.succ_pos _, ?_⟩
          simp [hquote, hslash, Text.CodePoint.satisfies, hb, throw_eq_error]
        | escape hescape hcontent =>
          obtain ⟨before, hlt, hvalue⟩ := hfurther hcontent
          refine ⟨before, hlt, ?_⟩
          rw [if_neg (by simp), if_pos rfl, hescape]
          simp only [hvalue]
          rfl
        | char hquote hslash hline hcontent =>
          have hbehind : Content (cs.drop 0) (b :: rest) := hcontent
          obtain ⟨before, hlt, hvalue⟩ := hfurther hbehind
          refine ⟨before, hlt, ?_⟩
          simp [hquote, hslash, hline, Text.CodePoint.satisfies, stringFront, RawText.front?,
            pure, Except.pure, hvalue, StringResult.behind, Except.map]
  have hwhole : Content (cs.drop 0) (b :: rest) := hcontent
  obtain ⟨before, hlt, hvalue⟩ := hcut hwhole
  simpa [Graphql.isCutByLine, hvalue] using hlt

/-! ## Plain spacing -/

section Plain

variable {c : Char} {cs rest : List Char} {shape : Token}

/-- No blank starts a token. -/
theorem not_reads_of_isBlank (hc : isBlank c) : ¬ Reads c cs shape rest := by
  rintro ⟨token, length, hscan, -⟩
  have hne : ∀ {d : Char}, isBlank d = false → c ≠ d := by
    rintro d hd rfl
    rw [hc] at hd
    cases hd
  have hmark : punctuator? c = none := by
    unfold punctuator?
    split <;> first | rfl | exact absurd rfl (hne (by decide))
  rw [scanToken, hmark] at hscan
  simp [hne (d := '.') (by decide), hne (d := '"') (by decide), hne (d := '-') (by decide),
    hne (d := '\'') (by decide), isDigit_eq_false_of_isBlank hc,
    isNameStart_eq_false_of_isBlank hc, throw_eq_error] at hscan

/-- A place where the reading starts anew and white space has its plain meaning: what stands
there is no blank that the grammar refuses, no comment that a line end closes, and no string
that a line end cuts off. -/
def isPlainStart : List Char → Bool
  | [] => true
  | c :: rest => (!isBlank c || isIgnored c) && (c != '#' || rest.all (!isLineEnd ·)) &&
      (c != '"' || !isCutByLine rest)

/-- Whether white space has its plain meaning in the whole of a text. -/
def plainlySpaced (cs : List Char) : Bool :=
  (starts 0 cs).all isPlainStart

theorem isPlainStart_of_plainlySpaced (h : plainlySpaced (c :: cs)) : isPlainStart (c :: cs) := by
  rw [plainlySpaced, starts_cons, List.all_cons, Bool.and_eq_true] at h
  exact h.1

theorem plainlySpaced_ignored (hc : isIgnored c) (h : plainlySpaced (c :: cs)) :
    plainlySpaced cs := by
  rw [plainlySpaced, starts_ignored hc, List.all_cons, Bool.and_eq_true] at h
  exact h.2

theorem plainlySpaced_of_reads (hreads : Reads c cs shape rest) (h : plainlySpaced (c :: cs)) :
    plainlySpaced rest := by
  rw [plainlySpaced, starts_of_reads hreads, List.all_cons, Bool.and_eq_true] at h
  exact h.2

theorem isIgnored_of_plainlySpaced (h : plainlySpaced (c :: cs)) (hc : isBlank c) :
    isIgnored c := by
  have hstart := isPlainStart_of_plainlySpaced h
  simp only [isPlainStart, hc, Bool.and_eq_true] at hstart
  exact hstart.1.1

theorem isLineEnd_eq_false_of_plainlySpaced (h : plainlySpaced ('#' :: cs)) :
    ∀ c ∈ cs, isLineEnd c = false := by
  have hstart := isPlainStart_of_plainlySpaced h
  simp only [isPlainStart, Bool.and_eq_true, Bool.or_eq_true, bne_self_eq_false,
    Bool.false_eq_true, false_or, List.all_eq_true, Bool.not_eq_true'] at hstart
  exact hstart.1.2

theorem isCutByLine_eq_false_of_plainlySpaced (h : plainlySpaced ('"' :: cs)) :
    isCutByLine cs = false := by
  have hstart := isPlainStart_of_plainlySpaced h
  simp only [isPlainStart, Bool.and_eq_true, Bool.or_eq_true, bne_self_eq_false,
    Bool.false_eq_true, false_or, Bool.not_eq_true'] at hstart
  exact hstart.2

end Plain

/-! ## Readings side by side -/

section Alike

variable {plain : Prop}

/-- What two texts are read into agrees up to a place where one of the readings stops. With
`plain` there is no such place. -/
inductive Agrees (plain : Prop) : List Token → List Token → Prop where
  | ends (shape : Token) : Agrees plain [shape] [shape]
  | cut {fault : LexicalFault} {shapes : List Token} : ¬ plain →
      Agrees plain [.invalid fault] shapes
  | hidden {shapes : List Token} : ¬ plain → Agrees plain shapes [.endOfInput]
  | cons {shape : Token} {shapes shapes' : List Token} : Agrees plain shapes shapes' →
      Agrees plain (shape :: shapes) (shape :: shapes')

theorem Agrees.eq_of_plain {shapes shapes' : List Token} (h : Agrees plain shapes shapes')
    (hplain : plain) : shapes = shapes' := by
  induction h with
  | ends => rfl
  | cut hcut => exact absurd hplain hcut
  | hidden hhidden => exact absurd hplain hhidden
  | cons _ ih => rw [ih]

theorem eq_nil_of_isPrefix_singleton {front : List Token} {last : Token} (hlast : last.stops)
    (hfront : ∀ shape ∈ front, shape.stops = false) (h : front <+: [last]) : front = [] := by
  rcases List.prefix_concat_iff.1 (show front <+: [] ++ [last] from h) with rfl | h
  · rw [hfront last (by simp)] at hlast
    cases hlast
  · exact List.prefix_nil.1 h

/-- Fronts at which neither reading stops go along with each other. -/
theorem Agrees.exists_common {shapes shapes' front front' : List Token}
    (h : Agrees plain shapes shapes') (hfront : front <+: shapes)
    (hstops : ∀ shape ∈ front, shape.stops = false) (hfront' : front' <+: shapes')
    (hstops' : ∀ shape ∈ front', shape.stops = false) :
    ∃ common, front <+: common ∧ front' <+: common := by
  induction h generalizing front front' with
  | ends shape => exact ⟨_, hfront, hfront'⟩
  | cut =>
    rw [eq_nil_of_isPrefix_singleton rfl hstops hfront]
    exact ⟨front', List.nil_prefix, List.prefix_refl _⟩
  | hidden =>
    rw [eq_nil_of_isPrefix_singleton rfl hstops' hfront']
    exact ⟨front, List.prefix_refl _, List.nil_prefix⟩
  | @cons shape shapes shapes' h ih =>
    rcases List.prefix_cons_iff.1 hfront with rfl | ⟨front, rfl, hbehind⟩
    · exact ⟨front', List.nil_prefix, List.prefix_refl _⟩
    rcases List.prefix_cons_iff.1 hfront' with rfl | ⟨front', rfl, hbehind'⟩
    · exact ⟨_, List.prefix_refl _, List.nil_prefix⟩
    obtain ⟨common, hcommon, hcommon'⟩ :=
      ih hbehind (List.forall_mem_cons.1 hstops).2 hbehind' (List.forall_mem_cons.1 hstops').2
    exact ⟨shape :: common, (List.prefix_cons_inj shape).2 hcommon,
      (List.prefix_cons_inj shape).2 hcommon'⟩

/-- Two texts that are read alike: what they are read into agrees, and with `plain` either
both end in a comment or neither does. -/
structure Alike (plain : Prop) (cs ds : List Char) : Prop where
  shapes : Agrees plain (shapesOf cs) (shapesOf ds)
  comment : plain → endsInComment cs = endsInComment ds

namespace Alike

variable {c : Char} {cs ds : List Char}

theorem refl (cs : List Char) : Alike plain cs cs := by
  obtain ⟨body, last, hshapes, -⟩ := exists_shapesOf_brace cs
  refine ⟨?_, fun _ => rfl⟩
  rw [hshapes]
  clear hshapes
  induction body with
  | nil => exact .ends last
  | cons shape body ih => exact .cons ih

theorem ignored (hc : isIgnored c) (h : Alike plain cs ds) : Alike plain (c :: cs) ds :=
  ⟨shapesOf_ignored hc cs ▸ h.shapes, fun hplain => endsInComment_ignored hc cs ▸ h.comment hplain⟩

theorem ignored_right (hc : isIgnored c) (h : Alike plain cs ds) : Alike plain cs (c :: ds) :=
  ⟨shapesOf_ignored hc ds ▸ h.shapes, fun hplain => endsInComment_ignored hc ds ▸ h.comment hplain⟩

theorem reads {shape : Token} {rest rest' : List Char} (hcs : Reads c cs shape rest)
    (hds : Reads c ds shape rest') (h : Alike plain rest rest') :
    Alike plain (c :: cs) (c :: ds) where
  shapes := by
    rw [shapesOf_of_reads hcs, shapesOf_of_reads hds]
    exact .cons h.shapes
  comment hplain := by
    rw [endsInComment_of_reads hcs, endsInComment_of_reads hds, h.comment hplain]

/-- A blank in front that the grammar refuses stops the reading. -/
theorem blank (hc : isBlank c) (hplain : plain → isIgnored c) (h : Alike plain cs ds) :
    Alike plain (c :: cs) ds := by
  cases hignored : isIgnored c with
  | true => exact h.ignored hignored
  | false =>
    have hcut : ¬ plain := by simpa [hignored] using hplain
    have hcomment : c ≠ '#' := by
      rintro rfl
      exact absurd hc (by decide)
    refine ⟨?_, fun hp => absurd hp hcut⟩
    rw [shapesOf_of_fault hignored hcomment fun _ _ => not_reads_of_isBlank hc]
    exact .cut hcut

theorem blanks {lead : List Char} (hlead : ∀ c ∈ lead, isBlank c)
    (hplain : plain → plainlySpaced (lead ++ cs))
    (h : (plain → plainlySpaced cs) → Alike plain cs ds) : Alike plain (lead ++ cs) ds := by
  induction lead with
  | nil => exact h hplain
  | cons c lead ih =>
    obtain ⟨hc, hlead⟩ := List.forall_mem_cons.1 hlead
    have hignored : plain → isIgnored c := fun hp => isIgnored_of_plainlySpaced (hplain hp) hc
    exact blank hc hignored (ih hlead fun hp => plainlySpaced_ignored (hignored hp) (hplain hp))

end Alike

/-! ## Words with single spaces -/

variable {tail tail' : List Char}

/-- Words on one line are read as they are with the blanks that stood between them. -/
theorem Lexes.respaced (hquiet : Quiet tail tail') (hquiet' : Quiet tail' tail)
    (htail : (plain → plainlySpaced tail) → Alike plain tail tail') {cs ds : List Char}
    {shapes : List Token} (h : Lexes cs shapes) (hplain : plain → plainlySpaced cs)
    (hds : Respaced ToSpace True tail tail' cs ds) (hline : ∀ c ∈ ds, isLineEnd c = false) :
    Alike plain cs ds := by
  induction h generalizing ds with
  | nil =>
    obtain ⟨rfl, rfl⟩ := hds.nil
    exact htail hplain
  | @ignored c cs shapes hc _ ih =>
    replace ih := fun {ds} => @ih ds fun hp => plainlySpaced_ignored hc (hplain hp)
    cases hblank : isBlank c with
    | false =>
      obtain ⟨ds, rfl, hbehind⟩ := hds.cons hquiet.left hblank
      exact ((ih hbehind (List.forall_mem_cons.1 hline).2).ignored hc).ignored_right hc
    | true =>
      refine hds.of_blank (P := fun ds => (∀ c ∈ ds, isLineEnd c = false) → Alike plain (c :: cs) ds)
        hblank ?_ (fun ds hbehind hline => (ih hbehind hline).ignored hc) ?_ hline
      · rintro rfl -
        exact htail hplain
      · rintro _ ds - rfl hes hline
        exact (hes (List.forall_mem_cons.1 hline).2).ignored_right (by decide)
  | @comment cs shapes _ _ =>
    obtain ⟨ds, rfl, -⟩ := hds.cons hquiet.left (by decide)
    have hline' := (List.forall_mem_cons.1 hline).2
    have hopen : shapesOf ('#' :: ds) = [.endOfInput] := by
      rw [shapesOf_comment, behindComment_eq_nil hline']
      rfl
    refine ⟨?_, fun hp => ?_⟩
    · rw [hopen]
      by_cases hp : plain
      · rw [shapesOf_comment, behindComment_eq_nil (isLineEnd_eq_false_of_plainlySpaced (hplain hp))]
        exact .ends _
      · exact .hidden hp
    · rw [endsInComment_of_comment (isLineEnd_eq_false_of_plainlySpaced (hplain hp)),
        endsInComment_of_comment hline']
  | @token c cs rest shape shapes hreads _ ih =>
    have hblank : isBlank c = false := by
      cases hc : isBlank c with
      | false => rfl
      | true => exact absurd hreads (not_reads_of_isBlank hc)
    obtain ⟨ds, rfl, hbehind⟩ := hds.cons hquiet.left hblank
    have hline' := (List.forall_mem_cons.1 hline).2
    obtain ⟨rest', hreads', hrest'⟩ | ⟨hcuts, -⟩ := hreads.respaced hquiet hbehind
    · refine .reads hreads hreads' (ih (fun hp => plainlySpaced_of_reads hreads (hplain hp)) hrest' ?_)
      exact fun d hd => hline' d (hreads'.mem hd)
    · obtain ⟨_, _, rfl, -, hspace⟩ := hcuts
      exact absurd hspace (by decide)
  | @fault c cs hc hcomment hnone =>
    by_cases hp : plain
    · have hblank : isBlank c = false := by
        cases hblank : isBlank c with
        | false => rfl
        | true => simp [isIgnored_of_plainlySpaced (hplain hp) hblank] at hc
      obtain ⟨ds, rfl, hbehind⟩ := hds.cons hquiet.left hblank
      have hnone' : ∀ shape rest, ¬ Reads c ds shape rest := by
        refine not_reads_of_respaced hquiet' hbehind.symm ?_ hnone
        rintro ⟨-, rfl, -, hcut⟩
        have hcut' := hcut.isCutByLine
        simp [isCutByLine_eq_false_of_plainlySpaced (hplain hp)] at hcut'
      refine ⟨?_, fun _ => ?_⟩
      · rw [shapesOf_of_fault hc hcomment hnone, shapesOf_of_fault hc hcomment hnone']
        exact .ends _
      · rw [endsInComment_of_fault hc hcomment hnone, endsInComment_of_fault hc hcomment hnone']
    · refine ⟨?_, fun h => absurd h hp⟩
      rw [shapesOf_of_fault hc hcomment hnone]
      exact .cut hp

/-- A text is read, with some more behind it, as its words are with single spaces. -/
theorem alike_joined (plain : Prop) {more : List Char} (hmore : Quiet more more)
    (hline : ∀ c ∈ more, isLineEnd c = false) (cs : List Char)
    (hplain : plain → plainlySpaced (cs ++ more)) :
    Alike plain (cs ++ more) (Text.joined cs ++ more) := by
  obtain ⟨lead, core, trail, hcs, hlead, htrail, h⟩ := Text.exists_respaced_joined cs
  have hquote : '"' ∉ trail := fun hquote => absurd (htrail _ hquote) (by decide)
  have hstarts : Text.StartsBlank (trail ++ more) := by
    cases trail with
    | nil => exact hmore.left
    | cons b trail => exact Text.startsBlank_cons.2 (htrail b (by simp))
  have hspaces : ∀ c ∈ Text.joined cs ++ more, isLineEnd c = false := by
    intro c hc
    rcases List.mem_append.1 hc with hc | hc
    · have hspace := h.eq_space (by simp) c hc
      cases hend : isLineEnd c with
      | false => rfl
      | true =>
        rw [hspace (isBlank_of_isLineEnd hend)] at hend
        exact absurd hend (by decide)
    · exact hline c hc
  generalize Text.joined cs = ds at h hspaces ⊢
  subst hcs
  rw [List.append_assoc] at hplain ⊢
  refine .blanks hlead hplain fun hplain => ?_
  exact Lexes.respaced ⟨hstarts, hmore.left, by simp [hquote, hmore.unquoted]⟩
    ⟨hmore.left, hstarts, hmore.unquoted⟩ (fun hplain => .blanks htrail hplain fun _ => .refl more)
    (lexes_iff.2 rfl) hplain (h.append more) hspaces

end Alike

/-- A brace is read behind texts in the same way if they are read alike. -/
theorem Alike.shapesOf_brace {cs ds : List Char} (h : Alike True cs ds) :
    shapesOf (cs ++ [' ', '\x7d']) = shapesOf (ds ++ [' ', '\x7d']) := by
  obtain ⟨body, last, hshapes, -, -, hbrace⟩ := exists_shapesOf_brace cs
  obtain ⟨body', last', hshapes', -, -, hbrace'⟩ := exists_shapesOf_brace ds
  have heq := h.shapes.eq_of_plain trivial
  rw [hshapes, hshapes'] at heq
  obtain ⟨rfl, hlast⟩ := List.append_inj' heq rfl
  rw [hbrace, hbrace', h.comment trivial, List.singleton_inj.1 hlast]

end ResolverTypings.Graphql
