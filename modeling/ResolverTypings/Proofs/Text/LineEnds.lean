import ResolverTypings.Proofs.Text.Words

/-!
# Texts that differ in their line ends

Two texts have the same lines if they are one text as soon as every line end is a line feed.
They agree in every character that ends no line, and where a line of the one ends, a line of the
other ends as well, be it with one character or with two.
-/
namespace ResolverTypings.Text

/-- What follows the line end that starts with a character: a line feed behind a carriage return
belongs to it. -/
def behindLineEnd (c : Char) (cs : List Char) : List Char :=
  if c = '\r' ∧ cs.head? = some '\n' then cs.tail else cs

theorem length_behindLineEnd_le (c : Char) (cs : List Char) :
    (behindLineEnd c cs).length ≤ cs.length := by
  unfold behindLineEnd
  split
  · simp
  · exact le_rfl

/-- A line feed is a line end of its own. -/
theorem behindLineEnd_of_ne {c : Char} {cs : List Char}
    (h : c = '\r' → cs.head? ≠ some '\n') : behindLineEnd c cs = cs :=
  if_neg fun hends => h hends.1 hends.2

theorem unifyLineEnds_cons {c : Char} (hc : isLineEnd c = false) (cs : List Char) :
    unifyLineEnds (c :: cs) = c :: unifyLineEnds cs := by
  have hreturn : c ≠ '\r' := by
    rintro rfl
    cases hc
  rw [unifyLineEnds, if_neg hreturn]
  rintro _ rfl
  exact absurd rfl hreturn

theorem unifyLineEnds_lineEnd {c : Char} (hc : isLineEnd c) (cs : List Char) :
    unifyLineEnds (c :: cs) = '\n' :: unifyLineEnds (behindLineEnd c cs) := by
  by_cases hends : c = '\r' ∧ cs.head? = some '\n'
  · obtain ⟨rfl, hfeed⟩ := hends
    obtain ⟨rest, rfl⟩ := List.head?_eq_some_iff.1 hfeed
    rfl
  · have hline : (if c = '\r' then '\n' else c) = '\n' := by
      simp only [isLineEnd, Bool.or_eq_true, beq_iff_eq] at hc
      rcases hc with rfl | rfl <;> rfl
    rw [behindLineEnd, if_neg hends, unifyLineEnds, hline]
    rintro rest rfl rfl
    exact hends ⟨rfl, rfl⟩

theorem lines_cons {c : Char} (hc : isLineEnd c = false) (text : RawText) :
    lines (.char c :: text) =
      match lines text with
      | first :: rest => (.char c :: first) :: rest
      | [] => [[.char c]] := by
  have hends : ¬ (CodePoint.char c).satisfies isLineEnd := by simp [CodePoint.satisfies, hc]
  rw [lines]
  · exact if_neg hends
  · rintro rest hreturn -
    cases hreturn
    cases hc

theorem lines_lineEnd {c : Char} (hc : isLineEnd c) (cs : List Char) :
    lines (RawText.ofChars (c :: cs)) = [] :: lines (RawText.ofChars (behindLineEnd c cs)) := by
  by_cases hends : c = '\r' ∧ cs.head? = some '\n'
  · obtain ⟨rfl, hfeed⟩ := hends
    obtain ⟨rest, rfl⟩ := List.head?_eq_some_iff.1 hfeed
    rfl
  · rw [behindLineEnd, if_neg hends, RawText.ofChars_cons, lines, CodePoint.satisfies, if_pos hc]
    rintro rest hreturn hfeed
    cases hreturn
    have hfront : RawText.ofChars cs = RawText.ofChars ['\n'] ++ rest := hfeed
    obtain ⟨ds, rfl, -⟩ := RawText.ofChars_eq_append_iff.1 hfront
    exact hends ⟨rfl, rfl⟩

/-- Texts with the same lines. -/
inductive SameLines : List Char → List Char → Prop where
  | nil : SameLines [] []
  | char {c : Char} {cs ds : List Char} : isLineEnd c = false → SameLines cs ds →
      SameLines (c :: cs) (c :: ds)
  | line {c d : Char} {cs ds : List Char} : isLineEnd c → isLineEnd d →
      SameLines (behindLineEnd c cs) (behindLineEnd d ds) → SameLines (c :: cs) (d :: ds)

/-- Texts have the same lines just where they are one text with line feeds for all line ends. -/
theorem sameLines_iff {cs ds : List Char} :
    SameLines cs ds ↔ unifyLineEnds cs = unifyLineEnds ds := by
  constructor
  · intro h
    induction h with
    | nil => rfl
    | char hc _ ih => rw [unifyLineEnds_cons hc, unifyLineEnds_cons hc, ih]
    | line hc hd _ ih => rw [unifyLineEnds_lineEnd hc, unifyLineEnds_lineEnd hd, ih]
  · intro h
    have hfeed : ∀ {e : Char}, isLineEnd e = false → e ≠ '\n' := by
      rintro e he rfl
      cases he
    induction hlength : cs.length using Nat.strong_induction_on generalizing cs ds with
    | _ n ih =>
      subst hlength
      rcases cs with _ | ⟨c, cs⟩ <;> rcases ds with _ | ⟨d, ds⟩
      · exact .nil
      · cases hd : isLineEnd d <;>
          simp [unifyLineEnds_cons, unifyLineEnds_lineEnd, hd, unifyLineEnds] at h
      · cases hc : isLineEnd c <;>
          simp [unifyLineEnds_cons, unifyLineEnds_lineEnd, hc, unifyLineEnds] at h
      · cases hc : isLineEnd c <;> cases hd : isLineEnd d
        · rw [unifyLineEnds_cons hc, unifyLineEnds_cons hd] at h
          obtain ⟨rfl, hrest⟩ := List.cons.inj h
          exact .char hc (ih cs.length (by simp) hrest rfl)
        · rw [unifyLineEnds_cons hc, unifyLineEnds_lineEnd hd] at h
          exact absurd (List.cons.inj h).1 (hfeed hc)
        · rw [unifyLineEnds_lineEnd hc, unifyLineEnds_cons hd] at h
          exact absurd (List.cons.inj h).1.symm (hfeed hd)
        · rw [unifyLineEnds_lineEnd hc, unifyLineEnds_lineEnd hd] at h
          have hle := length_behindLineEnd_le c cs
          exact .line hc hd (ih _ (Nat.lt_succ_of_le hle) (List.cons.inj h).2 rfl)

/-- Nothing is left to do where every line end is a line feed. -/
theorem unifyLineEnds_unifyLineEnds (cs : List Char) :
    unifyLineEnds (unifyLineEnds cs) = unifyLineEnds cs := by
  have hcons : ∀ {c : Char}, c ≠ '\r' → ∀ cs, unifyLineEnds (c :: cs) = c :: unifyLineEnds cs := by
    intro c hc cs
    rw [unifyLineEnds, if_neg hc]
    rintro _ rfl
    exact absurd rfl hc
  fun_induction unifyLineEnds cs with
  | case1 => rfl
  | case2 cs ih => rw [hcons (by decide), ih]
  | case3 c cs _ ih => rw [hcons (by split <;> simp_all), ih]

namespace SameLines

theorem refl (cs : List Char) : SameLines cs cs :=
  sameLines_iff.2 rfl

theorem unified (cs : List Char) : SameLines cs (unifyLineEnds cs) :=
  sameLines_iff.2 (unifyLineEnds_unifyLineEnds cs).symm

theorem symm {cs ds : List Char} (h : SameLines cs ds) : SameLines ds cs :=
  sameLines_iff.2 (sameLines_iff.1 h).symm

theorem cons {c : Char} {cs ds : List Char} (h : SameLines (c :: cs) ds)
    (hc : isLineEnd c = false) : ∃ ds', ds = c :: ds' ∧ SameLines cs ds' := by
  cases h with
  | char _ h => exact ⟨_, rfl, h⟩
  | line hline => simp [hc] at hline

theorem word_eq {cs ds : List Char} (h : SameLines cs ds) : word cs = word ds := by
  induction h with
  | nil => rfl
  | @char c cs ds _ _ ih =>
    cases hc : isBlank c with
    | true => simp [word, hc]
    | false => rw [word_cons hc, word_cons hc, ih]
  | line hc hd => simp [word, isBlank_of_isLineEnd hc, isBlank_of_isLineEnd hd]

/-- Texts with the same lines are divided into the same lines. -/
theorem lines_eq {cs ds : List Char} (h : SameLines cs ds) :
    lines (RawText.ofChars cs) = lines (RawText.ofChars ds) := by
  induction h with
  | nil => rfl
  | char hc _ ih =>
    rw [RawText.ofChars_cons, RawText.ofChars_cons, lines_cons hc, lines_cons hc, ih]
  | line hc hd _ ih => rw [lines_lineEnd hc, lines_lineEnd hd, ih]

/-- What stands behind a part of the first word has the same lines as well. -/
theorem drop {cs ds : List Char} (h : SameLines cs ds) {n : Nat} (hn : n ≤ (word cs).length) :
    SameLines (cs.drop n) (ds.drop n) := by
  induction h generalizing n with
  | nil => simpa using SameLines.nil
  | char hc h ih =>
    cases n with
    | zero => exact .char hc h
    | succ n => exact ih (le_length_word_of_succ hn).2
  | line hc hd h =>
    cases n with
    | zero => exact .line hc hd h
    | succ n =>
      have hblank := (le_length_word_of_succ hn).1
      simp [isBlank_of_isLineEnd hc] at hblank

end SameLines
end ResolverTypings.Text
