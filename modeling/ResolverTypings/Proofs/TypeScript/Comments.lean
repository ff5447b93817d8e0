import Mathlib.Data.List.DropRight
import ResolverTypings.Proofs.Text.RawTexts
import ResolverTypings.TypeScript.Declaration

/-!
# Comments

A description is put between the two ends of a block comment, and nothing is changed in it but
that each further line gets a mark in front. The marks never end the comment, and they can be
taken out again, so a description is found again in its comment. A comment does end at the first
`*/` in it, though. If a description holds one, what stands behind that is read as code.
-/
namespace ResolverTypings.TypeScript

open Text (RawText CodePoint)

/-! ## The end of a comment -/

/-- What stands behind the first `*/` of a text. -/
def behindEnd? : RawText → Option RawText
  | [] => none
  | point :: rest =>
    if point = .char '*' ∧ rest.head? = some (.char '/') then some rest.tail else behindEnd? rest

/-- What is left of a code behind the block comment that it begins with. -/
def behindComment? : RawText → Option RawText
  | .char '/' :: .char '*' :: rest => behindEnd? rest
  | _ => none

/-- Whether a text holds the end of a comment. -/
def HoldsEnd (text : RawText) : Prop :=
  ∃ front back : RawText, text = front ++ "*/" ++ back

theorem behindEnd?_cons_of_ne {point : CodePoint} (h : point ≠ .char '*') (rest : RawText) :
    behindEnd? (point :: rest) = behindEnd? rest := by
  simp [behindEnd?, h]

/-- What stands behind the first end of a comment does so. -/
theorem exists_of_behindEnd?_eq_some {text rest : RawText} (h : behindEnd? text = some rest) :
    ∃ front : RawText, text = front ++ "*/" ++ rest := by
  induction text with
  | nil => cases h
  | cons point more ih =>
    rw [behindEnd?] at h
    split at h
    · next hend =>
      obtain ⟨rfl, hslash⟩ := hend
      obtain ⟨behind, rfl⟩ := List.head?_eq_some_iff.1 hslash
      obtain rfl : behind = rest := Option.some.inj h
      exact ⟨[], rfl⟩
    · obtain ⟨front, rfl⟩ := ih h
      exact ⟨point :: front, rfl⟩

/-- Wherever a comment may end, it does so there or earlier. -/
theorem exists_behindEnd?_append (front back : RawText) :
    ∃ rest, behindEnd? (front ++ "*/" ++ back) = some rest ∧
      (rest = back ∨ ∃ more : RawText, rest = more ++ "*/" ++ back) := by
  induction front with
  | nil => exact ⟨back, rfl, .inl rfl⟩
  | cons point front ih =>
    rw [List.cons_append, List.cons_append, behindEnd?]
    split
    · next hend =>
      -- The second half of this end is not the first half of the one that is known.
      cases front with
      | nil => simp [RawText.ofString] at hend
      | cons next front => exact ⟨_, rfl, .inr ⟨front, rfl⟩⟩
    · exact ih

theorem holdsEnd_iff {text : RawText} : HoldsEnd text ↔ behindEnd? text ≠ none := by
  constructor
  · rintro ⟨front, back, rfl⟩ hnone
    obtain ⟨rest, hrest, -⟩ := exists_behindEnd?_append front back
    cases hrest.symm.trans hnone
  · intro hne
    obtain ⟨rest, hrest⟩ := Option.ne_none_iff_exists'.1 hne
    obtain ⟨front, hfront⟩ := exists_of_behindEnd?_eq_some hrest
    exact ⟨front, rest, hfront⟩

instance (text : RawText) : Decidable (HoldsEnd text) :=
  decidable_of_iff _ holdsEnd_iff.symm

/-- There is one end of a comment only if none is left behind the first. -/
theorem forall_end_iff {text rest last : RawText} (h : behindEnd? text = some rest)
    (hlast : behindEnd? last = none) :
    (∀ front back : RawText, text = front ++ "*/" ++ back → back = last) ↔ rest = last := by
  constructor
  · intro hall
    obtain ⟨front, hfront⟩ := exists_of_behindEnd?_eq_some h
    exact hall front rest hfront
  · rintro rfl front back rfl
    obtain ⟨rest', hrest, hback⟩ := exists_behindEnd?_append front back
    obtain rfl := Option.some.inj (h.symm.trans hrest)
    rcases hback with hback | ⟨more, hmore⟩
    · exact hback.symm
    · obtain ⟨later, hlater, -⟩ := exists_behindEnd?_append more back
      rw [hmore, hlater] at hlast
      cases hlast

/-! ## The lines of a comment -/

/-- A code point of a description in its comment. -/
def marked (point : CodePoint) : RawText :=
  if point = .char '\n' then RawText.ofString "\n * " else [point]

theorem commentLines_eq (text : RawText) : commentLines text = text.flatMap marked := rfl

/-- The text with the marks in front of its lines taken out. -/
def unmarked : RawText → RawText
  | [] => []
  | .char '\n' :: .char ' ' :: .char '*' :: .char ' ' :: rest => .char '\n' :: unmarked rest
  | point :: rest => point :: unmarked rest

theorem unmarked_cons_of_ne {point : CodePoint} (h : point ≠ .char '\n') (rest : RawText) :
    unmarked (point :: rest) = point :: unmarked rest := by
  rw [unmarked]
  intro more hpoint
  exact absurd hpoint h

theorem unmarked_commentLines (text : RawText) : unmarked (commentLines text) = text := by
  rw [commentLines_eq]
  induction text with
  | nil => rfl
  | cons point text ih =>
    rw [List.flatMap_cons, marked]
    split
    · next hpoint =>
      rw [hpoint]
      exact congrArg _ ih
    · next hpoint => rw [List.singleton_append, unmarked_cons_of_ne hpoint, ih]

/-- The two ends of a comment stand around the marked text. -/
theorem comment_some {text : RawText} (h : text ≠ []) :
    comment (some text) = "/**\n * " ++ (commentLines text ++ "\n */\n") := by
  rw [comment, if_neg (by simpa using h), List.append_assoc]

/-- The description in a comment. -/
def described (text : RawText) : RawText :=
  unmarked ((text.drop "/**\n * ".length).rdrop "\n */\n".length)

theorem described_comment {text : RawText} (h : text ≠ []) :
    described (comment (some text)) = text := by
  have hfront : "/**\n * ".length = (RawText.ofString "/**\n * ").length := rfl
  have hback : "\n */\n".length = (RawText.ofString "\n */\n").length := rfl
  rw [described, comment_some h, hfront, hback, List.drop_left, List.rdrop_append_length,
    unmarked_commentLines]

/-! ## What is read as code -/

/-- The part of a comment that a reader takes for code: the line end behind it, and if the
description holds an end of the comment all that stands behind that. -/
def readAsCode (text : RawText) : RawText :=
  match behindEnd? text with
  | none => "\n"
  | some rest => commentLines rest ++ "\n */\n"

/-- A slash stands first in a marked text only if it did so before. -/
theorem head?_marked_eq_slash_iff (text code : RawText) :
    (commentLines text ++ ("\n */\n" ++ code)).head? = some (.char '/') ↔
      text.head? = some (.char '/') := by
  cases text with
  | nil => simp [commentLines, RawText.ofString]
  | cons point text =>
    by_cases hline : point = .char '\n'
    · simp [commentLines, hline, RawText.ofString]
    · simp [commentLines, hline]

/-- The marks in front of the lines end no comment, and neither do they keep one from ending. -/
theorem behindEnd?_marked (text code : RawText) :
    behindEnd? (commentLines text ++ ("\n */\n" ++ code)) = some (readAsCode text ++ code) := by
  induction text with
  | nil => rfl
  | cons point text ih =>
    by_cases hline : point = .char '\n'
    · -- The star of the mark has a blank behind it.
      subst hline
      have hcode : readAsCode (.char '\n' :: text) = readAsCode text := by
        rw [readAsCode, behindEnd?_cons_of_ne (by decide), readAsCode]
      rw [hcode, ← ih]
      simp [commentLines, RawText.ofString, behindEnd?]
    · have hmarked : commentLines (point :: text) = point :: commentLines text := by
        simp [commentLines, hline]
      rw [hmarked, List.cons_append]
      simp only [behindEnd?, head?_marked_eq_slash_iff, ih, readAsCode]
      by_cases hend : point = .char '*' ∧ text.head? = some (.char '/')
      · obtain ⟨behind, rfl⟩ := List.head?_eq_some_iff.1 hend.2
        rw [if_pos hend, if_pos hend, List.append_assoc]
        rfl
      · rw [if_neg hend, if_neg hend]

/-- What stands behind the first end in a comment, and in front of what follows, is read as
code. -/
theorem behindEnd?_comment {text : RawText} (h : text ≠ []) (code : RawText) :
    behindEnd? (comment (some text) ++ code) = some (readAsCode text ++ code) := by
  -- The text is behind the third star, with a blank between them.
  have hopened : behindEnd? (comment (some text) ++ code) =
      behindEnd? (commentLines text ++ ("\n */\n" ++ code)) := by
    rw [comment_some h, List.append_assoc, List.append_assoc]
    rfl
  rw [hopened, behindEnd?_marked]

theorem behindComment?_comment {text : RawText} (h : text ≠ []) (code : RawText) :
    behindComment? (comment (some text) ++ code) = some (readAsCode text ++ code) := by
  rw [← behindEnd?_comment h code, comment_some h]
  rfl

theorem readAsCode_eq_iff (text : RawText) : readAsCode text = "\n" ↔ ¬ HoldsEnd text := by
  rw [holdsEnd_iff, not_ne_iff, readAsCode]
  cases behindEnd? text with
  | none => simp
  | some rest =>
    have hlong : commentLines rest ++ RawText.ofString "\n */\n" ≠ RawText.ofString "\n" := by
      intro h
      have hlength := congrArg List.length h
      rw [List.length_append] at hlength
      have : (RawText.ofString "\n */\n").length = 5 := rfl
      have : (RawText.ofString "\n").length = 1 := rfl
      omega
    simp [hlong]

/-- **Descriptions in comments.** A comment begins with `/**` and has the end `*/` at the end of
its last line. That end is the only one, and no part of the comment is read as code but the line
end behind it, just if the description does not hold `*/`. The description is found again in the
comment in either case. -/
theorem comment_ends_once_iff {text : RawText} (h : text ≠ []) :
    (∃ body : RawText, comment (some text) = "/**" ++ body ++ "*/\n") ∧
      ((∀ front back : RawText, comment (some text) = front ++ "*/" ++ back → back = "\n") ↔
        ¬ HoldsEnd text) ∧
      (∀ code, behindComment? (comment (some text) ++ code) = some (readAsCode text ++ code)) ∧
      (readAsCode text = "\n" ↔ ¬ HoldsEnd text) ∧
      described (comment (some text)) = text := by
  refine ⟨?_, ?_, behindComment?_comment h, readAsCode_eq_iff text, described_comment h⟩
  · refine ⟨"\n * " ++ commentLines text ++ "\n ", ?_⟩
    rw [comment_some h]
    simp [RawText.ofString]
  · have hfirst : behindEnd? (comment (some text)) = some (readAsCode text) := by
      simpa using behindEnd?_comment h []
    rw [forall_end_iff hfirst rfl]
    exact readAsCode_eq_iff text

/-- Stars and slashes on both sides of a line end. -/
def starredLines : RawText := "/ a *\n/ b *"

/-- They do not meet in the comment. -/
theorem comment_ends_once_atLineEnds :
    starredLines ≠ [] ∧ ¬ HoldsEnd starredLines ∧
      comment (some starredLines) = "/**\n * / a *\n * / b *\n */\n" ∧
      (∀ front back : RawText, comment (some starredLines) = front ++ "*/" ++ back → back = "\n") ∧
      described (comment (some starredLines)) = starredLines := by
  have hne : starredLines ≠ [] := by decide
  have hholds : ¬ HoldsEnd starredLines := by decide
  obtain ⟨-, hends, -, -, hdescribed⟩ := comment_ends_once_iff hne
  exact ⟨hne, hholds, by decide, hends.2 hholds, hdescribed⟩

/-- A description with the end of a comment. -/
def endingText : RawText := "a */ b"

/-- It ends its comment, and what stands behind that is code. -/
theorem comment_ends_early :
    ¬ (∀ front back : RawText, comment (some endingText) = front ++ "*/" ++ back → back = "\n") ∧
      behindComment? (comment (some endingText)) = some " b\n */\n" := by
  constructor
  · intro hends
    exact absurd (hends "/**\n * a " " b\n */\n" (by decide)) (by decide)
  · decide

end ResolverTypings.TypeScript
