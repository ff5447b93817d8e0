import ResolverTypings.Proofs.Text.RawTexts

/-!
# Brackets

The brackets of a text are properly nested if each one that closes closes the last one that is
still open, and in the end none is open. An arrow `=>` ends in no bracket. A piece of text may
open brackets that a later piece closes; what it does to the open ones does not depend on those
around them.
-/
namespace ResolverTypings.Text

/-- What is known of the brackets in front of a character. -/
structure Nesting where
  /-- The characters that close the open brackets, innermost first. -/
  pending : List Char := []
  /-- Whether the last character may begin an arrow. -/
  isAfterEquals : Bool := false
  deriving Repr, DecidableEq, Inhabited

/-- The bracket that closes an opening one. -/
def closingOf? (c : Char) : Option Char :=
  if c = '\x7b' then some '\x7d'
  else if c = '(' then some ')'
  else if c = '[' then some ']'
  else if c = '<' then some '>'
  else none

/-- Whether a character is a closing bracket. -/
def isClosing (c : Char) : Bool :=
  c = '\x7d' || c = ')' || c = ']' || c = '>'

/-- The characters that count: the brackets, and the one that may begin an arrow. -/
def marks : List Char :=
  ['\x7b', '\x7d', '(', ')', '[', ']', '<', '>', '=']

/-- Read a code point; a bracket that closes no open one is refused. -/
def Nesting.step (nesting : Nesting) : CodePoint → Option Nesting
  | .surrogate _ => some { pending := nesting.pending }
  | .char c =>
    match closingOf? c with
    | some closing => some { pending := closing :: nesting.pending }
    | none =>
      if c = '>' ∧ nesting.isAfterEquals then some { pending := nesting.pending }
      else if isClosing c then
        match nesting.pending with
        | [] => none
        | expected :: rest => if c = expected then some { pending := rest } else none
      else some { pending := nesting.pending, isAfterEquals := c = '=' }

/-- Read a text. -/
def Nesting.read (nesting : Nesting) (text : RawText) : Option Nesting :=
  text.foldlM step nesting

/-- A text leads from some open brackets to others, and does not end in what may be the first
half of an arrow. -/
def Turns (text : RawText) (before after : List Char) : Prop :=
  Nesting.read { pending := before } text = some { pending := after }

instance (text : RawText) (before after : List Char) : Decidable (Turns text before after) :=
  inferInstanceAs (Decidable (Nesting.read { pending := before } text = some { pending := after }))

/-- The brackets of a text are properly nested and all closed. -/
abbrev Bracketed (text : RawText) : Prop :=
  Turns text [] []

example : Bracketed "(xs: Array<A>[]) => \x7b\x7d" ∧ ¬ Bracketed "([)]" ∧ ¬ Bracketed "-> A" := by
  decide

/-! ## Pieces of text -/

theorem Nesting.read_append (nesting : Nesting) (front back : RawText) :
    nesting.read (front ++ back) = (nesting.read front).bind fun next => next.read back :=
  List.foldlM_append

theorem Nesting.step_of_not_mem_marks {c : Char} (h : c ∉ marks) (pending : List Char) :
    Nesting.step { pending } (.char c) = some { pending } := by
  simp only [marks, List.mem_cons, List.not_mem_nil, or_false, not_or] at h
  simp [step, closingOf?, isClosing, h]

/-- What a character does does not depend on the brackets that are open further out. -/
theorem Nesting.step_append {nesting next : Nesting} {point : CodePoint}
    (h : nesting.step point = some next) (outer : List Char) :
    { nesting with pending := nesting.pending ++ outer }.step point =
      some { next with pending := next.pending ++ outer } := by
  cases point with
  | surrogate index =>
    cases h
    rfl
  | char c =>
    unfold step at h ⊢
    cases hopen : closingOf? c with
    | some closing =>
      simp only [hopen, Option.some.injEq] at h ⊢
      subst h
      rfl
    | none =>
      simp only [hopen] at h ⊢
      split_ifs at h ⊢
      · cases h
        rfl
      · cases hpending : nesting.pending with
        | nil => simp [hpending] at h
        | cons expected rest =>
          simp only [hpending, List.cons_append] at h ⊢
          split_ifs at h ⊢
          cases h
          rfl
      · cases h
        rfl

namespace Turns

variable {text front back : RawText} {before between after : List Char}

/-- The brackets that are open further out stay as they are. -/
theorem within (h : Turns text before after) (outer : List Char) :
    Turns text (before ++ outer) (after ++ outer) := by
  have hread : ∀ (text : RawText) (nesting next : Nesting), nesting.read text = some next →
      Nesting.read { nesting with pending := nesting.pending ++ outer } text =
        some { next with pending := next.pending ++ outer } := by
    intro text
    induction text with
    | nil =>
      intro nesting next hnext
      cases hnext
      rfl
    | cons point text ih =>
      intro nesting next hnext
      obtain ⟨middle, hstep, hrest⟩ := Option.bind_eq_some_iff.1 hnext
      rw [Nesting.read, List.foldlM_cons, Nesting.step_append hstep]
      exact ih middle next hrest
  exact hread _ _ _ h

theorem append (hfront : Turns front before between) (hback : Turns back between after) :
    Turns (front ++ back) before after := by
  rw [Turns, Nesting.read_append, hfront]
  exact hback

theorem ofString_append {front back : String} (hfront : Turns front before between)
    (hback : Turns back between after) : Turns (RawText.ofString (front ++ back)) before after := by
  rw [RawText.ofString_append]
  exact hfront.append hback

end Turns

/-! ## Texts with all brackets closed -/

namespace Bracketed

variable {text : RawText}

theorem empty : Bracketed [] :=
  rfl

/-- A text without any mark. -/
theorem of_plain {cs : List Char} (h : ∀ c ∈ cs, c ∉ marks) :
    Bracketed (RawText.ofChars cs) := by
  induction cs with
  | nil => rfl
  | cons c cs ih =>
    rw [List.forall_mem_cons] at h
    rw [RawText.ofChars_cons, Bracketed, Turns, Nesting.read, List.foldlM_cons,
      Nesting.step_of_not_mem_marks h.1 []]
    exact ih h.2

/-- A text between brackets leaves those in front of it open. -/
theorem turns (h : Bracketed text) (pending : List Char) : Turns text pending pending :=
  Turns.within h pending

/-- What stands between the words that open and close brackets. -/
theorem enclosed {front back : RawText} {before between after : List Char} (h : Bracketed text)
    (hfront : Turns front before between) (hback : Turns back between after) :
    Turns (front ++ text ++ back) before after :=
  (hfront.append (h.turns between)).append hback

theorem ofString_enclosed {front text back : String} {before between after : List Char}
    (h : Bracketed text) (hfront : Turns front before between) (hback : Turns back between after) :
    Turns (RawText.ofString (front ++ text ++ back)) before after :=
  (hfront.ofString_append (h.turns between)).ofString_append hback

theorem flatMap {α : Type} {text : α → RawText} {xs : List α} (h : ∀ x ∈ xs, Bracketed (text x)) :
    Bracketed (xs.flatMap text) := by
  induction xs with
  | nil => exact empty
  | cons x xs ih =>
    rw [List.forall_mem_cons] at h
    rw [List.flatMap_cons]
    exact Turns.append h.1 (ih h.2)

end Bracketed

end ResolverTypings.Text
