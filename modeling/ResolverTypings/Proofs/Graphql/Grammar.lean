import Mathlib.Computability.Language
import Mathlib.Order.CompletePartialOrder
import ResolverTypings.Proofs.Graphql.Lexing

/-!
# The grammar of values, arguments and directives

What may stand behind a field that is selected, as languages of tokens. Which words belong to
them shows in the shapes of the tokens, and each brace that a word opens it closes again.
-/
namespace ResolverTypings.Graphql

open Computability

/-! ## Languages -/

/-- A punctuation mark. -/
def marks (mark : Punctuator) : Language Token :=
  {[.punctuator mark]}

/-- A name. -/
def names : Language Token :=
  {tokens | ∃ text, tokens = [.name text]}

/-- A token that is a value by itself. -/
def Token.isFlat : Token → Bool
  | .name _ | .int _ | .float _ | .string _ | .blockString _ => true
  | .punctuator _ | .endOfInput | .invalid _ => false

/-- A value of one token. -/
def flatTokens : Language Token :=
  {tokens | ∃ token, Token.isFlat token ∧ tokens = [token]}

/-- The values that hold no others. -/
def flatValues : Language Token :=
  flatTokens + marks .dollar * names

/-- The values in which lists and objects stand in one another to no more than a depth. -/
def values : (room : Nat) → Language Token
  | 0 => flatValues
  | room + 1 => flatValues + marks .bracketLeft * (values room)∗ * marks .bracketRight +
    marks .braceLeft * (names * marks .colon * values room)∗ * marks .braceRight

/-- A name with a value. -/
def argumentsOf (room : Nat) : Language Token :=
  names * marks .colon * values room

/-- Arguments in parentheses, or none. -/
def argumentLists (room : Nat) : Language Token :=
  1 + marks .parenLeft * (argumentsOf room * (argumentsOf room)∗) * marks .parenRight

/-- Any number of directives. -/
def directiveLists (room : Nat) : Language Token :=
  (marks .atSign * names * argumentLists room)∗

theorem append_mem_kstar {α : Type} {L : Language α} {front rest : List α} (hfront : front ∈ L)
    (hrest : rest ∈ L∗) : front ++ rest ∈ L∗ := by
  have hle : L * L∗ ≤ L∗ := mul_kstar_le_kstar
  exact hle (Language.append_mem_mul hfront hrest)

/-! ## Shapes of words -/

/-- A language that tells no tokens of one shape from one another. -/
def ByShape (L : Language Token) : Prop :=
  ∀ front ∈ L, ∀ other : List Token, other.map Token.shape = front.map Token.shape → other ∈ L

section ByShape

variable {L M : Language Token}

theorem byShape_one : ByShape 1 := by
  rintro _ rfl other h
  exact List.map_eq_nil_iff.1 h

theorem byShape_singleton {token : Token} (h : ∀ other : Token, other.shape = token.shape →
    other = token) : ByShape {[token]} := by
  rintro _ rfl other hother
  obtain ⟨found, rfl, hfound⟩ := List.map_eq_singleton_iff.1 hother
  rw [h found hfound]
  rfl

theorem eq_of_shape_punctuator {mark : Punctuator} {token : Token}
    (h : token.shape = .punctuator mark) : token = .punctuator mark := by
  cases token <;> simp_all [Token.shape]

theorem eq_of_shape_name {text : String} {token : Token} (h : token.shape = .name text) :
    token = .name text := by
  cases token <;> simp_all [Token.shape]

theorem eq_of_shape_endOfInput {token : Token} (h : token.shape = .endOfInput) :
    token = .endOfInput := by
  cases token <;> simp_all [Token.shape]

theorem byShape_marks (mark : Punctuator) : ByShape (marks mark) :=
  byShape_singleton fun _ => eq_of_shape_punctuator

theorem byShape_name (text : String) : ByShape {[.name text]} :=
  byShape_singleton fun _ => eq_of_shape_name

theorem byShape_names : ByShape names := by
  rintro _ ⟨text, rfl⟩ other h
  exact ⟨text, byShape_name text _ rfl other h⟩

theorem byShape_flatTokens : ByShape flatTokens := by
  rintro _ ⟨token, htoken, rfl⟩ other h
  obtain ⟨found, rfl, hfound⟩ := List.map_eq_singleton_iff.1 h
  have hflat : ∀ t : Token, t.shape.isFlat = t.isFlat := by
    intro t
    cases t <;> rfl
  exact ⟨found, by rw [← hflat, hfound, hflat, htoken], rfl⟩

theorem ByShape.add (h : ByShape L) (h' : ByShape M) : ByShape (L + M) := by
  rintro front (hfront | hfront) other hother
  · exact .inl (h front hfront other hother)
  · exact .inr (h' front hfront other hother)

theorem ByShape.mul (h : ByShape L) (h' : ByShape M) : ByShape (L * M) := by
  rintro _ ⟨front, hfront, back, hback, rfl⟩ other hother
  obtain ⟨front', back', rfl, hfront', hback'⟩ :=
    List.map_eq_append_iff.1 (hother.trans List.map_append)
  exact Language.append_mem_mul (h front hfront front' hfront') (h' back hback back' hback')

theorem ByShape.kstar (h : ByShape L) : ByShape L∗ := by
  rintro _ ⟨fronts, rfl, hfronts⟩ other hother
  induction fronts generalizing other with
  | nil =>
    rw [List.flatten_nil, List.map_nil, List.map_eq_nil_iff] at hother
    subst hother
    exact Language.nil_mem_kstar L
  | cons front fronts ih =>
    obtain ⟨first, rest, rfl, hfirst, hrest⟩ :=
      List.map_eq_append_iff.1 (hother.trans List.map_append)
    exact append_mem_kstar (h front (hfronts front (by simp)) first hfirst)
      (ih (fun front hfront => hfronts front (by simp [hfront])) rest hrest)

theorem byShape_values (room : Nat) : ByShape (values room) := by
  have hflat : ByShape flatValues := ByShape.add byShape_flatTokens ((byShape_marks _).mul byShape_names)
  induction room with
  | zero => exact hflat
  | succ room ih =>
    have hmember := (ByShape.mul byShape_names (byShape_marks .colon)).mul ih
    exact (hflat.add (((byShape_marks _).mul ih.kstar).mul (byShape_marks _))).add
      (((byShape_marks _).mul hmember.kstar).mul (byShape_marks _))

theorem byShape_argumentLists (room : Nat) : ByShape (argumentLists room) := by
  have hargument : ByShape (argumentsOf room) :=
    (ByShape.mul byShape_names (byShape_marks .colon)).mul (byShape_values room)
  exact ByShape.add byShape_one
    (((byShape_marks _).mul (hargument.mul hargument.kstar)).mul (byShape_marks _))

theorem byShape_directiveLists (room : Nat) : ByShape (directiveLists room) :=
  (((byShape_marks .atSign).mul byShape_names).mul (byShape_argumentLists room)).kstar

end ByShape

/-! ## Braces -/

/-- How many braces are open behind a token, given how many are in front of it; nothing if
it closes one that has not been opened. -/
def braceStep (depth : Nat) : Token → Option Nat
  | .punctuator .braceLeft => some (depth + 1)
  | .punctuator .braceRight => if depth = 0 then none else some (depth - 1)
  | _ => some depth

/-- How many braces are open behind some tokens. -/
def openBraces (depth : Nat) (tokens : List Token) : Option Nat :=
  tokens.foldlM braceStep depth

theorem openBraces_append (depth : Nat) (front back : List Token) :
    openBraces depth (front ++ back) =
      (openBraces depth front).bind fun depth => openBraces depth back :=
  List.foldlM_append

theorem openBraces_shape (depth : Nat) (tokens : List Token) :
    openBraces depth (tokens.map Token.shape) = openBraces depth tokens := by
  have hstep : ∀ depth (token : Token), braceStep depth token.shape = braceStep depth token := by
    intro depth token
    cases token <;> rfl
  rw [openBraces, List.foldlM_map]
  simp only [hstep]
  rfl

/-- Words that close each brace that they open, and no other. -/
def balanced : Language Token :=
  {tokens | ∀ depth, openBraces depth tokens = some depth}

section Balanced

variable {L M : Language Token}

theorem nil_mem_balanced : [] ∈ balanced :=
  fun _ => rfl

theorem append_mem_balanced {front back : List Token} (hfront : front ∈ balanced)
    (hback : back ∈ balanced) : front ++ back ∈ balanced := by
  intro depth
  rw [openBraces_append, hfront, Option.bind_some, hback]

/-- Braces may be put around words that have none open. -/
theorem braces_mem_balanced {tokens : List Token} (h : tokens ∈ balanced) :
    .punctuator .braceLeft :: (tokens ++ [.punctuator .braceRight]) ∈ balanced := by
  intro depth
  have hopen : openBraces depth (.punctuator .braceLeft :: (tokens ++ [.punctuator .braceRight])) =
      openBraces (depth + 1) (tokens ++ [.punctuator .braceRight]) := rfl
  rw [hopen, openBraces_append, h]
  rfl

theorem one_le_balanced : 1 ≤ balanced := by
  rintro _ rfl
  exact nil_mem_balanced

theorem mul_le_balanced (hL : L ≤ balanced) (hM : M ≤ balanced) : L * M ≤ balanced := by
  rintro _ ⟨front, hfront, back, hback, rfl⟩
  exact append_mem_balanced (hL hfront) (hM hback)

theorem kstar_le_balanced (hL : L ≤ balanced) : L∗ ≤ balanced := by
  rintro _ ⟨fronts, rfl, hfronts⟩
  induction fronts with
  | nil => exact nil_mem_balanced
  | cons front fronts ih =>
    exact append_mem_balanced (hL (hfronts front (by simp)))
      (ih fun front hfront => hfronts front (by simp [hfront]))

theorem singleton_le_balanced {token : Token} (h : ∀ depth, braceStep depth token = some depth) :
    {[token]} ≤ balanced := by
  rintro _ rfl depth
  rw [openBraces, List.foldlM_cons, h]
  rfl

theorem braces_le_balanced (hL : L ≤ balanced) :
    marks .braceLeft * L * marks .braceRight ≤ balanced := by
  rintro _ ⟨_, ⟨_, rfl, front, hfront, rfl⟩, _, rfl, rfl⟩
  exact braces_mem_balanced (hL hfront)

theorem names_le_balanced : names ≤ balanced := by
  rintro _ ⟨text, rfl⟩ depth
  rfl

theorem flatTokens_le_balanced : flatTokens ≤ balanced := by
  rintro _ ⟨token, htoken, rfl⟩
  refine singleton_le_balanced (fun depth => ?_) rfl
  cases token <;> first | rfl | cases htoken

theorem values_le_balanced (room : Nat) : values room ≤ balanced := by
  have hflat : flatValues ≤ balanced :=
    sup_le flatTokens_le_balanced
      (mul_le_balanced (singleton_le_balanced fun _ => rfl) names_le_balanced)
  induction room with
  | zero => exact hflat
  | succ room ih =>
    refine sup_le (sup_le hflat ?_) (braces_le_balanced (kstar_le_balanced ?_))
    · exact mul_le_balanced (mul_le_balanced (singleton_le_balanced fun _ => rfl)
        (kstar_le_balanced ih)) (singleton_le_balanced fun _ => rfl)
    · exact mul_le_balanced (mul_le_balanced names_le_balanced
        (singleton_le_balanced fun _ => rfl)) ih

theorem argumentLists_le_balanced (room : Nat) : argumentLists room ≤ balanced := by
  have hargument : argumentsOf room ≤ balanced :=
    mul_le_balanced (mul_le_balanced names_le_balanced (singleton_le_balanced fun _ => rfl))
      (values_le_balanced room)
  exact sup_le one_le_balanced (mul_le_balanced (mul_le_balanced
    (singleton_le_balanced fun _ => rfl) (mul_le_balanced hargument (kstar_le_balanced hargument)))
    (singleton_le_balanced fun _ => rfl))

theorem directiveLists_le_balanced (room : Nat) : directiveLists room ≤ balanced :=
  kstar_le_balanced (mul_le_balanced (mul_le_balanced (singleton_le_balanced fun _ => rfl)
    names_le_balanced) (argumentLists_le_balanced room))

end Balanced

/-- The first brace that closes none of the words in front of it is found in one way. -/
theorem eq_of_isPrefix_of_balanced {front front' tokens : List Token} (hfront : front ∈ balanced)
    (hfront' : front' ∈ balanced) (h : front ++ [.punctuator .braceRight] <+: tokens)
    (h' : front' ++ [.punctuator .braceRight] <+: tokens) : front = front' := by
  have hclosed : ∀ {front}, front ∈ balanced →
      openBraces 0 (front ++ [.punctuator .braceRight]) = none := by
    intro front hfront
    rw [openBraces_append, hfront]
    rfl
  -- A longer word would hold the brace of the shorter one and could not be balanced.
  have hlonger : ∀ {front front' : List Token}, front ∈ balanced → front' ∈ balanced →
      front ++ [.punctuator .braceRight] <+: front' ++ [.punctuator .braceRight] →
      front = front' := by
    intro front front' hfront hfront' h
    rcases List.prefix_concat_iff.1 h with heq | ⟨rest, rfl⟩
    · exact List.append_cancel_right heq
    · have hopen := hfront' 0
      rw [openBraces_append, hclosed hfront] at hopen
      cases hopen
  rcases List.prefix_or_prefix_of_prefix h h' with hfronts | hfronts
  · exact hlonger hfront hfront' hfronts
  · exact (hlonger hfront' hfront hfronts).symm

end ResolverTypings.Graphql
