import ResolverTypings.Proofs.Federation.FieldSetGrammar
import ResolverTypings.Proofs.Graphql.Names

/-!
# Texts of field sets

A field set is read with braces around it, as the first definition of a document. On a text
that closes no brace that it has not opened, this accepts just the texts of field sets that do
not end in a comment: a comment at the end takes the closing brace with it. A text that does
close the brace in front of it is accepted for what stands before that, whatever follows.
-/
namespace ResolverTypings.Federation

open Graphql
open Text (RawText)

/-! ## Field sets in braces -/

/-- The characters that are put behind the text of a field set. -/
def closing : List Char := [' ', '\x7d']

theorem tokens_document (text : String) :
    (lexemes (FieldSet.document text)).map (·.token) =
      .punctuator .braceLeft :: tokensOf (text.toList ++ closing) := by
  have hdocument : (lexemes (FieldSet.document text)).map (·.token) =
      tokensOf ('\x7b' :: ' ' :: (text.toList ++ closing)) := by
    simp [tokensOf, FieldSet.document, RawText.ofString, closing]
  have hbrace : ∀ text, scanToken '\x7b' text = .ok (.punctuator .braceLeft, 1) := fun _ => rfl
  rw [hdocument, tokensOf_cons, if_neg (by decide), if_neg (by decide), hbrace]
  simp only [Nat.sub_self, List.drop_zero]
  rw [tokensOf_cons, if_pos (by decide)]

theorem parse_eq_ok_iff_exists {directive text : String} {set : FieldSet} :
    FieldSet.parse directive text = .ok set ↔ ∃ found,
      Graphql.parseDocument (FieldSet.document text) = .ok found ∧
        FieldSet.ofSelections (FieldSet.firstSelections found) = .ok set := by
  unfold FieldSet.parse
  cases Graphql.parseDocument (FieldSet.document text) with
  | error error => simp [throw_eq_error]
  | ok found =>
    cases hset : FieldSet.ofSelections (FieldSet.firstSelections found) <;>
      simp [hset, Except.mapError]

/-- A document that starts with an opening brace is read as a selection set first. -/
theorem run_definitions_brace (tokens : List Token) :
    definitions.run (.punctuator .braceLeft :: tokens) = (selectionSet >>= fun selections => do
      return .operation selections :: (← anyUntil .endOfInput definition)).run
        (.punctuator .braceLeft :: tokens) := by
  have hmany : definitions.run (.punctuator .braceLeft :: tokens) =
      ((selectionSet >>= fun selections => pure (.operation selections)) >>= fun first => do
        return first :: (← anyUntil .endOfInput definition)).run
          (.punctuator .braceLeft :: tokens) := rfl
  rw [hmany, bind_assoc]
  simp only [pure_bind]

/-- What is accepted starts with a field set and the brace that closes it. -/
theorem exists_isFields_of_parse {directive text : String} {set : FieldSet}
    (h : FieldSet.parse directive text = .ok set) : set ≠ .empty ∧ ∃ inner left,
      tokensOf (text.toList ++ closing) = inner ++ .punctuator .braceRight :: left ∧
        IsFields (maxDepth - 1) inner set := by
  obtain ⟨found, hparse, hset⟩ := parse_eq_ok_iff_exists.1 h
  obtain ⟨rest, hrun⟩ := parseDocument_eq_ok_iff.1 hparse
  rw [tokens_document] at hrun
  have hended := (ended_tokensOf (text.toList ++ closing))
  generalize tokensOf (text.toList ++ closing) = tokens at hrun hended ⊢
  rw [run_definitions_brace] at hrun
  obtain ⟨⟨selections, left⟩, hselections, hrest⟩ := bind_eq_ok_iff.1 hrun
  obtain ⟨⟨more, _⟩, -, hfound⟩ := bind_eq_ok_iff.1 hrest
  cases hfound
  obtain ⟨front, hfront, hsplit, -⟩ :=
    sound_selectionSetAt maxDepth _ (.cons rfl hended) _ _ hselections
  obtain ⟨hne, below, inner, hroom, hinner, rfl⟩ := hfront set hset
  obtain rfl : below = maxDepth - 1 := by omega
  refine ⟨hne, inner, left, ?_, hinner⟩
  simpa using (List.cons.inj hsplit).2

/-- A field set in braces is accepted for what it is. -/
theorem parse_of_isFields {directive text : String} {set : FieldSet} {inner : List Token}
    (hne : set ≠ .empty) (hinner : IsFields (maxDepth - 1) inner set)
    (htokens : tokensOf (text.toList ++ closing) =
      inner ++ [.punctuator .braceRight, .endOfInput]) :
    FieldSet.parse directive text = .ok set := by
  refine parse_eq_ok_iff_exists.2 ⟨[.operation set.selections], ?_, ofSelections_selections set⟩
  refine parseDocument_eq_ok_iff.2 ⟨[.endOfInput], ?_⟩
  rw [tokens_document, htokens]
  have hvalid : Token.endOfInput.Valid := fun fault => by simp
  have hselections : selectionSet.run
      (.punctuator .braceLeft :: (inner ++ [.punctuator .braceRight, .endOfInput])) =
        .ok (set.selections, [.endOfInput]) :=
    (hinner.reads hvalid []).whole hne
  rw [run_definitions_brace]
  exact (run_bind_of_ok hselections).trans rfl

/-! ## Field sets by themselves -/

/-- A text that lists the fields of a set, which is not empty. -/
def IsFieldSetText (text : String) (set : FieldSet) : Prop :=
  set ≠ .empty ∧ ∃ tokens, tokensOf text.toList = tokens ++ [.endOfInput] ∧
    IsFields (maxDepth - 1) tokens set

/-- Whether a text closes no brace that it has not opened. -/
def staysInBraces (text : String) : Bool :=
  (openBraces 0 (tokensOf text.toList)).isSome

/-- A word that shows in the shapes of a text's tokens is there, up to shape. -/
theorem exists_tokensOf_of_shapesOf {cs : List Char} {front back : List Token}
    (h : shapesOf cs = front ++ back) (hback : ByShape {back}) (hplain : back.map Token.shape = back) :
    ∃ tokens, tokensOf cs = tokens ++ back ∧ tokens.map Token.shape = front := by
  obtain ⟨tokens, more, htokens, hfront, hmore⟩ := List.map_eq_append_iff.1 h
  obtain rfl : more = back := hback back rfl more (hmore.trans hplain.symm)
  exact ⟨tokens, htokens, hfront⟩

theorem byShape_closing : ByShape {[.punctuator .braceRight, .endOfInput]} := by
  rintro _ rfl other h
  obtain ⟨brace, rest, rfl, hbrace, hrest⟩ := List.map_eq_cons_iff.1 h
  obtain ⟨last, rfl, hlast⟩ := List.map_eq_singleton_iff.1 hrest
  rw [eq_of_shape_punctuator hbrace, eq_of_shape_endOfInput hlast]
  rfl

theorem openBraces_eq_none {front tokens : List Token} (hfront : front ∈ balanced)
    (h : front ++ [.punctuator .braceRight] <+: tokens) : openBraces 0 tokens = none := by
  obtain ⟨rest, rfl⟩ := h
  rw [openBraces_append, openBraces_append, hfront]
  rfl

/-- The text of a field set opens the braces that it closes. -/
theorem staysInBraces_of_isFieldSetText {text : String} {set : FieldSet}
    (h : IsFieldSetText text set) : staysInBraces text := by
  obtain ⟨-, tokens, htokens, hfields⟩ := h
  rw [staysInBraces, htokens, openBraces_append, hfields.mem_balanced]
  rfl

/-- The texts that are accepted, among those that stay in the braces around them. -/
theorem parse_eq_ok_iff_isFieldSetText {directive text : String} {set : FieldSet}
    (hbraces : staysInBraces text) :
    FieldSet.parse directive text = .ok set ↔
      IsFieldSetText text set ∧ endsInComment text.toList = false := by
  obtain ⟨body, last, hshapes, hstops, -, hclosing⟩ := exists_shapesOf_brace text.toList
  constructor
  · intro h
    obtain ⟨hne, inner, left, htokens, hinner⟩ := exists_isFields_of_parse h
    have hbalanced : inner.map Token.shape ∈ balanced := by
      intro depth
      rw [openBraces_shape, hinner.mem_balanced]
    have hfronts : inner.map Token.shape ++ [.punctuator .braceRight] <+:
        shapesOf (text.toList ++ closing) := by
      rw [shapesOf, htokens, List.map_append, List.map_cons]
      exact ⟨left.map Token.shape, by simp [Token.shape]⟩
    have hbody : ¬ inner.map Token.shape ++ [.punctuator .braceRight] <+: body := by
      intro hbody
      rw [staysInBraces, ← openBraces_shape, ← shapesOf, hshapes, openBraces_append,
        openBraces_eq_none hbalanced hbody] at hbraces
      cases hbraces
    rw [closing, hclosing] at hfronts
    split at hfronts
    · next hends =>
      obtain ⟨rfl, hcomment⟩ := hends
      have hinner' : inner.map Token.shape = body := by
        have hsplit : body ++ [.punctuator .braceRight, .endOfInput] =
            body ++ [.punctuator .braceRight] ++ [.endOfInput] := by simp
        rw [hsplit, List.prefix_concat_iff, List.prefix_concat_iff] at hfronts
        rcases hfronts with h | h | h
        · simpa using (List.append_inj' h rfl).2
        · exact (List.append_inj' h rfl).1
        · exact absurd h hbody
      obtain ⟨tokens, htokens, hshape⟩ := exists_tokensOf_of_shapesOf hshapes
        (byShape_singleton fun _ => eq_of_shape_endOfInput) rfl
      exact ⟨⟨hne, tokens, htokens, hinner.of_shape (hshape.trans hinner'.symm)⟩, hcomment⟩
    · rcases List.prefix_concat_iff.1 hfronts with h | h
      · rw [← List.singleton_inj.1 (List.append_inj' h rfl).2] at hstops
        cases hstops
      · exact absurd h hbody
  · rintro ⟨⟨hne, tokens, htokens, hfields⟩, hcomment⟩
    rw [shapesOf, htokens, List.map_append] at hshapes
    obtain ⟨hbody, hlast⟩ := List.append_inj' hshapes rfl
    obtain rfl : .endOfInput = last := List.singleton_inj.1 hlast
    rw [if_pos ⟨rfl, hcomment⟩] at hclosing
    obtain ⟨inner, hinner, hshape⟩ := exists_tokensOf_of_shapesOf hclosing byShape_closing rfl
    exact parse_of_isFields hne (hfields.of_shape (hshape.trans hbody.symm)) hinner

/-- A field with arguments and a field below it, and a field behind a comment. -/
def plainText : String :=
  "owner(first: 1) \x7b id \x7d # name\nsize"

/-- The field set of that text. -/
def plainSet : FieldSet :=
  .field "owner" (.field "id" .empty .empty) (.field "size" .empty .empty)

/-- What the text holds is what is read from it. -/
theorem parse_eq_ok_iff_isFieldSetText_plainText :
    staysInBraces plainText ∧ FieldSet.parse "key" plainText = .ok plainSet ∧
      IsFieldSetText plainText plainSet ∧ endsInComment plainText.toList = false := by
  have hbraces : staysInBraces plainText := by decide +kernel
  have hparse : FieldSet.parse "key" plainText = .ok plainSet := by decide +kernel
  exact ⟨hbraces, hparse, (parse_eq_ok_iff_isFieldSetText hbraces).1 hparse⟩

theorem isFields_name (room : Nat) (name : String) :
    IsFields room [.name name] (.field name .empty .empty) := by
  have hhead : [.name name] ∈ fieldHeads room name :=
    ⟨[.name name], ⟨[], .inl rfl, _, rfl, rfl⟩, [],
      ⟨[], .inl rfl, [], Language.nil_mem_kstar _, rfl⟩, rfl⟩
  exact .leaf hhead (.none room)

/-- A text that closes the brace in front of it is accepted although it is no field set, and
a field set with a comment behind it is not. -/
theorem parse_closedEarly_and_commented :
    FieldSet.parse "key" "id \x7d \x7b name" = .ok (.field "id" .empty .empty) ∧
      (∀ set, ¬ IsFieldSetText "id \x7d \x7b name" set) ∧
      IsFieldSetText "id # c" (.field "id" .empty .empty) ∧
      ∀ set, FieldSet.parse "key" "id # c" ≠ .ok set := by
  refine ⟨by decide +kernel, fun set h => ?_, ⟨by simp, [.name "id"], by decide +kernel,
    isFields_name _ _⟩, fun set h => ?_⟩
  · have hbraces : staysInBraces "id \x7d \x7b name" = false := by decide +kernel
    rw [staysInBraces_of_isFieldSetText h] at hbraces
    cases hbraces
  · have hfault : (FieldSet.parse "key" "id # c").toOption = none := by decide +kernel
    rw [h] at hfault
    cases hfault

end ResolverTypings.Federation
