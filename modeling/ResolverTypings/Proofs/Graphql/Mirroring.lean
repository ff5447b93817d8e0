import ResolverTypings.Graphql.Document
import ResolverTypings.Proofs.Graphql.Grammar

/-!
# Parsers and the shapes of tokens

Whether a document is accepted shows in the shapes of its tokens: what a string holds makes no
difference to the grammar. The parsers are followed one by one with two lists of tokens of the
same shapes side by side.
-/
namespace ResolverTypings.Graphql

open Text (RawText)

/-! ## Parsers side by side -/

/-- Tokens of the same shapes. -/
def SameShapes (tokens tokens' : List Token) : Prop :=
  tokens.map Token.shape = tokens'.map Token.shape

theorem SameShapes.length_eq {tokens tokens' : List Token} (h : SameShapes tokens tokens') :
    tokens.length = tokens'.length := by
  simpa using congrArg List.length h

/-- Tokens of one shape are the same unless they hold strings or faults. -/
theorem cases_of_shape {token token' : Token} (h : token.shape = token'.shape) :
    token = token' ∨ (∃ s s', token = .string s ∧ token' = .string s') ∨
      (∃ s s', token = .blockString s ∧ token' = .blockString s') ∨
      ∃ fault fault', token = .invalid fault ∧ token' = .invalid fault' := by
  cases token <;> cases token' <;> simp_all [Token.shape]

/-- Two outcomes of which both are failures, or both are results that are related and leave
tokens of the same shapes. -/
inductive Mirrored {α : Type} (R : α → α → Prop) :
    Except Failure (α × List Token) → Except Failure (α × List Token) → Prop where
  | fail (failure failure' : Failure) : Mirrored R (.error failure) (.error failure')
  | give {a a' : α} {rest rest' : List Token} : R a a' → SameShapes rest rest' →
      Mirrored R (.ok (a, rest)) (.ok (a', rest'))

/-- Two parsers that go the same way on tokens of the same shapes. -/
def Mirrors {α : Type} (R : α → α → Prop) (parser parser' : Parser α) : Prop :=
  ∀ tokens tokens', SameShapes tokens tokens' → Mirrored R (parser.run tokens) (parser'.run tokens')

/-- A parser that goes the same way on tokens of the same shapes, whatever its results. -/
abbrev Steady {α : Type} (parser : Parser α) : Prop :=
  Mirrors (fun _ _ => True) parser parser

section Mirrors

variable {α β : Type} {R : α → α → Prop} {S : β → β → Prop} {parser parser' : Parser α}

theorem Mirrors.bind {next next' : α → Parser β} (h : Mirrors R parser parser')
    (hnext : ∀ a a', R a a' → Mirrors S (next a) (next' a')) :
    Mirrors S (parser >>= next) (parser' >>= next') := by
  intro tokens tokens' htokens
  have hfirst := h tokens tokens' htokens
  rw [StateT.run_bind, StateT.run_bind]
  generalize parser.run tokens = result, parser'.run tokens' = result' at hfirst ⊢
  cases hfirst with
  | fail failure failure' => exact .fail failure failure'
  | give ha hrest => exact hnext _ _ ha _ _ hrest

theorem Mirrors.mono {R' : α → α → Prop} (h : Mirrors R parser parser')
    (hR : ∀ a a', R a a' → R' a a') : Mirrors R' parser parser' := by
  intro tokens tokens' htokens
  have hrun := h tokens tokens' htokens
  generalize parser.run tokens = result, parser'.run tokens' = result' at hrun ⊢
  cases hrun with
  | fail failure failure' => exact .fail failure failure'
  | give ha hrest => exact .give (hR _ _ ha) hrest

theorem Mirrors.steady (h : Mirrors R parser parser) : Steady parser :=
  h.mono fun _ _ _ => trivial

theorem mirrors_pure {a a' : α} (h : R a a') : Mirrors R (pure a) (pure a') :=
  fun _ _ htokens => .give h htokens

theorem mirrors_throw (failure failure' : Failure) :
    Mirrors R (throw failure : Parser α) (throw failure') :=
  fun _ _ _ => .fail failure failure'

theorem mirrors_get : Mirrors SameShapes get get :=
  fun _ _ htokens => .give htokens htokens

theorem mirrors_moveTo {rest rest' : List Token} (h : SameShapes rest rest') :
    Mirrors (fun _ _ => True) (moveTo rest) (moveTo rest') := by
  intro tokens tokens' _
  rcases rest with _ | ⟨token, rest⟩
  · obtain rfl : rest' = [] := List.map_eq_nil_iff.1 h.symm
    exact .give trivial h
  · obtain ⟨token', rest', rfl, htoken, hrest⟩ := List.map_eq_cons_iff.1 h.symm
    obtain rfl | ⟨s, s', rfl, rfl⟩ | ⟨s, s', rfl, rfl⟩ | ⟨fault, fault', rfl, rfl⟩ :=
      cases_of_shape htoken.symm
    · cases token <;> first | exact .give trivial h | exact .fail _ _
    · exact .give trivial h
    · exact .give trivial h
    · exact .fail _ _

end Mirrors

/-! ## Single tokens -/

section Tokens

variable {α : Type} {R : α → α → Prop}

theorem mirrors_current : Mirrors (fun token token' => token.shape = token'.shape) current current := by
  refine Mirrors.bind mirrors_get fun tokens tokens' htokens => mirrors_pure ?_
  rcases tokens with _ | ⟨token, tokens⟩
  · obtain rfl : tokens' = [] := List.map_eq_nil_iff.1 htokens.symm
    rfl
  · obtain ⟨token', tokens', rfl, htoken, -⟩ := List.map_eq_cons_iff.1 htokens.symm
    exact htoken.symm

theorem mirrors_failHere (fault fault' : SyntaxFault) :
    Mirrors R (failHere fault) (failHere fault') :=
  Mirrors.bind mirrors_get fun _ _ _ => mirrors_throw _ _

theorem mirrors_unexpectedHere : Mirrors R unexpectedHere unexpectedHere :=
  Mirrors.bind mirrors_current fun _ _ _ => mirrors_failHere _ _

theorem steady_advance : Steady advance := by
  refine Mirrors.bind mirrors_get fun tokens tokens' htokens => ?_
  rcases tokens with _ | ⟨token, _ | ⟨next, rest⟩⟩
  · obtain rfl : tokens' = [] := List.map_eq_nil_iff.1 htokens.symm
    exact mirrors_pure trivial
  · obtain ⟨token', rfl, -⟩ := List.map_eq_singleton_iff.1 htokens.symm
    exact mirrors_pure trivial
  · obtain ⟨token', rest', rfl, -, hrest⟩ := List.map_eq_cons_iff.1 htokens.symm
    obtain ⟨next', rest', rfl, -, -⟩ := List.map_eq_cons_iff.1 hrest
    exact mirrors_moveTo hrest.symm

theorem mirrors_peekNext :
    Mirrors (fun token token' => token.shape = token'.shape) peekNext peekNext := by
  refine Mirrors.bind mirrors_get fun tokens tokens' htokens => ?_
  rcases tokens with _ | ⟨token, _ | ⟨next, rest⟩⟩
  · obtain rfl : tokens' = [] := List.map_eq_nil_iff.1 htokens.symm
    exact mirrors_pure rfl
  · obtain ⟨token', rfl, -⟩ := List.map_eq_singleton_iff.1 htokens.symm
    exact mirrors_pure rfl
  · obtain ⟨token', rest', rfl, -, hrest⟩ := List.map_eq_cons_iff.1 htokens.symm
    obtain ⟨next', rest', rfl, hnext, -⟩ := List.map_eq_cons_iff.1 hrest
    obtain rfl | ⟨s, s', rfl, rfl⟩ | ⟨s, s', rfl, rfl⟩ | ⟨fault, fault', rfl, rfl⟩ :=
      cases_of_shape hnext
    · cases next' <;> first | exact mirrors_pure rfl | exact mirrors_throw _ _
    · exact mirrors_pure rfl
    · exact mirrors_pure rfl
    · exact mirrors_throw _ _

/-- A token that its shape tells from all others. -/
def Token.IsPlain (token : Token) : Prop :=
  ∀ other : Token, other.shape = token.shape → other = token

theorem isPlain_punctuator (mark : Punctuator) : (Token.punctuator mark).IsPlain :=
  fun _ => eq_of_shape_punctuator

theorem isPlain_name (text : String) : (Token.name text).IsPlain :=
  fun _ => eq_of_shape_name

theorem isPlain_endOfInput : Token.endOfInput.IsPlain :=
  fun _ => eq_of_shape_endOfInput

theorem eq_iff_of_shape {token found found' : Token} (h : token.IsPlain)
    (hfound : found.shape = found'.shape) : found = token ↔ found' = token := by
  constructor
  · rintro rfl
    exact h _ hfound.symm
  · rintro rfl
    exact h _ hfound

theorem mirrors_skip? {token : Token} (h : token.IsPlain) :
    Mirrors (· = ·) (skip? token) (skip? token) := by
  refine Mirrors.bind mirrors_current fun found found' hfound => ?_
  by_cases heq : found = token
  · rw [if_pos heq, if_pos ((eq_iff_of_shape h hfound).1 heq)]
    exact Mirrors.bind steady_advance fun _ _ _ => mirrors_pure rfl
  · rw [if_neg heq, if_neg ((eq_iff_of_shape h hfound).not.1 heq)]
    exact mirrors_pure rfl

theorem mirrors_atMark (mark : Punctuator) : Mirrors (· = ·) (atMark mark) (atMark mark) := by
  refine Mirrors.bind mirrors_current fun found found' hfound => mirrors_pure ?_
  rw [decide_eq_decide]
  exact eq_iff_of_shape (isPlain_punctuator mark) hfound

/-- Going one way or the other, as what was found says. -/
theorem Mirrors.ite {found : Parser Bool} {yes yes' no no' : Parser α}
    (h : Mirrors (· = ·) found found) (hyes : Mirrors R yes yes') (hno : Mirrors R no no') :
    Mirrors R (found >>= fun b => if b then yes else no)
      (found >>= fun b => if b then yes' else no') := by
  refine h.bind ?_
  rintro (_ | _) _ rfl
  · exact hno
  · exact hyes

theorem steady_expectMark (mark : Punctuator) : Steady (expectMark mark) :=
  (mirrors_skip? (isPlain_punctuator mark)).ite (mirrors_pure trivial)
    (Mirrors.bind mirrors_current fun _ _ _ => mirrors_failHere _ _)

theorem steady_expectKeyword (word : String) : Steady (expectKeyword word) :=
  (mirrors_skip? (isPlain_name word)).ite (mirrors_pure trivial)
    (Mirrors.bind mirrors_current fun _ _ _ => mirrors_failHere _ _)

theorem mirrors_name : Mirrors (· = ·) name name := by
  refine Mirrors.bind mirrors_current fun found found' hfound => ?_
  obtain rfl | ⟨s, s', rfl, rfl⟩ | ⟨s, s', rfl, rfl⟩ | ⟨fault, fault', rfl, rfl⟩ :=
    cases_of_shape hfound
  · cases found <;>
      first
      | exact Mirrors.bind steady_advance fun _ _ _ => mirrors_pure rfl
      | exact mirrors_failHere _ _
  all_goals exact mirrors_failHere _ _

end Tokens

theorem run_current_bind {α : Type} (next : Token → Parser α) (tokens : List Token) :
    (current >>= next).run tokens = (next (tokens.headD .endOfInput)).run tokens := rfl

theorem exists_error_name {tokens : List Token}
    (h : ∀ s, tokens.head? ≠ some (.name s)) : ∃ failure, name.run tokens = .error failure := by
  rcases tokens with _ | ⟨token, rest⟩
  · exact ⟨_, rfl⟩
  · cases token <;> first | exact ⟨_, rfl⟩ | exact absurd rfl (h _)

/-- A parser that starts with a name goes the same way if it does so on each name. -/
theorem mirrors_of_name {α : Type} {R : α → α → Prop} {parser : Parser α}
    (next : String → Parser α) (hnext : ∀ s, Mirrors R (next s) (next s))
    (hname : ∀ s rest, parser.run (.name s :: rest) = (next s).run (.name s :: rest))
    (hother : ∀ tokens : List Token, (∀ s, tokens.head? ≠ some (.name s)) →
      ∃ failure, parser.run tokens = .error failure) : Mirrors R parser parser := by
  intro tokens tokens' htokens
  by_cases h : ∃ s rest, tokens = .name s :: rest
  · obtain ⟨s, rest, rfl⟩ := h
    obtain ⟨token', rest', rfl, htoken, -⟩ := List.map_eq_cons_iff.1 htokens.symm
    obtain rfl := eq_of_shape_name htoken
    rw [hname, hname]
    exact hnext s _ _ htokens
  · have hhead : ∀ s, tokens.head? ≠ some (.name s) := by
      intro s hs
      obtain ⟨rest, rfl⟩ := List.head?_eq_some_iff.1 hs
      exact h ⟨s, rest, rfl⟩
    have hhead' : ∀ s, tokens'.head? ≠ some (.name s) := by
      intro s hs
      obtain ⟨rest', rfl⟩ := List.head?_eq_some_iff.1 hs
      obtain ⟨token, rest, rfl, htoken, -⟩ := List.map_eq_cons_iff.1 htokens
      exact h ⟨s, rest, by rw [eq_of_shape_name htoken]⟩
    obtain ⟨failure, hrun⟩ := hother tokens hhead
    obtain ⟨failure', hrun'⟩ := hother tokens' hhead'
    rw [hrun, hrun']
    exact .fail failure failure'

/-! ## Repetition -/

section Repetition

variable {α : Type} {R : α → α → Prop} {item : Parser α} (h : Mirrors R item item)

include h

theorem mirrors_cons {more : Parser (List α)} (hmore : Mirrors (List.Forall₂ R) more more) :
    Mirrors (List.Forall₂ R) (item >>= fun first => return first :: (← more))
      (item >>= fun first => return first :: (← more)) :=
  h.bind fun _ _ hfirst => hmore.bind fun _ _ hrest => mirrors_pure (.cons hfirst hrest)

theorem mirrors_itemsUntil {close : Token} (hclose : close.IsPlain) (bound : Nat) :
    Mirrors (List.Forall₂ R) (itemsUntil close item bound) (itemsUntil close item bound) := by
  induction bound with
  | zero => exact mirrors_unexpectedHere
  | succ bound ih => exact (mirrors_skip? hclose).ite (mirrors_pure .nil) (mirrors_cons h ih)

theorem mirrors_anyUntil {close : Token} (hclose : close.IsPlain) :
    Mirrors (List.Forall₂ R) (anyUntil close item) (anyUntil close item) := by
  refine Mirrors.bind mirrors_get fun tokens tokens' htokens => ?_
  rw [htokens.length_eq]
  exact mirrors_itemsUntil h hclose _

theorem mirrors_manyUntil {close : Token} (hclose : close.IsPlain) :
    Mirrors (List.Forall₂ R) (manyUntil close item) (manyUntil close item) :=
  mirrors_cons h (mirrors_anyUntil h hclose)

theorem mirrors_manyIn (opening closing : Punctuator) :
    Mirrors (List.Forall₂ R) (manyIn opening closing item) (manyIn opening closing item) :=
  (steady_expectMark opening).bind fun _ _ _ => mirrors_manyUntil h (isPlain_punctuator closing)

theorem mirrors_optionalIn (opening closing : Punctuator) :
    Mirrors (List.Forall₂ R) (optionalIn opening closing item) (optionalIn opening closing item) :=
  (mirrors_skip? (isPlain_punctuator opening)).ite
    (mirrors_manyUntil h (isPlain_punctuator closing)) (mirrors_pure .nil)

theorem mirrors_separatedItems (mark : Punctuator) (bound : Nat) :
    Mirrors (List.Forall₂ R) (separatedItems mark item bound) (separatedItems mark item bound) := by
  induction bound with
  | zero => exact mirrors_unexpectedHere
  | succ bound ih =>
    refine h.bind fun _ _ hfirst => (mirrors_skip? (isPlain_punctuator mark)).ite ?_ ?_
    · exact ih.bind fun _ _ hrest => mirrors_pure (.cons hfirst hrest)
    · exact mirrors_pure (.cons hfirst .nil)

theorem mirrors_separatedBy (mark : Punctuator) :
    Mirrors (List.Forall₂ R) (separatedBy mark item) (separatedBy mark item) := by
  refine (mirrors_skip? (isPlain_punctuator mark)).bind fun _ _ _ => ?_
  refine Mirrors.bind mirrors_get fun tokens tokens' htokens => ?_
  rw [htokens.length_eq]
  exact mirrors_separatedItems h mark _

theorem mirrors_itemsWhile (mark : Punctuator) (bound : Nat) :
    Mirrors (List.Forall₂ R) (itemsWhile mark item bound) (itemsWhile mark item bound) := by
  induction bound with
  | zero => exact mirrors_pure .nil
  | succ bound ih => exact (mirrors_atMark mark).ite (mirrors_cons h ih) (mirrors_pure .nil)

end Repetition

/-- Lists with counterparts are both empty or both not. -/
theorem isEmpty_eq_of_forall₂ {α : Type} {R : α → α → Prop} {xs ys : List α}
    (h : List.Forall₂ R xs ys) : xs.isEmpty = ys.isEmpty := by
  cases h <;> rfl

/-! ## Types, values and directives -/

theorem steady_typeRefWith {item : Parser TypeRef} (h : Steady item) :
    Steady (typeRefWith item) := by
  have hbang : ∀ base base' : TypeRef, Mirrors (fun _ _ => True)
      (do if ← skip? (.punctuator .bang) then return TypeRef.nonNull base else return base)
      (do if ← skip? (.punctuator .bang) then return TypeRef.nonNull base' else return base') :=
    fun _ _ => (mirrors_skip? (isPlain_punctuator .bang)).ite (mirrors_pure trivial)
      (mirrors_pure trivial)
  refine (mirrors_skip? (isPlain_punctuator .bracketLeft)).bind ?_
  rintro (_ | _) _ rfl
  · exact Mirrors.bind mirrors_name fun _ _ _ => hbang _ _
  · exact h.bind fun _ _ _ => (steady_expectMark .bracketRight).bind fun _ _ _ => hbang _ _

theorem steady_typeRef : Steady typeRef := by
  have hroom : ∀ room, Steady (typeRefAt room) := by
    intro room
    induction room with
    | zero => exact steady_typeRefWith (mirrors_failHere _ _)
    | succ room ih => exact steady_typeRefWith ih
  exact hroom maxDepth

theorem steady_variableIn (isConstant : Bool) : Steady (variableIn isConstant) := by
  refine Mirrors.bind mirrors_get fun _ _ _ => (steady_expectMark .dollar).bind fun _ _ _ => ?_
  cases isConstant with
  | false => exact Mirrors.bind mirrors_name fun _ _ _ => mirrors_pure trivial
  | true =>
    refine Mirrors.bind mirrors_current fun found found' hfound => ?_
    cases found <;> cases found' <;> exact mirrors_throw _ _

/-- A token is passed over, whatever is told of it. -/
theorem mirrors_advance_pure (s s' : Option RawText) : Mirrors (fun _ _ => True)
    (advance >>= fun _ => pure s) (advance >>= fun _ => pure s') :=
  Mirrors.bind steady_advance fun _ _ _ => mirrors_pure trivial

theorem steady_flatValue (isConstant : Bool) : Steady (flatValue isConstant) := by
  refine Mirrors.bind mirrors_current fun found found' hfound => ?_
  obtain rfl | ⟨s, s', rfl, rfl⟩ | ⟨s, s', rfl, rfl⟩ | ⟨fault, fault', rfl, rfl⟩ :=
    cases_of_shape hfound
  · cases found with
    | punctuator mark =>
      cases mark <;>
        first
        | exact (steady_variableIn isConstant).bind fun _ _ _ => mirrors_pure trivial
        | exact mirrors_unexpectedHere
    | endOfInput | invalid => exact mirrors_unexpectedHere
    | name | int | float | string | blockString => exact mirrors_advance_pure _ _
  · exact mirrors_advance_pure _ _
  · exact mirrors_advance_pure _ _
  · exact mirrors_unexpectedHere

theorem steady_member {value : Parser (Option RawText)} (h : Steady value) :
    Steady (member value) :=
  Mirrors.bind mirrors_name fun _ _ _ => (steady_expectMark .colon).bind fun _ _ _ =>
    h.bind fun _ _ _ => mirrors_pure trivial

theorem steady_valueAt (isConstant : Bool) (room : Nat) : Steady (valueAt isConstant room) := by
  induction room with
  | zero =>
    refine (mirrors_atMark .bracketLeft).bind ?_
    rintro isList _ rfl
    refine (mirrors_atMark .braceLeft).bind ?_
    rintro isObject _ rfl
    cases isList <;> cases isObject <;>
      first | exact steady_flatValue isConstant | exact mirrors_failHere _ _
  | succ room ih =>
    refine (mirrors_skip? (isPlain_punctuator _)).ite ?_ ?_
    · exact (mirrors_anyUntil ih (isPlain_punctuator _)).bind fun _ _ _ => mirrors_pure trivial
    refine (mirrors_skip? (isPlain_punctuator _)).ite ?_ (steady_flatValue isConstant)
    exact (mirrors_anyUntil (steady_member ih) (isPlain_punctuator _)).bind fun _ _ _ =>
      mirrors_pure trivial

theorem steady_argumentsAt (room : Nat) (isConstant : Bool) : Steady (argumentsAt room isConstant) :=
  (mirrors_optionalIn (R := fun _ _ => True) (Mirrors.bind mirrors_name fun _ _ _ =>
    (steady_expectMark .colon).bind fun _ _ _ =>
      (steady_valueAt isConstant room).bind fun _ _ _ => mirrors_pure trivial) _ _).steady

/-- Lists of the same length. -/
abbrev SameLength {α : Type} : List α → List α → Prop :=
  List.Forall₂ fun _ _ => True

theorem mirrors_directivesAt (room : Nat) (isConstant : Bool) :
    Mirrors SameLength (directivesAt room isConstant) (directivesAt room isConstant) := by
  refine Mirrors.bind mirrors_get fun tokens tokens' htokens => ?_
  rw [htokens.length_eq]
  refine mirrors_itemsWhile ?_ _ _
  exact (steady_expectMark .atSign).bind fun _ _ _ => Mirrors.bind mirrors_name fun _ _ _ =>
    (steady_argumentsAt room isConstant).bind fun _ _ _ => mirrors_pure trivial

/-- The end of a declaration, with a default or without one. -/
theorem mirrors_defaulted {α : Type} (a a' : α) : Mirrors (fun _ _ => True)
    (do
      if ← skip? (.punctuator .equals) then
        let _ ← value true
      let _ ← directives true
      return a)
    (do
      if ← skip? (.punctuator .equals) then
        let _ ← value true
      let _ ← directives true
      return a') := by
  refine (mirrors_skip? (isPlain_punctuator .equals)).bind ?_
  rintro (_ | _) _ rfl
  · exact (mirrors_directivesAt maxDepth true).bind fun _ _ _ => mirrors_pure trivial
  · exact (steady_valueAt true maxDepth).bind fun _ _ _ =>
      (mirrors_directivesAt maxDepth true).bind fun _ _ _ => mirrors_pure trivial

theorem steady_description? : Steady description? := by
  refine Mirrors.bind mirrors_current fun found found' hfound => ?_
  obtain rfl | ⟨s, s', rfl, rfl⟩ | ⟨s, s', rfl, rfl⟩ | ⟨fault, fault', rfl, rfl⟩ :=
    cases_of_shape hfound
  · cases found <;> first | exact mirrors_advance_pure _ _ | exact mirrors_pure trivial
  · exact mirrors_advance_pure _ _
  · exact mirrors_advance_pure _ _
  · exact mirrors_pure trivial

/-- A name is taken if it is one of some words. -/
theorem steady_nameAmong (words : List String) : Steady (do
    let start ← get
    let word ← name
    if words.contains word then return ()
    else throw ⟨.unexpected (.name word), start.length⟩) := by
  refine Mirrors.bind mirrors_get fun _ _ _ => Mirrors.bind mirrors_name ?_
  rintro word _ rfl
  split
  · exact mirrors_pure trivial
  · exact mirrors_throw _ _

theorem steady_operationKind : Steady operationKind :=
  steady_nameAmong operationKinds

/-! ## Selections and operations -/

theorem mirrors_fragmentName : Mirrors (· = ·) fragmentName fragmentName := by
  refine mirrors_of_name (fun s => if s = "on" then unexpectedHere else name)
    (fun s => ?_) (fun s rest => ?_) fun tokens htokens => ?_
  · split
    · exact mirrors_unexpectedHere
    · exact mirrors_name
  · rw [fragmentName, run_current_bind]
    simp [Token.value?]
  · rw [fragmentName, run_current_bind]
    split
    · exact ⟨_, rfl⟩
    · exact exists_error_name htokens

theorem mirrors_fragment (room : Nat) {nested : Parser (List Selection)} (h : Steady nested) :
    Mirrors (· = ·) (fragment room nested) (fragment room nested) := by
  have hinline : Mirrors (· = ·)
      (directivesAt room false >>= fun _ => nested >>= fun _ => pure Selection.inlineFragment)
      (directivesAt room false >>= fun _ => nested >>= fun _ => pure Selection.inlineFragment) :=
    (mirrors_directivesAt room false).bind fun _ _ _ => h.bind fun _ _ _ => mirrors_pure rfl
  refine (steady_expectMark .spread).bind fun _ _ _ => ?_
  refine (mirrors_skip? (isPlain_name "on")).bind ?_
  rintro (_ | _) _ rfl
  · refine Mirrors.bind mirrors_current fun found found' hfound => ?_
    obtain rfl | ⟨s, s', rfl, rfl⟩ | ⟨s, s', rfl, rfl⟩ | ⟨fault, fault', rfl, rfl⟩ :=
      cases_of_shape hfound
    · cases found <;>
        first
        | exact Mirrors.bind mirrors_fragmentName fun _ _ _ =>
            (mirrors_directivesAt room false).bind fun _ _ _ => mirrors_pure rfl
        | exact hinline
    all_goals exact hinline
  · refine Mirrors.bind mirrors_current fun _ _ _ => ?_
    exact Mirrors.bind mirrors_name fun _ _ _ => hinline

theorem mirrors_selectedField (room : Nat) {nested : Parser (List Selection)}
    (h : Mirrors (· = ·) nested nested) :
    Mirrors (· = ·) (selectedField room nested) (selectedField room nested) := by
  have hrest : ∀ key : String, Mirrors (· = ·)
      (do
        let _ ← argumentsAt room false
        let _ ← directivesAt room false
        return Selection.field key (← if ← atMark .braceLeft then nested else pure []))
      (do
        let _ ← argumentsAt room false
        let _ ← directivesAt room false
        return Selection.field key (← if ← atMark .braceLeft then nested else pure [])) := by
    refine fun key => (steady_argumentsAt room false).bind fun _ _ _ =>
      (mirrors_directivesAt room false).bind fun _ _ _ => (mirrors_atMark .braceLeft).bind ?_
    rintro (_ | _) _ rfl
    · exact mirrors_pure rfl
    · exact h.bind fun _ _ hnested => mirrors_pure (by rw [hnested])
  refine Mirrors.bind mirrors_name ?_
  rintro first _ rfl
  refine (mirrors_skip? (isPlain_punctuator .colon)).bind ?_
  rintro (_ | _) _ rfl
  · exact hrest first
  · refine Mirrors.bind mirrors_name ?_
    rintro key _ rfl
    exact hrest key

theorem mirrors_selectionSet : Mirrors (· = ·) selectionSet selectionSet := by
  have hroom : ∀ room, Mirrors (· = ·) (selectionSetAt room) (selectionSetAt room) := by
    intro room
    induction room with
    | zero => exact mirrors_failHere _ _
    | succ room ih =>
      have hitem : Mirrors (· = ·) (selection room (selectionSetAt room))
          (selection room (selectionSetAt room)) :=
        (mirrors_atMark .spread).ite (mirrors_fragment room ih.steady)
          (mirrors_selectedField room ih)
      exact (mirrors_manyIn hitem .braceLeft .braceRight).mono fun _ _ h => List.forall₂_eq_eq_eq ▸ h
  exact hroom maxDepth

theorem steady_variableDeclaration : Steady variableDeclaration :=
  Mirrors.bind steady_description? fun _ _ _ => (steady_variableIn false).bind fun _ _ _ =>
    (steady_expectMark .colon).bind fun _ _ _ => Mirrors.bind steady_typeRef fun _ _ _ =>
      mirrors_defaulted () ()

/-- Definitions that select the same, if they select anything. -/
def SelectsSame (first second : Definition) : Prop :=
  ∀ selections, first = .operation selections ↔ second = .operation selections

theorem mirrors_operation : Mirrors SelectsSame operation operation := by
  have hrest : Mirrors SelectsSame
      (do
        let _ ← optionalIn .parenLeft .parenRight variableDeclaration
        let _ ← directives false
        return Definition.operation (← selectionSet))
      (do
        let _ ← optionalIn .parenLeft .parenRight variableDeclaration
        let _ ← directives false
        return Definition.operation (← selectionSet)) := by
    refine (mirrors_optionalIn steady_variableDeclaration _ _).bind fun _ _ _ =>
      (mirrors_directivesAt maxDepth false).bind fun _ _ _ => Mirrors.bind mirrors_selectionSet ?_
    rintro selections _ rfl
    exact mirrors_pure fun _ => Iff.rfl
  refine Mirrors.bind steady_description? fun _ _ _ =>
    Mirrors.bind steady_operationKind fun _ _ _ => Mirrors.bind mirrors_current fun found found' hfound => ?_
  obtain rfl | ⟨s, s', rfl, rfl⟩ | ⟨s, s', rfl, rfl⟩ | ⟨fault, fault', rfl, rfl⟩ :=
    cases_of_shape hfound
  · cases found <;> first | exact Mirrors.bind mirrors_name fun _ _ _ => hrest | exact hrest
  all_goals exact hrest

theorem mirrors_fragmentDefinition : Mirrors SelectsSame fragmentDefinition fragmentDefinition :=
  Mirrors.bind steady_description? fun _ _ _ => (steady_expectKeyword "fragment").bind fun _ _ _ =>
    Mirrors.bind mirrors_fragmentName fun _ _ _ => (steady_expectKeyword "on").bind fun _ _ _ =>
      Mirrors.bind mirrors_name fun _ _ _ => (mirrors_directivesAt maxDepth false).bind fun _ _ _ =>
        Mirrors.bind mirrors_selectionSet fun _ _ _ => mirrors_pure fun _ => Iff.rfl

/-! ## Type definitions -/

theorem steady_argumentDeclaration : Steady argumentDeclaration :=
  Mirrors.bind steady_description? fun _ _ _ => Mirrors.bind mirrors_name fun _ _ _ =>
    (steady_expectMark .colon).bind fun _ _ _ => Mirrors.bind steady_typeRef fun _ _ _ =>
      mirrors_defaulted _ _

theorem steady_fieldDeclaration : Steady fieldDeclaration :=
  Mirrors.bind steady_description? fun _ _ _ => Mirrors.bind mirrors_name fun _ _ _ =>
    (mirrors_optionalIn steady_argumentDeclaration _ _).bind fun _ _ _ =>
      (steady_expectMark .colon).bind fun _ _ _ => Mirrors.bind steady_typeRef fun _ _ _ =>
        (mirrors_directivesAt maxDepth true).bind fun _ _ _ => mirrors_pure trivial

theorem mirrors_interfaces : Mirrors SameLength interfaces interfaces :=
  (mirrors_skip? (isPlain_name "implements")).ite
    (mirrors_separatedBy (Mirrors.steady mirrors_name) _)
    (mirrors_pure .nil)

theorem steady_enumValue : Steady enumValue := by
  refine Mirrors.bind steady_description? fun _ _ _ => ?_
  refine mirrors_of_name (fun s => if (reservedValues.map RawText.ofString).contains (RawText.ofString s)
    then failHere (.reservedEnumValue (.name s))
    else name >>= fun key => directives true >>= fun _ => pure key)
    (fun s => ?_) (fun s rest => rfl) fun tokens htokens => ?_
  · split
    · exact mirrors_failHere _ _
    · exact Mirrors.bind mirrors_name fun _ _ _ =>
        (mirrors_directivesAt maxDepth true).bind fun _ _ _ => mirrors_pure trivial
  · obtain ⟨failure, hname⟩ := exists_error_name htokens
    rw [run_current_bind]
    split
    · exact ⟨_, rfl⟩
    · exact ⟨failure, by rw [StateT.run_bind, hname]; rfl⟩

theorem steady_rootType : Steady rootType :=
  Mirrors.bind steady_operationKind fun _ _ _ => (steady_expectMark .colon).bind fun _ _ _ =>
    Mirrors.steady mirrors_name

theorem mirrors_unionMembers : Mirrors SameLength unionMembers unionMembers :=
  (mirrors_skip? (isPlain_punctuator .equals)).ite
    (mirrors_separatedBy (Mirrors.steady mirrors_name) _)
    (mirrors_pure .nil)

theorem steady_directiveLocation : Steady directiveLocation :=
  steady_nameAmong directiveLocations

theorem selectsSame_of_forall_ne {first second : Definition}
    (h : ∀ selections, first ≠ .operation selections)
    (h' : ∀ selections, second ≠ .operation selections) : SelectsSame first second :=
  fun selections => iff_of_false (h selections) (h' selections)

theorem mirrors_directiveDefinition :
    Mirrors SelectsSame directiveDefinition directiveDefinition :=
  (steady_expectMark .atSign).bind fun _ _ _ => Mirrors.bind mirrors_name fun _ _ _ =>
    (mirrors_optionalIn steady_argumentDeclaration _ _).bind fun _ _ _ =>
      (mirrors_skip? (isPlain_name "repeatable")).bind fun _ _ _ =>
        (steady_expectKeyword "on").bind fun _ _ _ =>
          (mirrors_separatedBy steady_directiveLocation _).bind fun _ _ _ =>
            mirrors_pure fun _ => Iff.rfl

theorem mirrors_require {found found' : Bool} (h : found = found') :
    Mirrors (fun _ _ => True) (require found) (require found') := by
  subst h
  cases found
  · exact mirrors_unexpectedHere
  · exact mirrors_pure trivial

/-- What is required of an extension alone. -/
theorem mirrors_requireOfExtension {isExtension found found' : Bool}
    {first first' second second' : Definition} (hfound : found = found')
    (hfirst : SelectsSame first first') (hsecond : SelectsSame second second') :
    Mirrors SelectsSame (if isExtension then require found >>= fun _ => pure first else pure second)
      (if isExtension then require found' >>= fun _ => pure first' else pure second') := by
  cases isExtension with
  | false => exact mirrors_pure hsecond
  | true => exact (mirrors_require hfound).bind fun _ _ _ => mirrors_pure hfirst

theorem mirrors_schemaBody (isExtension : Bool) :
    Mirrors SelectsSame (schemaBody isExtension) (schemaBody isExtension) := by
  refine (mirrors_directivesAt maxDepth true).bind fun _ _ happlied => ?_
  cases isExtension with
  | false =>
    exact (mirrors_manyIn steady_rootType _ _).bind fun _ _ _ =>
      mirrors_pure (selectsSame_of_forall_ne nofun nofun)
  | true =>
    refine (mirrors_optionalIn steady_rootType _ _).bind fun _ _ hroots => ?_
    refine (mirrors_require ?_).bind fun _ _ _ =>
      mirrors_pure (selectsSame_of_forall_ne nofun nofun)
    rw [isEmpty_eq_of_forall₂ happlied, isEmpty_eq_of_forall₂ hroots]

theorem mirrors_scalarBody (isExtension : Bool) (description description' : Option RawText) :
    Mirrors SelectsSame (scalarBody isExtension description)
      (scalarBody isExtension description') := by
  refine Mirrors.bind mirrors_name fun _ _ _ =>
    (mirrors_directivesAt maxDepth true).bind fun _ _ happlied => ?_
  refine mirrors_requireOfExtension ?_ (selectsSame_of_forall_ne nofun nofun)
    (selectsSame_of_forall_ne nofun nofun)
  rw [isEmpty_eq_of_forall₂ happlied]

theorem mirrors_objectBody (isExtension : Bool) (description description' : Option RawText) :
    Mirrors SelectsSame (objectBody isExtension description)
      (objectBody isExtension description') := by
  refine Mirrors.bind mirrors_name fun _ _ _ =>
    Mirrors.bind mirrors_interfaces fun _ _ himplemented =>
      (mirrors_directivesAt maxDepth true).bind fun _ _ happlied =>
        (mirrors_optionalIn steady_fieldDeclaration _ _).bind fun _ _ hfields => ?_
  refine mirrors_requireOfExtension ?_ (selectsSame_of_forall_ne nofun nofun)
    (selectsSame_of_forall_ne nofun nofun)
  rw [isEmpty_eq_of_forall₂ himplemented, isEmpty_eq_of_forall₂ happlied,
    isEmpty_eq_of_forall₂ hfields]

theorem mirrors_interfaceBody (isExtension : Bool) :
    Mirrors SelectsSame (interfaceBody isExtension) (interfaceBody isExtension) :=
  (mirrors_objectBody isExtension none none).bind fun _ _ _ => mirrors_pure fun _ => Iff.rfl

theorem mirrors_unionBody (isExtension : Bool) :
    Mirrors SelectsSame (unionBody isExtension) (unionBody isExtension) := by
  refine Mirrors.bind mirrors_name fun _ _ _ =>
    (mirrors_directivesAt maxDepth true).bind fun _ _ happlied =>
      Mirrors.bind mirrors_unionMembers fun _ _ hmembers => ?_
  refine mirrors_requireOfExtension ?_ (fun _ => Iff.rfl) (fun _ => Iff.rfl)
  rw [isEmpty_eq_of_forall₂ happlied, isEmpty_eq_of_forall₂ hmembers]

theorem mirrors_enumBody (isExtension : Bool) (description description' : Option RawText) :
    Mirrors SelectsSame (enumBody isExtension description)
      (enumBody isExtension description') := by
  refine Mirrors.bind mirrors_name fun _ _ _ =>
    (mirrors_directivesAt maxDepth true).bind fun _ _ happlied =>
      (mirrors_optionalIn steady_enumValue _ _).bind fun _ _ hvalues => ?_
  refine mirrors_requireOfExtension ?_ (selectsSame_of_forall_ne nofun nofun)
    (selectsSame_of_forall_ne nofun nofun)
  rw [isEmpty_eq_of_forall₂ happlied, isEmpty_eq_of_forall₂ hvalues]

theorem mirrors_inputBody (isExtension : Bool) :
    Mirrors SelectsSame (inputBody isExtension) (inputBody isExtension) := by
  refine Mirrors.bind mirrors_name fun _ _ _ =>
    (mirrors_directivesAt maxDepth true).bind fun _ _ happlied =>
      (mirrors_optionalIn steady_argumentDeclaration _ _).bind fun _ _ hfields => ?_
  refine mirrors_requireOfExtension ?_ (fun _ => Iff.rfl) (fun _ => Iff.rfl)
  rw [isEmpty_eq_of_forall₂ happlied, isEmpty_eq_of_forall₂ hfields]

/-- The bodies that a word starts go the same way under different descriptions. -/
theorem rel_typeBody? (isExtension : Bool) (description description' : Option RawText)
    (word : String) : Option.Rel (Mirrors SelectsSame) (typeBody? isExtension description word)
      (typeBody? isExtension description' word) := by
  unfold typeBody?
  split
  · exact .some (mirrors_schemaBody _)
  · exact .some (mirrors_scalarBody _ _ _)
  · exact .some (mirrors_objectBody _ _ _)
  · exact .some (mirrors_interfaceBody _)
  · exact .some (mirrors_unionBody _)
  · exact .some (mirrors_enumBody _ _ _)
  · exact .some (mirrors_inputBody _)
  · cases isExtension
    · exact .some mirrors_directiveDefinition
    · exact .none
  · exact .none

/-! ## Documents -/

theorem mirrors_extension : Mirrors SelectsSame extension extension := by
  refine Mirrors.bind mirrors_get fun _ _ _ =>
    Mirrors.bind mirrors_peekNext fun found found' hfound => ?_
  obtain rfl | ⟨s, s', rfl, rfl⟩ | ⟨s, s', rfl, rfl⟩ | ⟨fault, fault', rfl, rfl⟩ :=
    cases_of_shape hfound
  · cases found with
    | name word =>
      have hbody := rel_typeBody? true none none word
      dsimp only
      generalize typeBody? true none word = body at hbody ⊢
      cases hbody with
      | none => exact mirrors_throw _ _
      | some hbody =>
        exact Mirrors.bind steady_advance fun _ _ _ =>
          Mirrors.bind steady_advance fun _ _ _ => hbody
    | _ => exact mirrors_throw _ _
  all_goals exact mirrors_throw _ _

theorem mirrors_definitionOf (described : Bool) (word : String) :
    Mirrors SelectsSame (definitionOf described word) (definitionOf described word) := by
  unfold definitionOf
  split
  · refine Mirrors.bind steady_description? fun description description' _ =>
      Mirrors.bind steady_advance fun _ _ _ => ?_
    have hbody := rel_typeBody? false description description' word
    generalize typeBody? false description word = body,
      typeBody? false description' word = body' at hbody ⊢
    cases hbody with
    | none => exact mirrors_unexpectedHere
    | some hbody => exact hbody
  · split_ifs
    · exact mirrors_operation
    · exact mirrors_fragmentDefinition
    · exact mirrors_failHere _ _
    · exact mirrors_extension
    · exact mirrors_unexpectedHere

theorem mirrors_definition : Mirrors SelectsSame definition definition := by
  have hfault : ∀ found found' : Token, Mirrors SelectsSame
      (get >>= fun tokens : List Token => throw ⟨.unexpected found, tokens.length - 1⟩)
      (get >>= fun tokens : List Token => throw ⟨.unexpected found', tokens.length - 1⟩) :=
    fun _ _ => Mirrors.bind mirrors_get fun _ _ _ => mirrors_throw _ _
  refine Mirrors.bind mirrors_current fun found found' hfound => ?_
  obtain rfl | ⟨s, s', rfl, rfl⟩ | ⟨s, s', rfl, rfl⟩ | ⟨fault, fault', rfl, rfl⟩ :=
    cases_of_shape hfound
  case inr.inr.inr => exact mirrors_unexpectedHere
  cases found
  case name word => exact mirrors_definitionOf false word
  case punctuator mark =>
    cases mark <;>
      first
      | refine Mirrors.bind mirrors_selectionSet ?_
        rintro selections _ rfl
        exact mirrors_pure fun _ => Iff.rfl
      | exact mirrors_unexpectedHere
  case int | float | endOfInput | invalid => exact mirrors_unexpectedHere
  -- What is left are the descriptions, behind which the next token decides in the same way.
  all_goals
    refine Mirrors.bind mirrors_peekNext fun next next' hnext => ?_
    obtain rfl | ⟨s, s', rfl, rfl⟩ | ⟨s, s', rfl, rfl⟩ | ⟨fault, fault', rfl, rfl⟩ :=
      cases_of_shape hnext
    · cases next with
      | name word => exact mirrors_definitionOf true word
      | punctuator mark => cases mark <;> first | exact mirrors_failHere _ _ | exact hfault _ _
      | _ => exact hfault _ _
    all_goals exact hfault _ _

/-- Documents whose tokens have the same shapes are both accepted, and then with definitions
that select the same, or both refused. -/
theorem mirrors_definitions :
    Mirrors (List.Forall₂ SelectsSame) definitions definitions :=
  Mirrors.bind mirrors_get fun _ _ htokens => (mirrors_moveTo htokens).bind fun _ _ _ =>
    mirrors_manyUntil mirrors_definition isPlain_endOfInput

end ResolverTypings.Graphql
