import ResolverTypings.Graphql.Document
import ResolverTypings.Proofs.Sequences

/-!
# Names and texts in documents

A name of a document is a token of letters, digits and underscores, and every name in the
tree of a document is one of its tokens. The same goes for descriptions and the strings that
directives hold. The parsers of the grammar are followed one by one: each leaves behind some of
the tokens that it was given, and what it gives bears their names and texts.
-/
namespace ResolverTypings.Graphql

open Text (RawText CodePoint)

/-! ## Tokens -/

/-- Whether a text is a name of the grammar. -/
def isName (text : String) : Bool :=
  match text.toList with
  | [] => false
  | c :: rest => isNameStart c && rest.all isNamePart

theorem ne_empty_of_isName {text : String} (h : isName text) : text ≠ "" := by
  rintro rfl
  simp [isName] at h

/-- A token that holds a name of the grammar, or none. -/
def Token.BearsName : Token → Prop
  | .name text => isName text
  | _ => True

theorem all_charsWhile (property : Char → Bool) (text : RawText) :
    (text.charsWhile property).all property := by
  induction text with
  | nil => rfl
  | cons point rest ih =>
    cases point with
    | surrogate index => rfl
    | char c => by_cases h : property c <;> simp_all [RawText.charsWhile]

/-- A token that holds a string with a property, or none. -/
def Token.HasText (holds : RawText → Prop) : Token → Prop
  | .string text | .blockString text => holds text
  | _ => True

/-- A token of a document: its name is one of the grammar, and its string has a property. -/
structure Token.Bears (holds : RawText → Prop) (token : Token) : Prop where
  bearsName : token.BearsName
  hasText : token.HasText holds

theorem Token.hasText_true (token : Token) : token.HasText fun _ => True := by
  cases token <;> trivial

theorem bearsName_of_scanString {text : RawText} {token : Token} {length : Nat}
    (h : scanString text = .ok (token, length)) : token.BearsName := by
  unfold scanString at h
  split at h
  · cases hblock : rawBlock 0 ‹_› with
    | error fault => simp [hblock] at h
    | ok found =>
      obtain ⟨rfl, -⟩ : _ = token ∧ _ := by simpa [hblock, pure, Except.pure] using h
      trivial
  · cases hvalue : quotedValue 0 text with
    | error fault => simp [hvalue] at h
    | ok found =>
      obtain ⟨rfl, -⟩ : _ = token ∧ _ := by simpa [hvalue, pure, Except.pure] using h
      trivial

section Strings

variable {holds : RawText → Prop}

theorem bears_of_scanNumber {text : RawText} {token : Token} {length : Nat}
    (h : scanNumber text = .ok (token, length)) : token.Bears holds := by
  have hnumber : ∀ (isWhole : Prop) [Decidable isWhole] (shown : String),
      (if isWhole then Token.int shown else Token.float shown).Bears holds := by
    intro isWhole _ shown
    split <;> exact ⟨trivial, trivial⟩
  simp only [scanNumber, bind_eq_ok_iff] at h
  obtain ⟨whole, -, fraction, -, exponent, -, h⟩ := h
  split at h
  · split at h
    · cases h
    · cases h
      exact hnumber _ _
  · cases h
    exact hnumber _ _

/-- A token bears what it should if the values of strings do. -/
theorem bears_of_scanToken {c : Char} {rest : RawText} {token : Token} {length : Nat}
    (hstring : ∀ {token length}, scanString rest = .ok (token, length) → token.HasText holds)
    (h : scanToken c rest = .ok (token, length)) : token.Bears holds := by
  unfold scanToken at h
  cases hmark : punctuator? c with
  | some mark =>
    simp only [hmark] at h
    cases h
    exact ⟨trivial, trivial⟩
  | none =>
    simp only [hmark] at h
    split_ifs at h with hdot hspread hquote hnumber hstart happostrophe
    · cases h
      exact ⟨trivial, trivial⟩
    · exact ⟨bearsName_of_scanString h, hstring h⟩
    · exact bears_of_scanNumber h
    · cases h
      refine ⟨?_, trivial⟩
      simpa [Token.BearsName, isName, hstart] using all_charsWhile isNamePart rest

/-- The names among the tokens of a document are names of the grammar, and the strings have the
property that strings have wherever they are read in it. -/
theorem bears_of_mem_scan {covered offset : Nat} {text : RawText} {lexeme : Lexeme}
    (hstring : ∀ rest, rest <:+ text → ∀ {token length},
      scanString rest = .ok (token, length) → token.HasText holds)
    (h : lexeme ∈ scan covered offset text) : lexeme.token.Bears holds := by
  fun_induction scan covered offset text with
  | case1 covered offset =>
    obtain rfl : lexeme = _ := by simpa using h
    exact ⟨trivial, trivial⟩
  | case2 _ _ point rest ih =>
    exact ih (fun rest' hrest => hstring rest' (hrest.trans (List.suffix_cons point rest))) h
  | case3 =>
    obtain rfl : lexeme = _ := by simpa using h
    exact ⟨trivial, trivial⟩
  | case4 _ c rest _ ih =>
    exact ih (fun rest' hrest => hstring rest' (hrest.trans (List.suffix_cons (.char c) rest))) h
  | case5 _ rest _ ih =>
    exact ih (fun rest' hrest => hstring rest' (hrest.trans (List.suffix_cons (.char '#') rest))) h
  | case6 offset c rest _ _ token length hscan ih =>
    have hsuffix : rest <:+ .char c :: rest := List.suffix_cons (.char c) rest
    rcases List.mem_cons.1 h with rfl | h
    · exact bears_of_scanToken (hstring rest hsuffix) hscan
    · exact ih (fun rest' hrest => hstring rest' (hrest.trans hsuffix)) h
  | case7 =>
    obtain rfl : lexeme = _ := by simpa using h
    exact ⟨trivial, trivial⟩

end Strings

/-! ## Parsers

A parser is described by what it gives. All of them leave the last of their tokens, which bear
names if all did, so their descriptions can be put together the way the parsers are. The same
holds of any property that the values of all strings may have.
-/

/-- Tokens that all bear names, and strings with a property. -/
def BearNames (holds : RawText → Prop) (tokens : List Token) : Prop :=
  ∀ token ∈ tokens, token.Bears holds

/-- What is left of tokens: the last of them, and at least one if there were any. -/
structure LeftOf (tokens rest : List Token) : Prop where
  suffix : rest <:+ tokens
  nonempty : tokens ≠ [] → rest ≠ []

theorem LeftOf.refl (tokens : List Token) : LeftOf tokens tokens :=
  ⟨List.suffix_refl tokens, id⟩

theorem LeftOf.trans {tokens left rest : List Token} (h : LeftOf tokens left)
    (h' : LeftOf left rest) : LeftOf tokens rest :=
  ⟨List.IsSuffix.trans h'.suffix h.suffix, fun htokens => h'.nonempty (h.nonempty htokens)⟩

variable {holds : RawText → Prop}

theorem LeftOf.bearNames {tokens rest : List Token} (h : LeftOf tokens rest)
    (htokens : BearNames holds tokens) : BearNames holds rest :=
  fun token htoken => htokens token (h.suffix.subset htoken)

/-- On tokens that bear names, a parser gives only results with a property, and it leaves the
last of the tokens. -/
def Yields (holds : RawText → Prop) {α : Type} (parser : Parser α) (P : α → Prop) : Prop :=
  ∀ tokens, BearNames holds tokens → ∀ a rest,
    parser.run tokens = .ok (a, rest) → P a ∧ LeftOf tokens rest

/-- A parser of which nothing is said but what it leaves. -/
abbrev Keeps (holds : RawText → Prop) {α : Type} (parser : Parser α) : Prop :=
  Yields holds parser fun _ => True

section Steps

variable {α β : Type} {P : α → Prop} {Q : β → Prop} {parser : Parser α}

theorem Yields.bind {next : α → Parser β} (h : Yields holds parser P)
    (hnext : ∀ a, P a → Yields holds (next a) Q) : Yields holds (parser >>= next) Q := by
  intro tokens htokens b rest hrun
  obtain ⟨⟨a, left⟩, hfirst, hrest⟩ := bind_eq_ok_iff.1 hrun
  obtain ⟨ha, hleft⟩ := h tokens htokens a left hfirst
  obtain ⟨hb, hbehind⟩ := hnext a ha left (hleft.bearNames htokens) b rest hrest
  exact ⟨hb, hleft.trans hbehind⟩

theorem yields_pure {a : α} (h : P a) : Yields holds (pure a) P := by
  intro tokens htokens a rest hrun
  cases hrun
  exact ⟨h, .refl tokens⟩

theorem yields_throw (failure : Failure) : Yields holds (throw failure) P := by
  intro tokens _ a rest hrun
  cases hrun

theorem Yields.weaken {Q : α → Prop} (h : Yields holds parser P) (himp : ∀ a, P a → Q a) :
    Yields holds parser Q :=
  fun tokens htokens a rest hrun =>
    ⟨himp a (h tokens htokens a rest hrun).1, (h tokens htokens a rest hrun).2⟩

theorem Yields.keeps (h : Yields holds parser P) : Keeps holds parser :=
  h.weaken fun _ _ => trivial

theorem yields_ite {c : Prop} [Decidable c] {yes no : Parser α} (hyes : Yields holds yes P)
    (hno : Yields holds no P) : Yields holds (if c then yes else no) P := by
  split
  · exact hyes
  · exact hno

theorem yields_get : Yields holds get (BearNames holds) := by
  intro tokens htokens a rest hrun
  cases hrun
  exact ⟨htokens, .refl tokens⟩

end Steps

/-! ### Single tokens -/

section Tokens

variable {α : Type} {P : α → Prop}

theorem yields_current :
    Yields holds current (Token.Bears holds) := by
  refine yields_get.bind fun tokens htokens => yields_pure ?_
  cases tokens with
  | nil => exact ⟨trivial, trivial⟩
  | cons token rest => exact htokens token (by simp)

theorem yields_failHere (fault : SyntaxFault) : Yields holds (failHere fault) P :=
  yields_get.bind fun _ _ => yields_throw _

theorem yields_unexpectedHere : Yields holds unexpectedHere P :=
  yields_current.bind fun _ _ => yields_failHere _

theorem eq_of_run_moveTo {tokens tokens' rest : List Token} {a : Unit}
    (h : (moveTo tokens).run tokens' = .ok (a, rest)) : rest = tokens := by
  unfold moveTo at h
  split at h
  · cases h
  · cases h
    rfl

theorem keeps_advance : Keeps holds advance := by
  intro tokens _ a rest hrun
  rcases tokens with _ | ⟨token, _ | ⟨next, more⟩⟩
  · cases hrun
    exact ⟨trivial, .refl _⟩
  · cases hrun
    exact ⟨trivial, .refl _⟩
  · have hmove : advance.run (token :: next :: more) =
        (moveTo (next :: more)).run (token :: next :: more) := rfl
    rw [eq_of_run_moveTo (hmove.symm.trans hrun)]
    exact ⟨trivial, List.suffix_cons token _, fun _ => List.cons_ne_nil _ _⟩

theorem keeps_peekNext : Keeps holds peekNext := by
  refine yields_get.bind fun tokens _ => ?_
  split
  · exact yields_throw _
  · exact yields_pure trivial
  · exact yields_pure trivial

theorem keeps_skip? (token : Token) : Keeps holds (skip? token) := by
  refine yields_current.bind fun _ _ => yields_ite ?_ (yields_pure trivial)
  exact keeps_advance.bind fun _ _ => yields_pure trivial

theorem keeps_expectMark (mark : Punctuator) : Keeps holds (expectMark mark) := by
  refine (keeps_skip? _).bind fun _ _ => yields_ite (yields_pure trivial) ?_
  exact yields_current.bind fun _ _ => yields_failHere _

theorem keeps_expectKeyword (word : String) : Keeps holds (expectKeyword word) := by
  refine (keeps_skip? _).bind fun _ _ => yields_ite (yields_pure trivial) ?_
  exact yields_current.bind fun _ _ => yields_failHere _

theorem yields_name : Yields holds name (isName ·) := by
  refine yields_current.bind fun token htoken => ?_
  cases token with
  | name text => exact keeps_advance.bind fun _ _ => yields_pure htoken.bearsName
  | _ => exact yields_failHere _

theorem keeps_atMark (mark : Punctuator) : Keeps holds (atMark mark) :=
  yields_current.bind fun _ _ => yields_pure trivial

end Tokens

/-! ### Repetition -/

section Repetition

variable {α : Type} {P : α → Prop} {item : Parser α} (h : Yields holds item P)

include h

theorem yields_itemsUntil (close : Token) (bound : Nat) :
    Yields holds (itemsUntil close item bound) fun items => ∀ a ∈ items, P a := by
  induction bound with
  | zero => exact yields_unexpectedHere
  | succ bound ih =>
    refine (keeps_skip? close).bind fun _ _ => yields_ite (yields_pure (by simp)) ?_
    refine h.bind fun first hfirst => ih.bind fun rest hrest => yields_pure ?_
    exact List.forall_mem_cons.2 ⟨hfirst, hrest⟩

/-- Items end at their closing token, which was among the tokens. -/
theorem mem_of_run_itemsUntil {close : Token} {bound : Nat} {tokens rest : List Token}
    (htokens : BearNames holds tokens) (hne : tokens ≠ []) {items : List α}
    (hrun : (itemsUntil close item bound).run tokens = .ok (items, rest)) : close ∈ tokens := by
  induction bound generalizing tokens items rest with
  | zero => exact (yields_unexpectedHere (P := fun _ => False) _ htokens _ _ hrun).1.elim
  | succ bound ih =>
    obtain ⟨token, more, rfl⟩ := List.exists_cons_of_ne_nil hne
    by_cases hclose : token = close
    · exact hclose ▸ List.mem_cons_self
    · have hskip : (itemsUntil close item (bound + 1)).run (token :: more) =
          (item >>= fun first => do
            return first :: (← itemsUntil close item bound)).run (token :: more) := by
        have hcurrent : (skip? close).run (token :: more) = .ok (false, token :: more) := by
          simp [skip?, current, hclose]
          rfl
        rw [itemsUntil, StateT.run_bind, hcurrent]
        rfl
      obtain ⟨⟨first, left⟩, hfirst, hbehind⟩ := bind_eq_ok_iff.1 (hskip.symm.trans hrun)
      obtain ⟨⟨others, _⟩, hothers, -⟩ := bind_eq_ok_iff.1 hbehind
      have hleft := (h _ htokens _ _ hfirst).2
      exact hleft.suffix.subset (ih (hleft.bearNames htokens) (hleft.nonempty hne) hothers)

theorem yields_anyUntil (close : Token) :
    Yields holds (anyUntil close item) fun items => ∀ a ∈ items, P a :=
  yields_get.bind fun _ _ => yields_itemsUntil h close _

theorem yields_manyUntil (close : Token) :
    Yields holds (manyUntil close item) fun items => items ≠ [] ∧ ∀ a ∈ items, P a := by
  refine h.bind fun first hfirst => (yields_anyUntil h close).bind fun rest hrest =>
    yields_pure ⟨by simp, ?_⟩
  exact List.forall_mem_cons.2 ⟨hfirst, hrest⟩

theorem yields_manyIn (opening closing : Punctuator) :
    Yields holds (manyIn opening closing item) fun items => items ≠ [] ∧ ∀ a ∈ items, P a :=
  (keeps_expectMark opening).bind fun _ _ => yields_manyUntil h _

theorem yields_optionalIn (opening closing : Punctuator) :
    Yields holds (optionalIn opening closing item) fun items => ∀ a ∈ items, P a := by
  refine (keeps_skip? _).bind fun _ _ => yields_ite ?_ (yields_pure (by simp))
  exact (yields_manyUntil h _).weaken fun _ hitems => hitems.2

theorem keeps_separatedItems (mark : Punctuator) (bound : Nat) :
    Keeps holds (separatedItems mark item bound) := by
  induction bound with
  | zero => exact yields_unexpectedHere
  | succ bound ih =>
    refine h.bind fun _ _ => (keeps_skip? _).bind fun _ _ => yields_ite ?_ (yields_pure trivial)
    exact ih.bind fun _ _ => yields_pure trivial

theorem keeps_separatedBy (mark : Punctuator) : Keeps holds (separatedBy mark item) :=
  (keeps_skip? _).bind fun _ _ => yields_get.bind fun _ _ => keeps_separatedItems h mark _

theorem yields_itemsWhile (mark : Punctuator) (bound : Nat) :
    Yields holds (itemsWhile mark item bound) fun items => ∀ a ∈ items, P a := by
  induction bound with
  | zero => exact yields_pure (by simp)
  | succ bound ih =>
    refine (keeps_atMark mark).bind fun _ _ => yields_ite ?_ (yields_pure (by simp))
    refine h.bind fun first hfirst => ih.bind fun rest hrest => yields_pure ?_
    exact List.forall_mem_cons.2 ⟨hfirst, hrest⟩

end Repetition

/-! ## Types, values and directives -/

theorem yields_typeRefWith {item : Parser TypeRef} (h : Yields holds item (isName ·.name)) :
    Yields holds (typeRefWith item) (isName ·.name) := by
  have hbang : ∀ base : TypeRef, isName base.name → Yields holds (do
      if ← skip? (.punctuator .bang) then return .nonNull base else return base)
      (isName ·.name) :=
    fun base hbase => (keeps_skip? _).bind fun _ _ =>
      yields_ite (yields_pure hbase) (yields_pure hbase)
  refine (keeps_skip? _).bind fun _ _ => yields_ite ?_ ?_
  · exact h.bind fun inner hinner => (keeps_expectMark _).bind fun _ _ => hbang _ hinner
  · exact yields_name.bind fun name hname => hbang _ hname

theorem yields_typeRef : Yields holds typeRef (isName ·.name) := by
  have hroom : ∀ room, Yields holds (typeRefAt room) (isName ·.name) := by
    intro room
    induction room with
    | zero => exact yields_typeRefWith (yields_failHere _)
    | succ room ih => exact yields_typeRefWith ih
  exact hroom maxDepth

theorem keeps_variableIn (isConstant : Bool) : Keeps holds (variableIn isConstant) := by
  refine yields_get.bind fun _ _ => (keeps_expectMark _).bind fun _ _ => yields_ite ?_ ?_
  · refine yields_current.bind fun token _ => ?_
    split <;> exact yields_throw _
  · exact yields_name.bind fun _ _ => yields_pure trivial

/-- A text, if there is one, has a property. -/
abbrev TextHas (holds : RawText → Prop) (text : Option RawText) : Prop :=
  ∀ value ∈ text, holds value

theorem textHas_none : TextHas holds none :=
  fun _ hvalue => nomatch hvalue

theorem textHas_some {text : RawText} (h : holds text) : TextHas holds (some text) :=
  fun _ hvalue => Option.some.inj hvalue ▸ h

theorem yields_flatValue (isConstant : Bool) : Yields holds (flatValue isConstant) (TextHas holds) := by
  refine yields_current.bind fun token htoken => ?_
  split
  · exact keeps_advance.bind fun _ _ => yields_pure (textHas_some htoken.hasText)
  · exact keeps_advance.bind fun _ _ => yields_pure (textHas_some htoken.hasText)
  all_goals first
    | exact keeps_advance.bind fun _ _ => yields_pure textHas_none
    | exact (keeps_variableIn _).bind fun _ _ => yields_pure textHas_none
    | exact yields_unexpectedHere

theorem keeps_member {value : Parser (Option RawText)} (h : Keeps holds value) :
    Keeps holds (member value) :=
  yields_name.bind fun _ _ => (keeps_expectMark _).bind fun _ _ =>
    h.bind fun _ _ => yields_pure trivial

theorem yields_valueAt (isConstant : Bool) (room : Nat) :
    Yields holds (valueAt isConstant room) (TextHas holds) := by
  induction room with
  | zero =>
    refine (keeps_atMark _).bind fun _ _ => (keeps_atMark _).bind fun _ _ => ?_
    exact yields_ite (yields_failHere _) (yields_flatValue _)
  | succ room ih =>
    refine (keeps_skip? _).bind fun _ _ => yields_ite ?_ ?_
    · exact (yields_anyUntil ih _).bind fun _ _ => yields_pure textHas_none
    · refine (keeps_skip? _).bind fun _ _ => yields_ite ?_ (yields_flatValue _)
      exact (yields_anyUntil (keeps_member ih.keeps) _).bind fun _ _ => yields_pure textHas_none

/-- A directive whose strings have a property. -/
def Directive.HasTexts (holds : RawText → Prop) (directive : Directive) : Prop :=
  ∀ argument ∈ directive.arguments, TextHas holds argument.2

theorem yields_argumentsAt (room : Nat) (isConstant : Bool) :
    Yields holds (argumentsAt room isConstant) fun found =>
      ∀ argument ∈ found, TextHas holds argument.2 := by
  have hargument : Yields holds (argumentAt room isConstant) fun argument =>
      TextHas holds argument.2 :=
    yields_name.bind fun _ _ => (keeps_expectMark _).bind fun _ _ =>
      (yields_valueAt _ _).bind fun _ hvalue => yields_pure hvalue
  exact yields_optionalIn hargument _ _

theorem yields_directivesAt (room : Nat) (isConstant : Bool) :
    Yields holds (directivesAt room isConstant) fun found =>
      ∀ directive ∈ found, directive.HasTexts holds := by
  refine yields_get.bind fun _ _ => yields_itemsWhile ?_ _ _
  exact (keeps_expectMark _).bind fun _ _ => yields_name.bind fun _ _ =>
    (yields_argumentsAt _ _).bind fun _ harguments => yields_pure harguments

theorem keeps_directivesAt (room : Nat) (isConstant : Bool) :
    Keeps holds (directivesAt room isConstant) :=
  (yields_directivesAt room isConstant).keeps

theorem yields_description? : Yields holds description? (TextHas holds) := by
  refine yields_current.bind fun token htoken => ?_
  split
  · exact keeps_advance.bind fun _ _ => yields_pure (textHas_some htoken.hasText)
  · exact keeps_advance.bind fun _ _ => yields_pure (textHas_some htoken.hasText)
  · exact yields_pure textHas_none

theorem keeps_description? : Keeps holds description? :=
  yields_description?.keeps

theorem keeps_operationKind : Keeps holds operationKind :=
  yields_get.bind fun _ _ => yields_name.bind fun _ _ =>
    yields_ite (yields_pure trivial) (yields_throw _)

/-! ## Selection sets and operations -/

theorem keeps_fragmentName : Keeps holds fragmentName :=
  yields_current.bind fun _ _ => yields_ite yields_unexpectedHere yields_name.keeps

theorem keeps_fragment {nested : Parser (List Selection)} (room : Nat) (h : Keeps holds nested) :
    Keeps holds (fragment room nested) := by
  refine (keeps_expectMark _).bind fun _ _ => (keeps_skip? _).bind fun hasCondition _ =>
    yields_current.bind fun token _ => ?_
  have hinline : Keeps holds (do
      let _ ← directivesAt room false
      let _ ← nested
      return Selection.inlineFragment) :=
    (keeps_directivesAt _ _).bind fun _ _ => h.bind fun _ _ => yields_pure trivial
  split
  · exact keeps_fragmentName.bind fun _ _ => (keeps_directivesAt _ _).bind fun _ _ =>
      yields_pure trivial
  · exact yields_ite (yields_name.bind fun _ _ => hinline) hinline

theorem keeps_selectedField {nested : Parser (List Selection)} (room : Nat) (h : Keeps holds nested) :
    Keeps holds (selectedField room nested) := by
  have hbehind : ∀ key, Keeps holds (do
      let _ ← argumentsAt room false
      let _ ← directivesAt room false
      return Selection.field key (← if ← atMark .braceLeft then nested else pure [])) :=
    fun key => (yields_argumentsAt _ _).bind fun _ _ => (keeps_directivesAt _ _).bind fun _ _ =>
      (keeps_atMark _).bind fun _ _ =>
        yields_ite (h.bind fun _ _ => yields_pure trivial) (yields_pure trivial)
  refine yields_name.bind fun first _ => (keeps_skip? _).bind fun _ _ => yields_ite ?_ ?_
  · exact yields_name.bind fun key _ => hbehind key
  · exact hbehind first

theorem yields_selectionSetAt (room : Nat) : Yields holds (selectionSetAt room) (· ≠ []) := by
  induction room with
  | zero => exact yields_failHere _
  | succ room ih =>
    have hitem : Keeps holds (selection room (selectionSetAt room)) :=
      (keeps_atMark _).bind fun _ _ =>
        yields_ite (keeps_fragment room ih.keeps) (keeps_selectedField room ih.keeps)
    exact (yields_manyIn hitem _ _).weaken fun _ hitems => hitems.1

/-- A selection set has at least one selection. -/
theorem yields_selectionSet : Yields holds selectionSet (· ≠ []) :=
  yields_selectionSetAt maxDepth

theorem keeps_variableDeclaration : Keeps holds variableDeclaration := by
  refine keeps_description?.bind fun _ _ => (keeps_variableIn _).bind fun _ _ =>
    (keeps_expectMark _).bind fun _ _ => yields_typeRef.bind fun _ _ =>
    (keeps_skip? _).bind fun _ _ => ?_
  have hdirectives : Keeps holds (do let _ ← directives true) :=
    (keeps_directivesAt _ _).bind fun _ _ => yields_pure trivial
  exact yields_ite ((yields_valueAt _ _).bind fun _ _ => hdirectives) hdirectives

/-! ## Definitions -/

/-- A declaration of a named field of a named type. -/
structure FieldDeclaration.IsNamed (declaration : FieldDeclaration) : Prop where
  name : isName declaration.name
  type : isName declaration.type.name

/-- An operation that selects something, an object or enum type with names where they belong,
or any other definition. -/
def Definition.IsProper : Definition → Prop
  | .operation selections => selections ≠ []
  | .object part => isName part.name ∧ ∀ declaration ∈ part.fields, declaration.IsNamed
  | .enum part => ∀ value ∈ part.values, isName value
  | _ => True

/-- A declaration whose texts have a property. -/
structure FieldDeclaration.HasTexts (holds : RawText → Prop) (declaration : FieldDeclaration) :
    Prop where
  description : TextHas holds declaration.description
  arguments : ∀ argument ∈ declaration.arguments, TextHas holds argument.description
  directives : ∀ directive ∈ declaration.directives, directive.HasTexts holds

/-- An object type whose texts have a property. -/
structure ObjectPart.HasTexts (holds : RawText → Prop) (part : ObjectPart) : Prop where
  description : TextHas holds part.description
  directives : ∀ directive ∈ part.directives, directive.HasTexts holds
  fields : ∀ declaration ∈ part.fields, declaration.HasTexts holds

/-- A definition whose texts have a property. -/
def Definition.HasTexts (holds : RawText → Prop) : Definition → Prop
  | .scalar _ description => TextHas holds description
  | .object part => part.HasTexts holds
  | .enum part => TextHas holds part.description
  | _ => True

/-- A proper definition whose texts have a property. -/
structure Definition.Bears (holds : RawText → Prop) (definition : Definition) : Prop where
  isProper : definition.IsProper
  hasTexts : definition.HasTexts holds

theorem Definition.bears_other : Definition.other.Bears holds :=
  ⟨trivial, trivial⟩

theorem yields_operation : Yields holds operation (Definition.Bears holds) := by
  have hbehind : Yields holds (do
      let _ ← optionalIn .parenLeft .parenRight variableDeclaration
      let _ ← directives false
      return Definition.operation (← selectionSet)) (Definition.Bears holds) :=
    (yields_optionalIn keeps_variableDeclaration _ _).bind fun _ _ =>
      (keeps_directivesAt _ _).bind fun _ _ => yields_selectionSet.bind fun _ hselections =>
        yields_pure ⟨hselections, trivial⟩
  refine keeps_description?.bind fun _ _ => keeps_operationKind.bind fun _ _ =>
    yields_current.bind fun token _ => ?_
  split
  · exact yields_name.bind fun _ _ => hbehind
  · exact hbehind

theorem yields_fragmentDefinition : Yields holds fragmentDefinition (Definition.Bears holds) :=
  keeps_description?.bind fun _ _ => (keeps_expectKeyword _).bind fun _ _ =>
    keeps_fragmentName.bind fun _ _ => (keeps_expectKeyword _).bind fun _ _ =>
    yields_name.bind fun _ _ => (keeps_directivesAt _ _).bind fun _ _ =>
    yields_selectionSet.bind fun _ _ => yields_pure Definition.bears_other

theorem yields_argumentDeclaration :
    Yields holds argumentDeclaration fun argument => TextHas holds argument.description := by
  refine yields_description?.bind fun _ hdescription => yields_name.bind fun _ _ =>
    (keeps_expectMark _).bind fun _ _ => yields_typeRef.bind fun _ _ =>
    (keeps_skip? _).bind fun _ _ => ?_
  refine yields_ite ((yields_valueAt _ _).bind fun _ _ => ?_) ?_
  all_goals exact (keeps_directivesAt _ _).bind fun _ _ => yields_pure hdescription

theorem yields_fieldDeclaration : Yields holds fieldDeclaration fun declaration =>
    declaration.IsNamed ∧ declaration.HasTexts holds :=
  yields_description?.bind fun _ hdescription => yields_name.bind fun _ hname =>
    (yields_optionalIn yields_argumentDeclaration _ _).bind fun _ harguments =>
    (keeps_expectMark _).bind fun _ _ => yields_typeRef.bind fun _ htype =>
    (yields_directivesAt _ _).bind fun _ hdirectives =>
      yields_pure ⟨⟨hname, htype⟩, ⟨hdescription, harguments, hdirectives⟩⟩

theorem keeps_interfaces : Keeps holds interfaces :=
  (keeps_skip? _).bind fun _ _ =>
    yields_ite (keeps_separatedBy yields_name _) (yields_pure trivial)

theorem yields_enumValue : Yields holds enumValue (isName ·) :=
  keeps_description?.bind fun _ _ => yields_current.bind fun _ _ =>
    yields_ite (yields_failHere _) (yields_name.bind fun _ hname =>
      (keeps_directivesAt _ _).bind fun _ _ => yields_pure hname)

theorem keeps_rootType : Keeps holds rootType :=
  keeps_operationKind.bind fun _ _ => (keeps_expectMark _).bind fun _ _ => yields_name.keeps

theorem keeps_unionMembers : Keeps holds unionMembers :=
  (keeps_skip? _).bind fun _ _ =>
    yields_ite (keeps_separatedBy yields_name _) (yields_pure trivial)

theorem keeps_directiveLocation : Keeps holds directiveLocation :=
  yields_get.bind fun _ _ => yields_name.bind fun _ _ =>
    yields_ite (yields_pure trivial) (yields_throw _)

theorem yields_directiveDefinition : Yields holds directiveDefinition (Definition.Bears holds) :=
  (keeps_expectMark _).bind fun _ _ => yields_name.bind fun _ _ =>
    (yields_optionalIn yields_argumentDeclaration _ _).bind fun _ _ =>
    (keeps_skip? _).bind fun _ _ => (keeps_expectKeyword _).bind fun _ _ =>
    (keeps_separatedBy keeps_directiveLocation _).bind fun _ _ =>
      yields_pure Definition.bears_other

theorem keeps_require (found : Bool) : Keeps holds (require found) :=
  yields_ite (yields_pure trivial) yields_unexpectedHere

/-- An extension is asked for something, and then as a definition it goes on. -/
theorem yields_requireIf {α : Type} {P : α → Prop} {rest : Parser α} (isExtension found : Bool)
    (h : Yields holds rest P) : Yields holds (do
      if isExtension then require found
      rest) P :=
  yields_ite ((keeps_require found).bind fun _ _ => h) h

theorem yields_schemaBody (isExtension : Bool) :
    Yields holds (schemaBody isExtension) (Definition.Bears holds) := by
  refine (keeps_directivesAt _ _).bind fun _ _ => yields_ite ?_ ?_
  · exact (yields_optionalIn keeps_rootType _ _).bind fun _ _ => (keeps_require _).bind fun _ _ =>
      yields_pure ⟨trivial, trivial⟩
  · exact (yields_manyIn keeps_rootType _ _).bind fun _ _ => yields_pure ⟨trivial, trivial⟩

section Described

variable {description : Option RawText} (hdescription : TextHas holds description)

include hdescription

theorem yields_scalarBody (isExtension : Bool) :
    Yields holds (scalarBody isExtension description) (Definition.Bears holds) := by
  refine yields_name.bind fun _ _ => (keeps_directivesAt _ _).bind fun _ _ => yields_ite ?_ ?_
  · exact (keeps_require _).bind fun _ _ => yields_pure Definition.bears_other
  · exact yields_pure ⟨trivial, hdescription⟩

theorem yields_objectBody (isExtension : Bool) :
    Yields holds (objectBody isExtension description) (Definition.Bears holds) := by
  refine yields_name.bind fun key hkey => keeps_interfaces.bind fun _ _ =>
    (yields_directivesAt _ _).bind fun directives hdirectives =>
    (yields_optionalIn yields_fieldDeclaration _ _).bind fun fields hfields => ?_
  exact yields_requireIf _ _ (yields_pure ⟨⟨hkey, fun field hfield => (hfields field hfield).1⟩,
    ⟨hdescription, hdirectives, fun field hfield => (hfields field hfield).2⟩⟩)

theorem yields_enumBody (isExtension : Bool) :
    Yields holds (enumBody isExtension description) (Definition.Bears holds) :=
  yields_name.bind fun _ _ => (keeps_directivesAt _ _).bind fun _ _ =>
    (yields_optionalIn yields_enumValue _ _).bind fun _ hvalues =>
      yields_requireIf _ _ (yields_pure ⟨hvalues, hdescription⟩)

end Described

theorem yields_interfaceBody (isExtension : Bool) :
    Yields holds (interfaceBody isExtension) (Definition.Bears holds) :=
  (yields_objectBody textHas_none _).bind fun _ _ => yields_pure Definition.bears_other

theorem yields_unionBody (isExtension : Bool) :
    Yields holds (unionBody isExtension) (Definition.Bears holds) :=
  yields_name.bind fun _ _ => (keeps_directivesAt _ _).bind fun _ _ =>
    keeps_unionMembers.bind fun _ _ => yields_requireIf _ _ (yields_pure Definition.bears_other)

theorem yields_inputBody (isExtension : Bool) :
    Yields holds (inputBody isExtension) (Definition.Bears holds) :=
  yields_name.bind fun _ _ => (keeps_directivesAt _ _).bind fun _ _ =>
    (yields_optionalIn yields_argumentDeclaration _ _).bind fun _ _ =>
      yields_requireIf _ _ (yields_pure Definition.bears_other)

theorem yields_typeBody? {isExtension : Bool} {description : Option RawText}
    (hdescription : TextHas holds description) {word : String} {body : Parser Definition}
    (h : typeBody? isExtension description word = some body) :
    Yields holds body (Definition.Bears holds) := by
  unfold typeBody? at h
  split at h
  case h_8 =>
    -- A directive is defined but not extended.
    cases isExtension <;> cases h
    exact yields_directiveDefinition
  all_goals cases h
  · exact yields_schemaBody _
  · exact yields_scalarBody hdescription _
  · exact yields_objectBody hdescription _
  · exact yields_interfaceBody _
  · exact yields_unionBody _
  · exact yields_enumBody hdescription _
  · exact yields_inputBody _

theorem yields_extension : Yields holds extension (Definition.Bears holds) := by
  refine yields_get.bind fun _ _ => keeps_peekNext.bind fun found _ => ?_
  split
  · split
    · next hbody =>
      exact keeps_advance.bind fun _ _ => keeps_advance.bind fun _ _ =>
        yields_typeBody? textHas_none hbody
    · exact yields_throw _
  · exact yields_throw _

theorem yields_definitionOf (described : Bool) (word : String) :
    Yields holds (definitionOf described word) (Definition.Bears holds) := by
  unfold definitionOf
  split
  · refine yields_description?.bind fun description hdescription =>
      keeps_advance.bind fun _ _ => ?_
    cases hbody : typeBody? false description word with
    | none => exact yields_unexpectedHere
    | some body => exact yields_typeBody? hdescription hbody
  · refine yields_ite yields_operation (yields_ite yields_fragmentDefinition ?_)
    exact yields_ite (yields_failHere _) (yields_ite yields_extension yields_unexpectedHere)

theorem yields_definition : Yields holds definition (Definition.Bears holds) := by
  refine yields_current.bind fun token _ => ?_
  split
  · exact yields_selectionSet.bind fun _ hselections => yields_pure ⟨hselections, trivial⟩
  · exact yields_definitionOf _ _
  -- Both kinds of strings describe what the next token starts.
  iterate 2
    refine keeps_peekNext.bind fun found _ => ?_
    split
    · exact yields_failHere _
    · exact yields_definitionOf _ _
    · exact yields_get.bind fun _ _ => yields_throw _
  · exact yields_unexpectedHere

/-! ## Documents -/

/-- There is always a token, at least the end of the input. -/
theorem scan_ne_nil (covered offset : Nat) (text : RawText) : scan covered offset text ≠ [] := by
  fun_induction scan covered offset text <;> simp_all

theorem bearNames_lexemes {document : RawText} (hstring : ∀ rest, rest <:+ document →
      ∀ {token length}, scanString rest = .ok (token, length) → token.HasText holds) :
    BearNames holds ((lexemes document).map (·.token)) := by
  intro token htoken
  obtain ⟨lexeme, hlexeme, rfl⟩ := List.mem_map.1 htoken
  exact bears_of_mem_scan hstring hlexeme

theorem bearNames_true (document : RawText) :
    BearNames (fun _ => True) ((lexemes document).map (·.token)) :=
  bearNames_lexemes fun _ _ {token _} _ => token.hasText_true

theorem parseDocument_eq_ok_iff {document : RawText} {found : List Definition} :
    parseDocument document = .ok found ↔
      ∃ rest, definitions.run ((lexemes document).map (·.token)) = .ok (found, rest) := by
  have hrun : parseTokens ((lexemes document).map (·.token)) =
      (definitions.run ((lexemes document).map (·.token))).map (·.1) := rfl
  simp only [parseDocument, hrun]
  cases definitions.run ((lexemes document).map (·.token)) with
  | error failure => simp [Except.map]
  | ok result => simp [Except.map, Prod.ext_iff]

/-- Where definitions are read, the first token may be any but a fault. -/
theorem run_manyUntil_of_run_definitions {tokens rest : List Token} {found : List Definition}
    (h : definitions.run tokens = .ok (found, rest)) :
    (manyUntil .endOfInput definition).run tokens = .ok (found, rest) := by
  have hmove : definitions.run tokens =
      (moveTo tokens >>= fun _ => manyUntil .endOfInput definition).run tokens := rfl
  obtain ⟨⟨_, left⟩, hfirst, hrest⟩ := bind_eq_ok_iff.1 (hmove.symm.trans h)
  rwa [eq_of_run_moveTo hfirst] at hrest

/-- A document that is accepted has been read to its end. -/
theorem endOfInput_mem_of_parseDocument {document : RawText} {found : List Definition}
    (h : parseDocument document = .ok found) :
    .endOfInput ∈ (lexemes document).map (·.token) := by
  obtain ⟨rest, hrun⟩ := parseDocument_eq_ok_iff.1 h
  have htokens := bearNames_true document
  obtain ⟨⟨first, left⟩, hfirst, hbehind⟩ :=
    bind_eq_ok_iff.1 (run_manyUntil_of_run_definitions hrun)
  obtain ⟨⟨others, _⟩, hothers, -⟩ := bind_eq_ok_iff.1 hbehind
  have hleft := (yields_definition _ htokens _ _ hfirst).2
  refine hleft.suffix.subset ?_
  exact mem_of_run_itemsUntil yields_definition (hleft.bearNames htokens)
    (hleft.nonempty (by simpa [lexemes] using scan_ne_nil 0 0 document)) hothers

/-- The definitions of a document bear what its tokens do. -/
theorem bears_of_parseDocument {document : RawText} {found : List Definition}
    (htokens : BearNames holds ((lexemes document).map (·.token)))
    (h : parseDocument document = .ok found) :
    ∀ definition ∈ found, definition.Bears holds := by
  obtain ⟨rest, hrun⟩ := parseDocument_eq_ok_iff.1 h
  have hmany := run_manyUntil_of_run_definitions hrun
  exact (yields_manyUntil yields_definition _ _ htokens _ _ hmany).1.2

/-- The definitions of a document are proper ones. -/
theorem isProper_of_parseDocument {document : RawText} {found : List Definition}
    (h : parseDocument document = .ok found) : ∀ definition ∈ found, definition.IsProper :=
  fun definition hdefinition =>
    (bears_of_parseDocument (bearNames_true document) h definition hdefinition).isProper

/-- A document that starts with an opening brace starts with a query, which selects
something. -/
theorem exists_operation_of_parseDocument {text : RawText} {found : List Definition}
    (h : parseDocument (.char '{' :: text) = .ok found) :
    ∃ selections more, found = .operation selections :: more ∧ selections ≠ [] := by
  have hproper := isProper_of_parseDocument h
  obtain ⟨rest, hrun⟩ := parseDocument_eq_ok_iff.1 h
  have hlexemes : lexemes (.char '{' :: text) =
      ⟨.punctuator .braceLeft, 0⟩ :: scan 0 1 text := rfl
  rw [hlexemes, List.map_cons] at hrun
  generalize hmore : (scan 0 1 text).map (·.token) = tokens at hrun
  have hmany : definitions.run (.punctuator .braceLeft :: tokens) =
      (definition >>= fun first => do
        return first :: (← anyUntil .endOfInput definition)).run
          (.punctuator .braceLeft :: tokens) := rfl
  have hquery : definition.run (.punctuator .braceLeft :: tokens) =
      (selectionSet >>= fun selections => pure (.operation selections)).run
        (.punctuator .braceLeft :: tokens) := rfl
  obtain ⟨⟨first, left⟩, hfirst, hrest⟩ := bind_eq_ok_iff.1 (hmany.symm.trans hrun)
  obtain ⟨⟨selections, _⟩, -, hselections⟩ := bind_eq_ok_iff.1 (hquery.symm.trans hfirst)
  obtain ⟨⟨more, _⟩, -, hfound⟩ := bind_eq_ok_iff.1 hrest
  cases hselections
  cases hfound
  exact ⟨selections, more, rfl, hproper (.operation selections) (by simp)⟩

end ResolverTypings.Graphql
