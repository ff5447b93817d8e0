import Mathlib.Algebra.BigOperators.Group.List.Basic
import ResolverTypings.Graphql.Document
import ResolverTypings.Proofs.Graphql.Grammar

/-!
# What the parsers of values, arguments and directives take

A parser is sound if what it takes is a word of its language. Sound parsers are put together
the way the languages are.
-/
namespace ResolverTypings.Graphql

open Computability
open Text (RawText)

/-! ## Sound parsers -/

/-- Tokens that end at the one behind which nothing is read. -/
inductive Ended : List Token → Prop where
  | last {token : Token} : token.stops → Ended [token]
  | cons {token : Token} {tokens : List Token} : token.stops = false → Ended tokens →
      Ended (token :: tokens)

theorem Ended.behind {token : Token} {tokens : List Token} (h : Ended (token :: tokens))
    (htoken : token.stops = false) : Ended tokens := by
  cases h with
  | last hlast => simp [htoken] at hlast
  | cons _ h => exact h

/-- Only the last token stops the reading. -/
theorem Ended.stops_eq_false {front back : List Token} (h : Ended (front ++ back))
    (hback : back ≠ []) : ∀ token ∈ front, token.stops = false := by
  induction front with
  | nil => simp
  | cons token front ih =>
    rw [List.cons_append] at h
    generalize hrest : front ++ back = rest at h
    cases h with
    | last => exact absurd (List.append_eq_nil_iff.1 hrest).2 hback
    | cons htoken h => exact List.forall_mem_cons.2 ⟨htoken, ih (hrest ▸ h)⟩

theorem ended_append {body : List Token} {last : Token}
    (hbody : ∀ token ∈ body, token.stops = false) (hlast : last.stops) : Ended (body ++ [last]) := by
  induction body with
  | nil => exact .last hlast
  | cons token body ih =>
    obtain ⟨htoken, hbody⟩ := List.forall_mem_cons.1 hbody
    exact .cons htoken (ih hbody)

theorem ended_tokensOf (cs : List Char) : Ended (tokensOf cs) := by
  obtain ⟨body, last, hshapes, hlast, hbody, -⟩ := exists_shapesOf_brace cs
  obtain ⟨tokens, ends, htokens, rfl, hends⟩ := List.map_eq_append_iff.1 hshapes
  obtain ⟨found, rfl, rfl⟩ := List.map_eq_singleton_iff.1 hends
  rw [htokens]
  refine ended_append (fun token htoken => ?_) (by rwa [stops_shape] at hlast)
  rw [← stops_shape]
  exact hbody _ (List.mem_map_of_mem htoken)

/-- What is read to its end holds no fault. -/
theorem Ended.invalid_not_mem {tokens : List Token} (h : Ended tokens)
    (hend : .endOfInput ∈ tokens) (fault : LexicalFault) : .invalid fault ∉ tokens := by
  induction h with
  | last =>
    obtain rfl := List.mem_singleton.1 hend
    simp
  | @cons token tokens htoken _ ih =>
    rcases List.mem_cons.1 hend with rfl | hend
    · cases htoken
    · rw [List.mem_cons, not_or]
      refine ⟨?_, ih hend⟩
      rintro rfl
      cases htoken

/-- A parser takes words of the language of what it gives. -/
def Sound {α : Type} (parser : Parser α) (L : α → Language Token) : Prop :=
  ∀ tokens, Ended tokens → ∀ a rest, parser.run tokens = .ok (a, rest) →
    ∃ front ∈ L a, tokens = front ++ rest ∧ Ended rest

section Sound

variable {α β : Type} {parser : Parser α}

theorem Sound.bind {next : α → Parser β} {L : α → Language Token} {M : α → β → Language Token}
    {N : β → Language Token} (h : Sound parser L) (hnext : ∀ a, Sound (next a) (M a))
    (hN : ∀ a b, L a * M a b ≤ N b) : Sound (parser >>= next) N := by
  intro tokens htokens b rest hrun
  obtain ⟨⟨a, left⟩, hfirst, hrest⟩ := bind_eq_ok_iff.1 hrun
  obtain ⟨front, hfront, rfl, hleft⟩ := h tokens htokens a left hfirst
  obtain ⟨behind, hbehind, rfl, hended⟩ := hnext a left hleft b rest hrest
  exact ⟨front ++ behind, hN a b (Language.append_mem_mul hfront hbehind), by simp, hended⟩

theorem Sound.weaken {L M : α → Language Token} (h : Sound parser L) (hM : ∀ a, L a ≤ M a) :
    Sound parser M := by
  intro tokens htokens a rest hrun
  obtain ⟨front, hfront, hrest⟩ := h tokens htokens a rest hrun
  exact ⟨front, hM a hfront, hrest⟩

/-- What is taken first does not depend on the result. -/
theorem Sound.seq {next : α → Parser β} {L : Language Token} {M : β → Language Token}
    (h : Sound parser fun _ => L) (hnext : ∀ a, Sound (next a) M) :
    Sound (parser >>= next) fun b => L * M b :=
  h.bind hnext fun _ _ => le_rfl

theorem sound_pure {a : α} {L : α → Language Token} (h : [] ∈ L a) : Sound (pure a) L := by
  intro tokens htokens b rest hrun
  cases hrun
  exact ⟨[], h, rfl, htokens⟩

/-- What is done to a result takes no tokens. -/
theorem Sound.map {L : α → Language Token} (h : Sound parser L) (f : α → β) :
    Sound (parser >>= fun a => pure (f a)) fun b => {tokens | ∃ a, b = f a ∧ tokens ∈ L a} := by
  intro tokens htokens b rest hrun
  obtain ⟨⟨a, left⟩, hfirst, hpure⟩ := bind_eq_ok_iff.1 hrun
  cases hpure
  obtain ⟨front, hfront, hrest⟩ := h tokens htokens a rest hfirst
  exact ⟨front, ⟨a, rfl, hfront⟩, hrest⟩

theorem Sound.result {L : Language Token} (h : Sound parser fun _ => L) (f : α → β) :
    Sound (parser >>= fun a => pure (f a)) fun _ => L :=
  (h.map f).weaken fun _ _ ⟨_, _, htokens⟩ => htokens

/-- What is looked at takes no tokens either. -/
theorem Sound.behind {next : α → Parser β} {M : β → Language Token}
    (h : Sound parser fun _ => 1) (hnext : ∀ a, Sound (next a) M) : Sound (parser >>= next) M :=
  h.bind hnext fun _ _ => by rw [one_mul]

theorem sound_throw (failure : Failure) (L : α → Language Token) :
    Sound (throw failure) L := by
  intro tokens _ b rest hrun
  cases hrun

theorem sound_get : Sound get fun _ => 1 := by
  intro tokens htokens b rest hrun
  cases hrun
  exact ⟨[], rfl, rfl, htokens⟩

theorem sound_ite {c : Prop} [Decidable c] {yes no : Parser α} {L : α → Language Token}
    (hyes : Sound yes L) (hno : Sound no L) : Sound (if c then yes else no) L := by
  split
  · exact hyes
  · exact hno

end Sound

/-! ### Single tokens -/

theorem advance_run {token : Token} {tokens rest : List Token} (h : Ended (token :: tokens))
    (htoken : token.stops = false) {a : Unit}
    (hrun : advance.run (token :: tokens) = .ok (a, rest)) : rest = tokens ∧ Ended rest := by
  have hbehind := h.behind htoken
  rcases tokens with _ | ⟨next, tokens⟩
  · cases hbehind
  · have hmove : advance.run (token :: next :: tokens) = (moveTo (next :: tokens)).run
        (token :: next :: tokens) := rfl
    rw [hmove] at hrun
    unfold moveTo at hrun
    split at hrun
    · cases hrun
    · cases hrun
      exact ⟨rfl, hbehind⟩

theorem sound_current : Sound current fun _ => 1 :=
  Sound.result sound_get _

theorem sound_failHere {α : Type} (fault : SyntaxFault) (L : α → Language Token) :
    Sound (failHere fault) L :=
  Sound.behind sound_get fun _ => sound_throw _ L

theorem sound_unexpectedHere {α : Type} (L : α → Language Token) : Sound unexpectedHere L :=
  Sound.behind sound_current fun _ => sound_failHere _ L

/-- The current token is taken if a parser goes on behind it. -/
theorem sound_advance {α : Type} {a : α} {token : Token} (htoken : token.stops = false)
    {tokens : List Token} (htokens : Ended (token :: tokens)) {b : α} {rest : List Token}
    (hrun : (advance >>= fun _ => pure a : Parser α).run (token :: tokens) = .ok (b, rest)) :
    b = a ∧ rest = tokens ∧ Ended rest := by
  obtain ⟨⟨_, left⟩, hadvance, hpure⟩ := bind_eq_ok_iff.1 hrun
  cases hpure
  exact ⟨rfl, advance_run htokens htoken hadvance⟩

theorem sound_skip? {token : Token} (htoken : token.stops = false) :
    Sound (skip? token) fun found => if found then {[token]} else 1 := by
  intro tokens htokens found rest hrun
  rcases tokens with _ | ⟨first, tokens⟩
  · cases htokens
  · have hskip : (skip? token).run (first :: tokens) = (if first = token then
        (advance >>= fun _ => pure true : Parser Bool) else pure false).run (first :: tokens) := rfl
    rw [hskip] at hrun
    split at hrun
    · next hfirst =>
      subst hfirst
      obtain ⟨rfl, rfl, hended⟩ := sound_advance htoken htokens hrun
      exact ⟨[first], rfl, rfl, hended⟩
    · cases hrun
      exact ⟨[], rfl, rfl, htokens⟩

/-- One of two parsers, as the current token is one that is taken or not. -/
theorem sound_skip_ite {α : Type} {mark : Punctuator} {yes no : Parser α}
    {L M N : α → Language Token} (hyes : Sound yes L) (hno : Sound no M)
    (hN : ∀ a, M a + marks mark * L a ≤ N a) :
    Sound (do if ← skip? (.punctuator mark) then yes else no) N := by
  refine (sound_skip? rfl).bind (M := fun found a => if found then L a else M a)
    (fun found => ?_) fun found a => ?_
  · cases found
    · exact hno
    · exact hyes
  · cases found
    · rw [if_neg Bool.false_ne_true, if_neg Bool.false_ne_true, one_mul]
      exact le_sup_left.trans (hN a)
    · exact le_sup_right.trans (hN a)

theorem sound_expectMark (mark : Punctuator) : Sound (expectMark mark) fun _ => marks mark := by
  refine sound_skip_ite (sound_pure (L := fun _ => 1) rfl) (M := fun _ => 0) ?_ fun _ => ?_
  · exact Sound.behind sound_current fun _ => sound_failHere _ _
  · rw [zero_add, mul_one]

theorem sound_name : Sound name fun text => {[.name text]} := by
  intro tokens htokens text rest hrun
  rcases tokens with _ | ⟨token, tokens⟩
  · cases htokens
  · cases token with
    | name found =>
      obtain ⟨rfl, rfl, hended⟩ := sound_advance rfl htokens hrun
      exact ⟨[.name text], rfl, rfl, hended⟩
    | _ => cases hrun

theorem sound_atMark (mark : Punctuator) : Sound (atMark mark) fun _ => 1 :=
  Sound.result sound_current _

/-- Names are taken whatever they are. -/
theorem sound_anyName : Sound name fun _ => names :=
  Sound.weaken sound_name fun text => by
    rintro _ rfl
    exact ⟨text, rfl⟩

/-! ### Repetition -/

section Items

variable {α : Type} {item : Parser α} {L : α → Language Token} (h : Sound item L)

include h

/-- One item in front of others, of which the words stand one behind the other. -/
theorem sound_cons {more : Parser (List α)} {close : Language Token}
    (hmore : Sound more fun items => (items.map L).prod * close) :
    Sound (do let first ← item; return first :: (← more)) fun items =>
      {tokens | items ≠ [] ∧ tokens ∈ (items.map L).prod * close} := by
  refine h.bind (fun first => hmore.map (first :: ·)) fun first items => ?_
  rintro _ ⟨front, hfront, back, ⟨rest, rfl, hback⟩, rfl⟩
  refine ⟨List.cons_ne_nil _ _, ?_⟩
  rw [List.map_cons, List.prod_cons, mul_assoc]
  exact Language.append_mem_mul hfront hback

theorem sound_itemsUntil (close : Punctuator) (bound : Nat) :
    Sound (itemsUntil (.punctuator close) item bound) fun items =>
      (items.map L).prod * marks close := by
  induction bound with
  | zero => exact sound_unexpectedHere _
  | succ bound ih =>
    refine sound_skip_ite (L := fun items => {tokens | items = [] ∧ tokens = []})
      (sound_pure ⟨rfl, rfl⟩) (sound_cons h ih) fun items => ?_
    rintro tokens (htokens | ⟨_, rfl, _, ⟨rfl, rfl⟩, rfl⟩)
    · exact htokens.2
    · exact Language.append_mem_mul (a := []) rfl rfl

theorem sound_manyUntil (close : Punctuator) :
    Sound (manyUntil (.punctuator close) item) fun items =>
      {tokens | items ≠ [] ∧ tokens ∈ (items.map L).prod * marks close} :=
  sound_cons h (Sound.behind sound_get fun tokens => sound_itemsUntil h close tokens.length)

end Items

section Repetition

variable {α : Type} {item : Parser α} {L : Language Token} (h : Sound item fun _ => L)

include h

theorem sound_anyUntil (close : Punctuator) :
    Sound (anyUntil (.punctuator close) item) fun _ => L∗ * marks close := by
  refine Sound.behind sound_get fun tokens =>
    (sound_itemsUntil h close tokens.length).weaken fun items => mul_le_mul' ?_ le_rfl
  rw [List.map_const', List.prod_replicate]
  exact pow_le_kstar

theorem sound_optionalIn (opening close : Punctuator) :
    Sound (optionalIn opening close item) fun _ =>
      1 + marks opening * (L * L∗) * marks close := by
  have hmany : Sound (manyUntil (.punctuator close) item) fun _ => L * L∗ * marks close := by
    refine (sound_manyUntil h close).weaken fun items => ?_
    rintro tokens ⟨hitems, htokens⟩
    obtain ⟨first, rest, rfl⟩ := List.exists_cons_of_ne_nil hitems
    rw [List.map_const', List.prod_replicate, List.length_cons, pow_succ'] at htokens
    have hle : L * L ^ rest.length * marks close ≤ L * L∗ * marks close :=
      mul_le_mul' (mul_le_mul' le_rfl pow_le_kstar) le_rfl
    exact hle htokens
  refine sound_skip_ite hmany (sound_pure (L := fun _ => 1) rfl) fun _ => ?_
  rw [mul_assoc (marks opening)]

theorem sound_itemsWhile (mark : Punctuator) (bound : Nat) :
    Sound (itemsWhile mark item bound) fun _ => L∗ := by
  induction bound with
  | zero => exact sound_pure (Language.nil_mem_kstar L)
  | succ bound ih =>
    refine (sound_atMark mark).behind fun _ =>
      sound_ite ?_ (sound_pure (Language.nil_mem_kstar L))
    exact (h.seq fun _ => ih.result _).weaken fun _ => mul_kstar_le_kstar

end Repetition

/-! ### Values, arguments and directives -/

theorem sound_variableIn : Sound (variableIn false) fun _ => marks .dollar * names := by
  refine Sound.behind sound_get fun _ => (sound_expectMark .dollar).seq fun _ => ?_
  exact Sound.result sound_anyName _

theorem sound_flatValue : Sound (flatValue false) fun _ => flatValues := by
  intro tokens htokens a rest hrun
  rcases tokens with _ | ⟨token, tokens⟩
  · cases htokens
  · have hflat : token.isFlat → token.stops = false → ∀ b,
        (advance >>= fun _ => pure b : Parser (Option RawText)).run (token :: tokens) =
          .ok (a, rest) →
        ∃ front ∈ flatValues, token :: tokens = front ++ rest ∧ Ended rest := by
      intro hflat hstops b hrun
      obtain ⟨-, rfl, hended⟩ := sound_advance hstops htokens hrun
      exact ⟨[token], .inl ⟨token, hflat, rfl⟩, rfl, hended⟩
    cases token with
    | punctuator mark =>
      by_cases hmark : mark = .dollar
      · subst hmark
        have hvariable : Sound (variableIn false >>= fun _ => pure none : Parser (Option RawText))
            fun _ => flatValues :=
          (Sound.result sound_variableIn _).weaken fun _ => le_sup_right
        exact hvariable _ htokens a rest hrun
      · cases mark <;> first | exact absurd rfl hmark | cases hrun
    | endOfInput => cases hrun
    | invalid fault => cases hrun
    | _ => exact hflat rfl rfl _ hrun

theorem sound_member {value : Parser (Option RawText)} {L : Language Token}
    (h : Sound value fun _ => L) : Sound (member value) fun _ => names * marks .colon * L := by
  rw [mul_assoc]
  exact Sound.seq sound_anyName fun _ => (sound_expectMark .colon).seq fun _ => h.result _

theorem sound_valueAt (room : Nat) : Sound (valueAt false room) fun _ => values room := by
  induction room with
  | zero =>
    exact (sound_atMark _).behind fun _ => (sound_atMark _).behind fun _ =>
      sound_ite (sound_failHere _ _) sound_flatValue
  | succ room ih =>
    refine sound_skip_ite ((sound_anyUntil ih .bracketRight).result _)
      (sound_skip_ite ((sound_anyUntil (sound_member ih) .braceRight).result _)
        sound_flatValue (N := fun _ => _) fun _ => le_rfl) fun _ => ?_
    rw [values, mul_assoc (marks .bracketLeft), mul_assoc (marks .braceLeft), add_right_comm]

theorem sound_argumentsAt (room : Nat) :
    Sound (argumentsAt room false) fun _ => argumentLists room := by
  refine sound_optionalIn (L := argumentsOf room) ?_ _ _
  rw [argumentsOf, mul_assoc]
  exact Sound.seq sound_anyName fun _ => (sound_expectMark .colon).seq fun _ =>
    (sound_valueAt room).result _

theorem sound_directivesAt (room : Nat) :
    Sound (directivesAt room false) fun _ => directiveLists room := by
  refine Sound.behind sound_get fun _ => sound_itemsWhile ?_ _ _
  rw [mul_assoc]
  exact (sound_expectMark .atSign).seq fun _ => Sound.seq sound_anyName fun _ =>
    (sound_argumentsAt room).result _

end ResolverTypings.Graphql
