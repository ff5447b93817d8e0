import ResolverTypings.Graphql.Document
import ResolverTypings.Proofs.Graphql.Grammar

/-!
# Words that the parsers of values, arguments and directives take

A parser takes a language if it reads each of its words off the front of any tokens that do
not go on with it. When it has taken a word it looks at the token behind it, which must be one
that the reading can go on to and that does not continue the word.
-/
namespace ResolverTypings.Graphql

open Computability
open Text (RawText)

/-! ## Taking words -/

/-- A token that the reading can go on to. -/
def Token.Valid (token : Token) : Prop :=
  ∀ fault, token ≠ .invalid fault

/-- A parser takes the words of a language off any tokens that go on with one of a kind. -/
def Takes {α : Type} (parser : Parser α) (L : Language Token) (follows : Token → Prop) : Prop :=
  ∀ front ∈ L, ∀ follower rest, follows follower →
    ∃ a, parser.run (front ++ follower :: rest) = .ok (a, follower :: rest)

/-- The words of a language start with a token of a kind. -/
def Begins (L : Language Token) (P : Token → Prop) : Prop :=
  ∀ front ∈ L, ∃ first more, front = first :: more ∧ P first

section Begins

variable {L M : Language Token} {P Q : Token → Prop}

theorem Begins.mul (h : Begins L P) : Begins (L * M) P := by
  rintro _ ⟨front, hfront, back, -, rfl⟩
  obtain ⟨first, more, rfl, hfirst⟩ := h front hfront
  exact ⟨first, more ++ back, rfl, hfirst⟩

theorem Begins.add (h : Begins L P) (h' : Begins M P) : Begins (L + M) P := by
  rintro front (hfront | hfront)
  · exact h front hfront
  · exact h' front hfront

theorem Begins.imp (h : Begins L P) (himp : ∀ token, P token → Q token) : Begins L Q := by
  intro front hfront
  obtain ⟨first, more, rfl, hfirst⟩ := h front hfront
  exact ⟨first, more, rfl, himp first hfirst⟩

theorem begins_marks {mark : Punctuator} (h : P (.punctuator mark)) : Begins (marks mark) P := by
  rintro _ rfl
  exact ⟨_, [], rfl, h⟩

theorem begins_names (h : ∀ text, P (.name text)) : Begins names P := by
  rintro _ ⟨text, rfl⟩
  exact ⟨_, [], rfl, h text⟩

end Begins

section Takes

variable {α β : Type} {parser : Parser α} {L M : Language Token} {F G : Token → Prop}

theorem run_bind_of_ok {next : α → Parser β} {tokens left : List Token} {a : α}
    (h : parser.run tokens = .ok (a, left)) : (parser >>= next).run tokens = (next a).run left := by
  rw [StateT.run_bind, h]
  rfl

/-- One parser behind another: what the second takes, or what follows that if it takes
nothing, is what the first looks at. -/
theorem Takes.seq {next : α → Parser β} (h : Takes parser L F) (hnext : ∀ a, Takes (next a) M G)
    (hF : ∀ back ∈ M, ∀ follower, G follower → F (back.headD follower)) :
    Takes (parser >>= next) (L * M) G := by
  rintro _ ⟨front, hfront, back, hback, rfl⟩ follower rest hfollower
  obtain ⟨left, hleft⟩ : ∃ left, back ++ follower :: rest = back.headD follower :: left := by
    cases back with
    | nil => exact ⟨rest, rfl⟩
    | cons first more => exact ⟨more ++ follower :: rest, rfl⟩
  obtain ⟨a, ha⟩ := h front hfront _ left (hF back hback follower hfollower)
  obtain ⟨b, hb⟩ := hnext a back hback follower rest hfollower
  have hfirst : parser.run ((front ++ back) ++ follower :: rest) =
      .ok (a, back ++ follower :: rest) := by
    rw [List.append_assoc, hleft, ha]
  exact ⟨b, (run_bind_of_ok hfirst).trans hb⟩

theorem Takes.seq_begins {next : α → Parser β} (h : Takes parser L F)
    (hnext : ∀ a, Takes (next a) M G) (hM : Begins M F) : Takes (parser >>= next) (L * M) G := by
  refine h.seq hnext fun back hback follower _ => ?_
  obtain ⟨first, more, rfl, hfirst⟩ := hM back hback
  exact hfirst

theorem Takes.result (h : Takes parser L F) (f : α → β) :
    Takes (parser >>= fun a => pure (f a)) L F := by
  intro front hfront follower rest hfollower
  obtain ⟨a, ha⟩ := h front hfront follower rest hfollower
  exact ⟨f a, (run_bind_of_ok ha).trans rfl⟩

/-- The tokens that are left are looked at, and no more. -/
theorem takes_get_bind {next : List Token → Parser β}
    (h : ∀ front ∈ L, ∀ follower rest, F follower →
      ∃ b, (next (front ++ follower :: rest)).run (front ++ follower :: rest) =
        .ok (b, follower :: rest)) : Takes (get >>= next) L F :=
  h

theorem run_advance {token follower : Token} (h : follower.Valid) (rest : List Token) :
    advance.run (token :: follower :: rest) = .ok ((), follower :: rest) := by
  have hmove : advance.run (token :: follower :: rest) =
      (moveTo (follower :: rest)).run (token :: follower :: rest) := rfl
  rw [hmove]
  unfold moveTo
  split
  · next heq => exact absurd (List.cons.inj heq).1 (h _)
  · rfl

theorem run_skip?_of_eq {token follower : Token} (h : follower.Valid) (rest : List Token) :
    (skip? token).run (token :: follower :: rest) = .ok (true, follower :: rest) := by
  have hskip : (skip? token).run (token :: follower :: rest) = (if token = token then
      (advance >>= fun _ => pure true : Parser Bool) else pure false).run
        (token :: follower :: rest) := rfl
  rw [hskip, if_pos rfl, run_bind_of_ok (run_advance h rest)]
  rfl

theorem run_skip?_of_ne {token first : Token} (h : first ≠ token) (rest : List Token) :
    (skip? token).run (first :: rest) = .ok (false, first :: rest) := by
  have hskip : (skip? token).run (first :: rest) = (if first = token then
      (advance >>= fun _ => pure true : Parser Bool) else pure false).run (first :: rest) := rfl
  rw [hskip, if_neg h]
  rfl

theorem run_atMark (mark : Punctuator) (rest : List Token) :
    (atMark mark).run (.punctuator mark :: rest) = .ok (true, .punctuator mark :: rest) := by
  have hat : (atMark mark).run (.punctuator mark :: rest) =
      .ok (decide (Token.punctuator mark = .punctuator mark), .punctuator mark :: rest) := rfl
  rw [hat, decide_eq_true rfl]

theorem run_atMark_of_ne {mark : Punctuator} {first : Token} (h : first ≠ .punctuator mark)
    (rest : List Token) : (atMark mark).run (first :: rest) = .ok (false, first :: rest) := by
  have hat : (atMark mark).run (first :: rest) =
      .ok (decide (first = .punctuator mark), first :: rest) := rfl
  rw [hat, decide_eq_false h]

/-- One of two parsers, as the current token is a mark or not. -/
theorem takes_skip_ite {mark : Punctuator} {yes no : Parser α} (hyes : Takes yes L F)
    (hL : Begins L Token.Valid) (hno : Takes no M F) (hM : Begins M (· ≠ .punctuator mark)) :
    Takes (do if ← skip? (.punctuator mark) then yes else no) (M + marks mark * L) F := by
  rintro front (hfront | ⟨_, rfl, front, hfront, rfl⟩) follower rest hfollower
  · obtain ⟨a, ha⟩ := hno front hfront follower rest hfollower
    obtain ⟨first, more, rfl, hne⟩ := hM front hfront
    exact ⟨a, (run_bind_of_ok (run_skip?_of_ne hne _)).trans ha⟩
  · obtain ⟨a, ha⟩ := hyes front hfront follower rest hfollower
    obtain ⟨first, more, rfl, hvalid⟩ := hL front hfront
    exact ⟨a, (run_bind_of_ok (run_skip?_of_eq hvalid _)).trans ha⟩

theorem takes_expectMark (mark : Punctuator) :
    Takes (expectMark mark) (marks mark) Token.Valid := by
  rintro _ rfl follower rest hfollower
  exact ⟨(), (run_bind_of_ok (run_skip?_of_eq hfollower rest)).trans rfl⟩

theorem run_name (text : String) {follower : Token} (h : follower.Valid) (rest : List Token) :
    name.run (.name text :: follower :: rest) = .ok (text, follower :: rest) := by
  have hadvance : (advance >>= fun _ => pure text).run (.name text :: follower :: rest) =
      .ok (text, follower :: rest) := (run_bind_of_ok (run_advance h rest)).trans rfl
  exact hadvance

theorem takes_name : Takes name names Token.Valid := by
  rintro _ ⟨text, rfl⟩ follower rest hfollower
  exact ⟨text, run_name text hfollower rest⟩

end Takes

/-! ### Repetition -/

section Repetition

variable {α : Type} {item : Parser α} {L : Language Token}

theorem length_le_length_flatten {fronts : List (List Token)} {P : Token → Prop}
    (hL : Begins L P) (hfronts : ∀ front ∈ fronts, front ∈ L) :
    fronts.length ≤ fronts.flatten.length := by
  induction fronts with
  | nil => exact Nat.le_refl _
  | cons front fronts ih =>
    obtain ⟨first, more, rfl, -⟩ := hL front (hfronts front (by simp))
    have hrest := ih fun front hfront => hfronts front (by simp [hfront])
    simp only [List.flatten_cons, List.length_append, List.length_cons]
    omega

/-- Behind some items stands the next one or what follows them all. -/
theorem exists_cons_flatten {fronts : List (List Token)} {P : Token → Prop} (hL : Begins L P)
    (hfronts : ∀ front ∈ fronts, front ∈ L) {follower : Token} (hfollower : P follower)
    (rest : List Token) :
    ∃ next left, fronts.flatten ++ follower :: rest = next :: left ∧ P next := by
  cases fronts with
  | nil => exact ⟨follower, rest, rfl, hfollower⟩
  | cons front fronts =>
    obtain ⟨first, more, rfl, hfirst⟩ := hL front (hfronts front List.mem_cons_self)
    exact ⟨first, _, rfl, hfirst⟩

theorem begins_kstar_mul_marks {P : Token → Prop} (hL : Begins L P) {close : Punctuator}
    (hclose : P (.punctuator close)) : Begins (L∗ * marks close) P := by
  rintro _ ⟨_, ⟨fronts, rfl, hfronts⟩, _, rfl, rfl⟩
  exact exists_cons_flatten hL hfronts hclose []

/-- Items of which none starts with the closing mark are taken up to that. -/
theorem takes_anyUntil (close : Punctuator) (h : Takes item L Token.Valid)
    (hL : Begins L fun first => first.Valid ∧ first ≠ .punctuator close) :
    Takes (anyUntil (.punctuator close) item) (L∗ * marks close) Token.Valid := by
  have hitems : ∀ (fronts : List (List Token)) (bound : Nat), fronts.length < bound →
      (∀ front ∈ fronts, front ∈ L) → ∀ follower : Token, follower.Valid → ∀ rest,
      ∃ items, (itemsUntil (.punctuator close) item bound).run
        (fronts.flatten ++ .punctuator close :: follower :: rest) =
          .ok (items, follower :: rest) := by
    intro fronts bound hbound hfronts follower hfollower rest
    induction fronts generalizing bound with
    | nil =>
      obtain ⟨bound, rfl⟩ : ∃ n, bound = n + 1 := ⟨bound - 1, by omega⟩
      exact ⟨[], (run_bind_of_ok (run_skip?_of_eq hfollower rest)).trans rfl⟩
    | cons front fronts ih =>
      obtain ⟨bound, rfl⟩ : ∃ n, bound = n + 1 := ⟨bound - 1, by omega⟩
      obtain ⟨items, hitems⟩ := ih bound (by simpa using hbound)
        (List.forall_mem_cons.1 hfronts).2
      obtain ⟨next, left, hleft, hnext⟩ := exists_cons_flatten (hL.imp fun _ h => h.1)
        (List.forall_mem_cons.1 hfronts).2
        (fun fault => by simp : (Token.punctuator close).Valid) (follower :: rest)
      obtain ⟨first, more, rfl, hvalid, hne⟩ := hL front (hfronts front List.mem_cons_self)
      obtain ⟨a, ha⟩ := h (first :: more) (hfronts _ List.mem_cons_self) next left hnext
      rw [hleft] at hitems
      rw [List.flatten_cons, List.append_assoc, hleft]
      have hrest : (itemsUntil (.punctuator close) item bound >>= fun items =>
          pure (a :: items)).run (next :: left) = .ok (a :: items, follower :: rest) :=
        (run_bind_of_ok hitems).trans rfl
      refine ⟨a :: items, (run_bind_of_ok (run_skip?_of_ne hne _)).trans ?_⟩
      exact (run_bind_of_ok ha).trans hrest
  rintro _ ⟨_, ⟨fronts, rfl, hfronts⟩, _, rfl, rfl⟩ follower rest hfollower
  rw [List.append_assoc]
  refine hitems fronts _ ?_ hfronts follower hfollower rest
  have hle := length_le_length_flatten hL hfronts
  simp only [List.length_append, List.length_cons]
  omega

theorem takes_manyUntil (close : Punctuator) (h : Takes item L Token.Valid)
    (hL : Begins L fun first => first.Valid ∧ first ≠ .punctuator close) :
    Takes (manyUntil (.punctuator close) item) (L * L∗ * marks close) Token.Valid := by
  rw [mul_assoc]
  exact h.seq_begins (fun _ => (takes_anyUntil close h hL).result _)
    (begins_kstar_mul_marks (hL.imp fun _ h => h.1) fun fault => by simp)

theorem takes_optionalIn (opening close : Punctuator) (h : Takes item L Token.Valid)
    (hL : Begins L fun first => first.Valid ∧ first ≠ .punctuator close) :
    Takes (optionalIn opening close item) (1 + marks opening * (L * L∗) * marks close)
      fun follower => follower.Valid ∧ follower ≠ .punctuator opening := by
  rintro front (rfl | hfront) follower rest ⟨hfollower, hne⟩
  · exact ⟨[], (run_bind_of_ok (run_skip?_of_ne hne rest)).trans rfl⟩
  · rw [mul_assoc] at hfront
    obtain ⟨_, rfl, items, hitems, rfl⟩ := hfront
    obtain ⟨a, ha⟩ := takes_manyUntil close h hL items hitems follower rest hfollower
    have hvalid : ∃ first left, items ++ follower :: rest = first :: left ∧ first.Valid := by
      obtain ⟨first, more, rfl, hfirst⟩ := (hL.mul.mul (M := marks close)) items hitems
      exact ⟨first, _, rfl, hfirst.1⟩
    obtain ⟨first, left, hleft, hfirst⟩ := hvalid
    rw [List.append_assoc, hleft]
    rw [hleft] at ha
    exact ⟨a, (run_bind_of_ok (run_skip?_of_eq hfirst left)).trans ha⟩

/-- Items that all start with a mark are taken as long as that stands there. -/
theorem takes_itemsWhile (mark : Punctuator) {F : Token → Prop} (h : Takes item L F)
    (hL : Begins L (· = .punctuator mark)) (hmark : F (.punctuator mark)) :
    Takes (get >>= fun tokens => itemsWhile mark item tokens.length) L∗
      fun follower => F follower ∧ follower ≠ .punctuator mark := by
  have hitems : ∀ (fronts : List (List Token)) (bound : Nat), fronts.length ≤ bound →
      (∀ front ∈ fronts, front ∈ L) → ∀ follower : Token, F follower →
      follower ≠ .punctuator mark → ∀ rest,
      ∃ items, (itemsWhile mark item bound).run (fronts.flatten ++ follower :: rest) =
        .ok (items, follower :: rest) := by
    intro fronts bound hbound hfronts follower hfollower hne rest
    induction fronts generalizing bound with
    | nil =>
      cases bound with
      | zero => exact ⟨[], rfl⟩
      | succ bound => exact ⟨[], (run_bind_of_ok (run_atMark_of_ne hne rest)).trans rfl⟩
    | cons front fronts ih =>
      obtain ⟨bound, rfl⟩ : ∃ n, bound = n + 1 := ⟨bound - 1, by simp at hbound; omega⟩
      obtain ⟨items, hitems⟩ := ih bound (by simpa using hbound)
        (List.forall_mem_cons.1 hfronts).2
      obtain ⟨next, left, hleft, hnext⟩ := exists_cons_flatten (hL.imp fun _ h => h ▸ hmark)
        (List.forall_mem_cons.1 hfronts).2 hfollower rest
      obtain ⟨_, more, rfl, rfl⟩ := hL front (hfronts front List.mem_cons_self)
      obtain ⟨a, ha⟩ := h (.punctuator mark :: more) (hfronts _ List.mem_cons_self) next left hnext
      rw [hleft] at hitems
      rw [List.flatten_cons, List.append_assoc, hleft]
      have hrest : (itemsWhile mark item bound >>= fun items => pure (a :: items)).run
          (next :: left) = .ok (a :: items, follower :: rest) :=
        (run_bind_of_ok hitems).trans rfl
      refine ⟨a :: items, (run_bind_of_ok (run_atMark mark _)).trans ?_⟩
      exact (run_bind_of_ok ha).trans hrest
  refine takes_get_bind ?_
  rintro _ ⟨fronts, rfl, hfronts⟩ follower rest ⟨hfollower, hne⟩
  refine hitems fronts _ ?_ hfronts follower hfollower hne rest
  have hle := length_le_length_flatten hL hfronts
  simp only [List.length_append, List.length_cons]
  omega

end Repetition

/-! ### Values, arguments and directives -/

theorem begins_flatValues {P : Token → Prop} (hflat : ∀ token : Token, token.isFlat → P token)
    (hdollar : P (.punctuator .dollar)) : Begins flatValues P := by
  refine Begins.add ?_ (begins_marks hdollar).mul
  rintro _ ⟨token, htoken, rfl⟩
  exact ⟨token, [], rfl, hflat token htoken⟩

/-- A value starts with a token that is one, a dollar or an opening bracket or brace. -/
theorem begins_values (room : Nat) : Begins (values room) fun first =>
    first.Valid ∧ first ≠ .punctuator .bracketRight ∧ first ≠ .punctuator .braceRight := by
  have hflat : Begins flatValues fun first =>
      first.Valid ∧ first ≠ .punctuator .bracketRight ∧ first ≠ .punctuator .braceRight := by
    refine begins_flatValues (fun token htoken => ?_) (by simp [Token.Valid])
    cases token <;> simp_all [Token.isFlat, Token.Valid]
  cases room with
  | zero => exact hflat
  | succ room =>
    refine (hflat.add ?_).add ?_
    · exact (begins_marks (by simp [Token.Valid])).mul.mul
    · exact (begins_marks (by simp [Token.Valid])).mul.mul

theorem takes_variableIn :
    Takes (variableIn false) (marks .dollar * names) Token.Valid := by
  have hnames : Takes (expectMark .dollar >>= fun _ => name >>= fun _ => pure ())
      (marks .dollar * names) Token.Valid :=
    (takes_expectMark .dollar).seq_begins (fun _ => Takes.result takes_name _)
      (begins_names fun text fault => by simp)
  exact takes_get_bind hnames

theorem takes_flatValue : Takes (flatValue false) flatValues Token.Valid := by
  rintro front (⟨token, htoken, rfl⟩ | hvariable) follower rest hfollower
  · have hadvance : ∀ b : Option RawText, (advance >>= fun _ => pure b : Parser (Option RawText)).run
        (token :: follower :: rest) = .ok (b, follower :: rest) :=
      fun b => (run_bind_of_ok (run_advance hfollower rest)).trans rfl
    cases token with
    | string text => exact ⟨some text, hadvance _⟩
    | blockString text => exact ⟨some text, hadvance _⟩
    | name text => exact ⟨none, hadvance _⟩
    | int text => exact ⟨none, hadvance _⟩
    | float text => exact ⟨none, hadvance _⟩
    | _ => simp [Token.isFlat] at htoken
  · obtain ⟨_, rfl, _, ⟨text, rfl⟩, rfl⟩ := hvariable
    exact (Takes.result takes_variableIn fun _ => none) _
      (Language.append_mem_mul rfl ⟨text, rfl⟩) follower rest hfollower

theorem takes_member {value : Parser (Option RawText)} {L : Language Token}
    (h : Takes value L Token.Valid) (hL : Begins L Token.Valid) :
    Takes (member value) (names * marks .colon * L) Token.Valid := by
  rw [mul_assoc]
  refine Takes.seq_begins takes_name (fun _ => ?_) (begins_marks fun fault => by simp).mul
  exact (takes_expectMark .colon).seq_begins (fun _ => h.result _) hL

theorem takes_valueAt (room : Nat) : Takes (valueAt false room) (values room) Token.Valid := by
  have hvalid : ∀ mark : Punctuator, (Token.punctuator mark).Valid := fun mark fault => by simp
  induction room with
  | zero =>
    intro front hfront follower rest hfollower
    obtain ⟨a, ha⟩ := takes_flatValue front hfront follower rest hfollower
    obtain ⟨first, more, rfl, hbracket, hbrace⟩ := begins_flatValues
      (P := fun token => token ≠ .punctuator .bracketLeft ∧ token ≠ .punctuator .braceLeft)
      (fun token htoken => by cases token <;> simp_all [Token.isFlat]) (by simp) front hfront
    exact ⟨a, (run_bind_of_ok (run_atMark_of_ne hbracket _)).trans
      ((run_bind_of_ok (run_atMark_of_ne hbrace _)).trans ha)⟩
  | succ room ih =>
    have hbegins := begins_values room
    have hitems : Begins (values room) Token.Valid := hbegins.imp fun _ h => h.1
    have hmembers : Begins (names * marks .colon * values room) fun first =>
        first.Valid ∧ first ≠ .punctuator .braceRight :=
      (begins_names fun text => by simp [Token.Valid]).mul.mul
    rw [values, mul_assoc (marks .bracketLeft), mul_assoc (marks .braceLeft), add_right_comm]
    refine takes_skip_ite ((takes_anyUntil .bracketRight ih
      (hbegins.imp fun _ h => ⟨h.1, h.2.1⟩)).result _)
      (begins_kstar_mul_marks hitems (hvalid _)) ?_ ?_
    · exact takes_skip_ite ((takes_anyUntil .braceRight (takes_member ih hitems)
        hmembers).result _) (begins_kstar_mul_marks (hmembers.imp fun _ h => h.1) (hvalid _))
        takes_flatValue (begins_flatValues
          (fun token htoken => by cases token <;> simp_all [Token.isFlat]) (by simp))
    · exact (begins_flatValues (fun token htoken => by cases token <;> simp_all [Token.isFlat])
        (by simp)).add (begins_marks (by simp)).mul

theorem takes_argumentsAt (room : Nat) : Takes (argumentsAt room false) (argumentLists room)
    fun follower => follower.Valid ∧ follower ≠ .punctuator .parenLeft := by
  refine takes_optionalIn _ _ (L := argumentsOf room) ?_ ?_
  · rw [argumentsOf, mul_assoc]
    refine Takes.seq_begins takes_name (fun _ => ?_) (begins_marks fun fault => by simp).mul
    exact (takes_expectMark .colon).seq_begins (fun _ => (takes_valueAt room).result _)
      ((begins_values room).imp fun _ h => h.1)
  · exact (begins_names fun text => by simp [Token.Valid]).mul.mul

theorem takes_directivesAt (room : Nat) : Takes (directivesAt room false) (directiveLists room)
    fun follower => (follower.Valid ∧ follower ≠ .punctuator .parenLeft) ∧
      follower ≠ .punctuator .atSign := by
  refine takes_itemsWhile .atSign ?_
    (begins_marks (P := (· = .punctuator .atSign)) rfl).mul.mul (by simp [Token.Valid])
  rw [mul_assoc]
  refine (takes_expectMark .atSign).seq_begins (fun _ => ?_)
    (begins_names fun text => by simp [Token.Valid]).mul
  refine Takes.seq takes_name (fun _ => (takes_argumentsAt room).result _) fun back hback follower h => ?_
  -- The arguments may be missing, and then the name looks at what follows the directive.
  rcases hback with rfl | hback
  · exact h.1
  · obtain ⟨first, more, rfl, hfirst⟩ :=
      (begins_marks (P := Token.Valid) fun fault => by simp).mul.mul back hback
    exact hfirst

end ResolverTypings.Graphql
