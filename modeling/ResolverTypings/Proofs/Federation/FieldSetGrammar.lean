import ResolverTypings.Federation.FieldSet
import ResolverTypings.Proofs.Graphql.Completeness
import ResolverTypings.Proofs.Graphql.Soundness

/-!
# The grammar of field sets

A field set is a sequence of fields, each with an alias, arguments and directives if it likes,
and below it in braces perhaps another one, which selects something. The parser of selection
sets reads field sets by this grammar where it finds no fragment.
-/
namespace ResolverTypings.Federation

open Graphql
open Computability

/-! ## Sequences of fields -/

/-- What may stand behind the name of a field. -/
def modifiers (room : Nat) : Language Token :=
  argumentLists room * directiveLists room

/-- A field without what is nested below it. -/
def fieldHeads (room : Nat) (name : String) : Language Token :=
  (1 + names * marks .colon) * {[.name name]} * modifiers room

/-- Tokens that list the fields of a set, nested to no more than a depth. -/
inductive IsFields : (room : Nat) → List Token → FieldSet → Prop where
  | none (room : Nat) : IsFields room [] .empty
  | leaf {room : Nat} {name : String} {head tokens : List Token} {rest : FieldSet} :
      head ∈ fieldHeads room name → IsFields room tokens rest →
      IsFields room (head ++ tokens) (.field name .empty rest)
  | nested {room : Nat} {name : String} {head inner tokens : List Token}
      {nested rest : FieldSet} :
      head ∈ fieldHeads (room + 1) name → nested ≠ .empty → IsFields room inner nested →
      IsFields (room + 1) tokens rest →
      IsFields (room + 1)
        (head ++ (.punctuator .braceLeft :: (inner ++ .punctuator .braceRight :: tokens)))
        (.field name nested rest)

namespace IsFields

theorem byShape_fieldHeads (room : Nat) (name : String) : ByShape (fieldHeads room name) :=
  ((byShape_one.add (byShape_names.mul (byShape_marks .colon))).mul (byShape_name name)).mul
    ((byShape_argumentLists room).mul (byShape_directiveLists room))

theorem fieldHeads_le_balanced (room : Nat) (name : String) : fieldHeads room name ≤ balanced := by
  refine mul_le_balanced (mul_le_balanced (sup_le one_le_balanced ?_) ?_)
    (mul_le_balanced (argumentLists_le_balanced room) (directiveLists_le_balanced room))
  · exact mul_le_balanced names_le_balanced (singleton_le_balanced fun _ => rfl)
  · exact singleton_le_balanced fun _ => rfl

/-- Whether tokens list fields shows in their shapes. -/
theorem of_shape {room : Nat} {tokens other : List Token} {set : FieldSet}
    (h : IsFields room tokens set) (hother : other.map Token.shape = tokens.map Token.shape) :
    IsFields room other set := by
  induction h generalizing other with
  | none room =>
    rw [List.map_nil, List.map_eq_nil_iff] at hother
    exact hother ▸ .none room
  | leaf hhead _ ih =>
    obtain ⟨head', tokens', rfl, hhead', htokens'⟩ :=
      List.map_eq_append_iff.1 (hother.trans List.map_append)
    exact .leaf (byShape_fieldHeads _ _ _ hhead _ hhead') (ih htokens')
  | nested hhead hne _ _ ihinner ihtokens =>
    obtain ⟨head', more, rfl, hhead', hmore⟩ :=
      List.map_eq_append_iff.1 (hother.trans List.map_append)
    obtain ⟨brace, more, rfl, hbrace, hmore⟩ := List.map_eq_cons_iff.1 hmore
    obtain ⟨inner', more, rfl, hinner', hmore⟩ :=
      List.map_eq_append_iff.1 (hmore.trans List.map_append)
    obtain ⟨brace', tokens', rfl, hbrace', htokens'⟩ := List.map_eq_cons_iff.1 hmore
    rw [eq_of_shape_punctuator hbrace, eq_of_shape_punctuator hbrace']
    exact .nested (byShape_fieldHeads _ _ _ hhead _ hhead') hne (ihinner hinner')
      (ihtokens htokens')

theorem mem_balanced {room : Nat} {tokens : List Token} {set : FieldSet}
    (h : IsFields room tokens set) : tokens ∈ balanced := by
  induction h with
  | none => exact nil_mem_balanced
  | leaf hhead _ ih => exact append_mem_balanced (fieldHeads_le_balanced _ _ hhead) ih
  | nested hhead _ _ _ ihinner ihtokens =>
    have hrest := append_mem_balanced (braces_mem_balanced ihinner) ihtokens
    simpa only [List.cons_append, List.append_assoc, List.nil_append] using
      append_mem_balanced (fieldHeads_le_balanced _ _ hhead) hrest

end IsFields

/-! ## Selections without fragments -/

theorem ofSelections_cons_eq_ok_iff {first : Selection} {rest : List Selection} {set : FieldSet} :
    FieldSet.ofSelections (first :: rest) = .ok set ↔ ∃ name nested more,
      FieldSet.ofSelection first = .ok (name, nested) ∧ FieldSet.ofSelections rest = .ok more ∧
      set = .field name nested more := by
  simp only [FieldSet.ofSelections, bind_eq_ok_iff, pure_eq_ok_iff, Prod.exists]
  constructor
  · rintro ⟨name, nested, hfirst, more, hmore, rfl⟩
    exact ⟨name, nested, more, hfirst, hmore, rfl⟩
  · rintro ⟨name, nested, more, hfirst, hmore, rfl⟩
    exact ⟨name, nested, hfirst, more, hmore, rfl⟩

theorem ofSelection_field_eq_ok_iff {key : String} {below : List Selection} {name : String}
    {nested : FieldSet} :
    FieldSet.ofSelection (.field key below) = .ok (name, nested) ↔
      name = key ∧ FieldSet.ofSelections below = .ok nested := by
  simp only [FieldSet.ofSelection, bind_eq_ok_iff, pure_eq_ok_iff, Prod.mk.injEq]
  constructor
  · rintro ⟨_, hbelow, rfl, rfl⟩
    exact ⟨rfl, hbelow⟩
  · rintro ⟨rfl, hbelow⟩
    exact ⟨nested, hbelow, rfl, rfl⟩

theorem ofSelections_eq_empty_iff {selections : List Selection} :
    FieldSet.ofSelections selections = .ok .empty ↔ selections = [] := by
  cases selections with
  | nil => simp [FieldSet.ofSelections, pure, Except.pure]
  | cons first rest => simp [ofSelections_cons_eq_ok_iff]

/-- The words of a selection that is a field. -/
def selectionWords (room : Nat) (selection : Selection) : Language Token :=
  {tokens | ∀ name nested, FieldSet.ofSelection selection = .ok (name, nested) →
    IsFields room tokens (.field name nested .empty)}

/-- The words of a selection set that holds no fragment. -/
def setWords (room : Nat) (selections : List Selection) : Language Token :=
  {tokens | ∀ set, FieldSet.ofSelections selections = .ok set → set ≠ .empty ∧
    ∃ below inner, room = below + 1 ∧ IsFields below inner set ∧
      tokens = .punctuator .braceLeft :: (inner ++ [.punctuator .braceRight])}

/-- All words if a selection is a fragment, and none if it is a field. -/
def fragmentWords (selection : Selection) : Language Token :=
  {_tokens | ∀ field, FieldSet.ofSelection selection ≠ .ok field}

/-- A fragment is no field, whatever it is read from. -/
theorem sound_fragment {nested : Parser (List Selection)} {room : Nat}
    (h : Sound nested (setWords room)) : Sound (fragment room nested) (selectionWords room) := by
  have hbind : ∀ {α : Type} {first : Parser α} {next : α → Parser Selection}
      {L : α → Language Token}, Sound first L → (∀ a, Sound (next a) fragmentWords) →
      Sound (first >>= next) fragmentWords := by
    refine fun hfirst hnext => hfirst.bind hnext fun _ selection => ?_
    rintro _ ⟨_, -, _, hfragment, rfl⟩
    exact hfragment
  have hspread : [] ∈ fragmentWords .fragmentSpread := fun _ hfield => by
    simp [FieldSet.ofSelection, throw_eq_error] at hfield
  have hinlined : [] ∈ fragmentWords .inlineFragment := fun _ hfield => by
    simp [FieldSet.ofSelection, throw_eq_error] at hfield
  have hinline : Sound (do
      let _ ← directivesAt room false
      let _ ← nested
      return Selection.inlineFragment) fragmentWords :=
    hbind (sound_directivesAt room) fun _ => hbind h fun _ => sound_pure hinlined
  have hname : Sound fragmentName fun _ => names :=
    Sound.behind sound_current fun _ => sound_ite (sound_unexpectedHere _) sound_anyName
  have hfragment : Sound (fragment room nested) fragmentWords := by
    refine hbind (sound_expectMark _) fun _ => hbind (sound_skip? rfl) fun hasCondition =>
      hbind sound_current fun token => ?_
    split
    · exact hbind hname fun _ => hbind (sound_directivesAt room) fun _ => sound_pure hspread
    · exact sound_ite (hbind sound_name fun _ => hinline) hinline
  exact hfragment.weaken fun selection tokens htokens name nested hfield =>
    absurd hfield (htokens (name, nested))

/-- The words of a selection set, or none if nothing is selected. -/
def belowWords (room : Nat) (selections : List Selection) : Language Token :=
  {tokens | selections = [] ∧ tokens = [] ∨ tokens ∈ setWords room selections}

/-- What stands behind the name of a field that is selected. -/
def behindName (room : Nat) (name : String) (selection : Selection) : Language Token :=
  {tokens | ∃ below, selection = .field name below ∧ tokens ∈ modifiers room * belowWords room below}

/-- A name in front, and perhaps an alias in front of that, make a field of what a name has
behind it. -/
theorem append_mem_selectionWords {room : Nat} {name : String} {selection : Selection}
    {front back : List Token} (hfront : front ∈ (1 + names * marks .colon) * {[.name name]})
    (hback : back ∈ behindName room name selection) :
    front ++ back ∈ selectionWords room selection := by
  obtain ⟨below, rfl, modified, hmodified, inner, hinner, rfl⟩ := hback
  intro name' nested hselection
  obtain ⟨rfl, hbelow⟩ := ofSelection_field_eq_ok_iff.1 hselection
  have hhead : front ++ modified ∈ fieldHeads room name' :=
    Language.append_mem_mul hfront hmodified
  rcases hinner with ⟨rfl, rfl⟩ | hinner
  · cases hbelow
    simpa using IsFields.leaf hhead (.none room)
  · obtain ⟨hne, room, fields, rfl, hfields, rfl⟩ := hinner nested hbelow
    simpa using IsFields.nested hhead hne hfields (.none _)

/-- A field that is selected, from what is below it on. -/
def fieldEnd (nested : Parser (List Selection)) (key : String) : Parser Selection := do
  return .field key (← if ← atMark .braceLeft then nested else pure [])

/-- A field that is selected, from behind its name on. -/
def fieldBehind (room : Nat) (nested : Parser (List Selection)) (key : String) :
    Parser Selection := do
  let _ ← argumentsAt room false
  let _ ← directivesAt room false
  fieldEnd nested key

theorem selectedField_eq (room : Nat) (nested : Parser (List Selection)) :
    selectedField room nested = (do
      let first ← name
      if ← skip? (.punctuator .colon) then
        let key ← name
        fieldBehind room nested key
      else fieldBehind room nested first) :=
  rfl

theorem sound_fieldBehind {nested : Parser (List Selection)} {room : Nat}
    (h : Sound nested (setWords room)) (key : String) :
    Sound (fieldBehind room nested key) (behindName room key) := by
  have hset : ∀ below, setWords room below ≤ belowWords room below := fun _ _ => .inr
  refine ((sound_argumentsAt room).seq fun _ => (sound_directivesAt room).seq fun _ =>
    (sound_atMark _).behind fun _ => sound_ite ((h.weaken hset).map (Selection.field key))
      (sound_pure ⟨[], rfl, .inl ⟨rfl, rfl⟩⟩)).weaken fun selection => ?_
  rintro _ ⟨arguments, harguments, _, ⟨directives, hdirectives, back, ⟨below, rfl, hback⟩, rfl⟩,
    rfl⟩
  refine ⟨below, rfl, ?_⟩
  change arguments ++ (directives ++ back) ∈ modifiers room * belowWords room below
  rw [← List.append_assoc]
  exact Language.append_mem_mul (Language.append_mem_mul harguments hdirectives) hback

theorem sound_selectedField {nested : Parser (List Selection)} {room : Nat}
    (h : Sound nested (setWords room)) :
    Sound (selectedField room nested) (selectionWords room) := by
  rw [selectedField_eq]
  have haliased : Sound (name >>= fieldBehind room nested) fun selection =>
      {tokens | ∃ key, tokens ∈ {[.name key]} * behindName room key selection} :=
    Sound.bind sound_name (sound_fieldBehind h) fun key _ tokens htokens => ⟨key, htokens⟩
  refine Sound.bind sound_name (fun first => sound_skip_ite haliased (sound_fieldBehind h first)
    fun _ => le_rfl) fun first selection => ?_
  rintro _ ⟨_, rfl, _, hback | ⟨_, rfl, _, ⟨key, _, rfl, back, hback, rfl⟩, rfl⟩, rfl⟩
  · have hplain : [.name first] ∈ (1 + names * marks .colon) * ({[.name first]} : Language Token) :=
      ⟨[], .inl rfl, _, rfl, rfl⟩
    exact append_mem_selectionWords hplain hback
  · have haliased : [.name first, .punctuator .colon, .name key] ∈
        (1 + names * marks .colon) * ({[.name key]} : Language Token) :=
      ⟨_, .inr ⟨_, ⟨first, rfl⟩, _, rfl, rfl⟩, _, rfl, rfl⟩
    have hwhole := append_mem_selectionWords haliased hback
    exact hwhole

theorem IsFields.append {room : Nat} {name : String} {nested set : FieldSet}
    {front back : List Token} (hfront : IsFields room front (.field name nested .empty))
    (hback : IsFields room back set) : IsFields room (front ++ back) (.field name nested set) := by
  generalize hone : FieldSet.field name nested .empty = one at hfront
  cases hfront with
  | none => cases hone
  | leaf hhead hrest =>
    cases hone
    cases hrest
    simpa using IsFields.leaf hhead hback
  | nested hhead hne hinner hrest =>
    cases hone
    cases hrest
    simpa using IsFields.nested hhead hne hinner hback

theorem isFields_of_prod {room : Nat} {selections : List Selection} {tokens : List Token}
    (h : tokens ∈ (selections.map (selectionWords room)).prod) {set : FieldSet}
    (hset : FieldSet.ofSelections selections = .ok set) : IsFields room tokens set := by
  induction selections generalizing tokens set with
  | nil =>
    cases hset
    cases h
    exact .none room
  | cons first rest ih =>
    obtain ⟨name, nested, more, hfirst, hmore, rfl⟩ := ofSelections_cons_eq_ok_iff.1 hset
    rw [List.map_cons, List.prod_cons] at h
    obtain ⟨front, hfront, back, hback, rfl⟩ := h
    exact (hfront name nested hfirst).append (ih hback hmore)

/-- A selection set that holds no fragment is a field set in braces. -/
theorem sound_selectionSetAt (room : Nat) : Sound (selectionSetAt room) (setWords room) := by
  induction room with
  | zero => exact sound_failHere _ _
  | succ room ih =>
    have hitem : Sound (selection room (selectionSetAt room)) (selectionWords room) :=
      (sound_atMark _).behind fun _ => sound_ite (sound_fragment ih) (sound_selectedField ih)
    refine ((sound_expectMark .braceLeft).seq fun _ => sound_manyUntil hitem .braceRight).weaken
      fun selections => ?_
    rintro _ ⟨_, rfl, _, ⟨hne, inner, hinner, _, rfl, rfl⟩, rfl⟩ set hset
    refine ⟨?_, room, inner, rfl, isFields_of_prod hinner hset, rfl⟩
    rintro rfl
    exact hne (ofSelections_eq_empty_iff.1 hset)

/-! ## Reading the fields of a set -/

/-- The selections that a field set is read from. -/
def FieldSet.selections : FieldSet → List Selection
  | .empty => []
  | .field name nested rest => .field name nested.selections :: rest.selections

theorem ofSelections_selections (set : FieldSet) :
    FieldSet.ofSelections set.selections = .ok set := by
  induction set with
  | empty => rfl
  | field name nested rest ihnested ihrest =>
    exact ofSelections_cons_eq_ok_iff.2
      ⟨name, nested, rest, ofSelection_field_eq_ok_iff.2 ⟨rfl, ihnested⟩, ihrest, rfl⟩

/-- A token that does not go on with a field in front of it, up to a selection set. -/
def EndsHead (token : Token) : Prop :=
  ((token.Valid ∧ token ≠ .punctuator .parenLeft) ∧ token ≠ .punctuator .atSign) ∧
    token ≠ .punctuator .colon

theorem exists_cons_modifiers {room : Nat} {P : Token → Prop} {modified : List Token}
    (h : modified ∈ modifiers room) (hparen : P (.punctuator .parenLeft))
    (hat : P (.punctuator .atSign)) {follower : Token} (hfollower : P follower)
    (rest : List Token) : ∃ next left, modified ++ follower :: rest = next :: left ∧ P next := by
  obtain ⟨arguments, harguments, directives, ⟨fronts, rfl, hfronts⟩, rfl⟩ := h
  have hdirective : Begins (marks .atSign * names * argumentLists room) P :=
    (begins_marks hat).mul.mul
  rcases harguments with rfl | harguments
  · exact exists_cons_flatten hdirective hfronts hfollower rest
  · obtain ⟨first, more, rfl, hfirst⟩ := (begins_marks hparen).mul.mul arguments harguments
    exact ⟨first, _, rfl, hfirst⟩

theorem run_fieldBehind {room : Nat} (nested : Parser (List Selection)) (key : String)
    {modified : List Token} (h : modified ∈ modifiers room) {follower : Token}
    (hfollower : EndsHead follower) (rest : List Token) :
    (fieldBehind room nested key).run (modified ++ follower :: rest) =
      (fieldEnd nested key).run (follower :: rest) := by
  have hmodifiers : Takes (argumentsAt room false >>= fun _ => directivesAt room false)
      (modifiers room) _ :=
    (takes_argumentsAt room).seq (fun _ => takes_directivesAt room)
      fun back hback follower hfollower => by
        obtain ⟨fronts, rfl, hfronts⟩ := hback
        cases fronts with
        | nil => exact hfollower.1
        | cons front fronts =>
          obtain ⟨first, more, rfl, hfirst⟩ := (begins_marks (P := fun token =>
            token.Valid ∧ token ≠ .punctuator .parenLeft) (by simp [Token.Valid])).mul.mul
              front (hfronts front List.mem_cons_self)
          exact hfirst
  obtain ⟨_, hrun⟩ := hmodifiers modified h follower rest hfollower.1
  have hassoc : fieldBehind room nested key =
      (argumentsAt room false >>= fun _ => directivesAt room false) >>= fun _ =>
        fieldEnd nested key := by
    rw [bind_assoc]
    rfl
  rw [hassoc]
  exact run_bind_of_ok hrun

theorem run_selectedField {room : Nat} (nested : Parser (List Selection)) {key : String}
    {head : List Token} (h : head ∈ fieldHeads room key) {follower : Token}
    (hfollower : EndsHead follower) (rest : List Token) :
    (selectedField room nested).run (head ++ follower :: rest) =
      (fieldEnd nested key).run (follower :: rest) := by
  obtain ⟨_, ⟨front, hfront, _, rfl, rfl⟩, modified, hmodified, rfl⟩ := h
  obtain ⟨next, left, hnext, hvalid, hcolon⟩ := exists_cons_modifiers
    (P := fun token => token.Valid ∧ token ≠ .punctuator .colon) hmodified
    (by simp [Token.Valid]) (by simp [Token.Valid]) ⟨hfollower.1.1.1, hfollower.2⟩ rest
  have hbehind := run_fieldBehind nested key hmodified hfollower rest
  rw [hnext] at hbehind
  rw [selectedField_eq]
  rcases hfront with rfl | ⟨_, ⟨first, rfl⟩, _, rfl, rfl⟩
  · simp only [List.nil_append, List.cons_append, hnext]
    exact (run_bind_of_ok (run_name key hvalid left)).trans
      ((run_bind_of_ok (run_skip?_of_ne hcolon left)).trans hbehind)
  · simp only [List.nil_append, List.cons_append, hnext]
    have hmark : (Token.punctuator .colon).Valid := fun fault => by simp
    have hname : (Token.name key).Valid := fun fault => by simp
    exact (run_bind_of_ok (run_name first hmark _)).trans
      ((run_bind_of_ok (run_skip?_of_eq hname _)).trans
        ((run_bind_of_ok (run_name key hvalid left)).trans hbehind))

/-- A field starts with a name. -/
def StartsField (token : Token) : Prop :=
  ∃ text, token = .name text

theorem begins_fieldHeads (room : Nat) (name : String) :
    Begins (fieldHeads room name) StartsField := by
  rintro _ ⟨_, ⟨_, rfl | ⟨_, ⟨first, rfl⟩, _, rfl, rfl⟩, _, rfl, rfl⟩, modified, -, rfl⟩
  · exact ⟨_, modified, rfl, name, rfl⟩
  · exact ⟨_, _, rfl, first, rfl⟩

/-- Behind some fields of a set stands the next one or the brace that closes the set. -/
theorem IsFields.exists_next {room : Nat} {tokens : List Token} {set : FieldSet}
    (h : IsFields room tokens set) (rest : List Token) :
    ∃ next left, tokens ++ .punctuator .braceRight :: rest = next :: left ∧ next.Valid ∧
      EndsHead next ∧ next ≠ .punctuator .braceLeft := by
  have hfield : ∀ {token}, StartsField token → token.Valid ∧ EndsHead token ∧
      token ≠ .punctuator .braceLeft := by
    rintro _ ⟨text, rfl⟩
    simp [EndsHead, Token.Valid]
  cases h with
  | none => exact ⟨_, rest, rfl, by simp [EndsHead, Token.Valid]⟩
  | leaf hhead =>
    obtain ⟨first, more, rfl, hfirst⟩ := begins_fieldHeads _ _ _ hhead
    exact ⟨first, _, rfl, hfield hfirst⟩
  | nested hhead =>
    obtain ⟨first, more, rfl, hfirst⟩ := begins_fieldHeads _ _ _ hhead
    exact ⟨first, _, rfl, hfield hfirst⟩

section Runs

variable {room : Nat} {name : String}

/-- A selection that starts like a field is read as one. -/
theorem run_selection {head : List Token} (h : head ∈ fieldHeads room name) {follower : Token}
    (hfollower : EndsHead follower) (rest : List Token) :
    (selection room (selectionSetAt room)).run (head ++ follower :: rest) =
      (fieldEnd (selectionSetAt room) name).run (follower :: rest) := by
  obtain ⟨first, more, hmore, text, rfl⟩ := begins_fieldHeads room name head h
  have hfield := run_selectedField (selectionSetAt room) h hfollower rest
  rw [hmore] at hfield ⊢
  exact (run_bind_of_ok (run_atMark_of_ne (by simp) _)).trans hfield

/-- What the two loops over the selections of a set do with the tokens in front of a brace that
closes it. -/
structure ReadsFields (room : Nat) (tokens : List Token) (set : FieldSet) (behind : List Token) :
    Prop where
  items : ∀ bound, tokens.length < bound →
    (itemsUntil (.punctuator .braceRight) (selection room (selectionSetAt room)) bound).run
      (tokens ++ .punctuator .braceRight :: behind) = .ok (set.selections, behind)
  whole : set ≠ .empty →
    (selectionSetAt (room + 1)).run
      (.punctuator .braceLeft :: (tokens ++ .punctuator .braceRight :: behind)) =
        .ok (set.selections, behind)

/-- One field more in front. -/
theorem ReadsFields.cons {front tokens behind : List Token} {nested rest : FieldSet}
    (h : ReadsFields room tokens rest behind)
    (hfront : ∃ first more, front = first :: more ∧ StartsField first)
    (hitem : (selection room (selectionSetAt room)).run
      (front ++ (tokens ++ .punctuator .braceRight :: behind)) =
        .ok (.field name nested.selections, tokens ++ .punctuator .braceRight :: behind)) :
    ReadsFields room (front ++ tokens) (.field name nested rest) behind := by
  obtain ⟨first, more, rfl, text, rfl⟩ := hfront
  constructor
  · intro bound hbound
    obtain ⟨bound, rfl⟩ : ∃ n, bound = n + 1 := ⟨bound - 1, by omega⟩
    have hrest := h.items bound (by simp at hbound; omega)
    rw [List.append_assoc]
    refine (run_bind_of_ok (run_skip?_of_ne (by simp) _)).trans ((run_bind_of_ok hitem).trans ?_)
    exact (run_bind_of_ok hrest).trans rfl
  · intro _
    have hrest := h.items (tokens ++ .punctuator .braceRight :: behind).length (by simp)
    have hany : (anyUntil (.punctuator .braceRight) (selection room (selectionSetAt room))).run
        (tokens ++ .punctuator .braceRight :: behind) = .ok (rest.selections, behind) := hrest
    have hmany : (manyUntil (.punctuator .braceRight)
        (selection room (selectionSetAt room))).run
        (.name text :: more ++ (tokens ++ .punctuator .braceRight :: behind)) =
          .ok (.field name nested.selections :: rest.selections, behind) :=
      (run_bind_of_ok hitem).trans ((run_bind_of_ok hany).trans rfl)
    have hname : (Token.name text).Valid := fun fault => by simp
    obtain ⟨_, hopen⟩ := takes_expectMark .braceLeft _ rfl (.name text)
      (more ++ (tokens ++ .punctuator .braceRight :: behind)) hname
    rw [List.append_assoc]
    exact (run_bind_of_ok hopen).trans hmany

end Runs

/-- The fields of a set are read up to the brace that closes it. -/
theorem IsFields.reads {room : Nat} {tokens : List Token} {set : FieldSet}
    (h : IsFields room tokens set) {follower : Token} (hfollower : follower.Valid)
    (rest : List Token) : ReadsFields room tokens set (follower :: rest) := by
  induction h generalizing follower rest with
  | none room =>
    refine ⟨fun bound hbound => ?_, fun hne => absurd rfl hne⟩
    obtain ⟨bound, rfl⟩ : ∃ n, bound = n + 1 := ⟨bound - 1, by omega⟩
    exact (run_bind_of_ok (run_skip?_of_eq hfollower rest)).trans rfl
  | leaf hhead htokens ih =>
    obtain ⟨next, left, hnext, -, hends, hbrace⟩ := htokens.exists_next (follower :: rest)
    refine (ih hfollower rest).cons (begins_fieldHeads _ _ _ hhead) ?_
    rw [hnext, run_selection hhead hends]
    exact (run_bind_of_ok (run_atMark_of_ne hbrace left)).trans rfl
  | @nested room name head inner tokens nested rest' hhead hne _ htokens ihinner ihtokens =>
    obtain ⟨next, left, hnext, hvalid, -⟩ := htokens.exists_next (follower :: rest)
    have hsplit : head ++ (.punctuator .braceLeft :: (inner ++ .punctuator .braceRight :: tokens)) =
        (head ++ (.punctuator .braceLeft :: (inner ++ [.punctuator .braceRight]))) ++ tokens := by
      simp
    rw [hsplit]
    refine (ihtokens hfollower rest).cons ?_ ?_
    · obtain ⟨first, more, rfl, hfirst⟩ := begins_fieldHeads _ _ _ hhead
      exact ⟨first, _, rfl, hfirst⟩
    · have hbelow := (ihinner hvalid left).whole hne
      rw [hnext, List.append_assoc, List.cons_append, List.append_assoc, List.singleton_append,
        run_selection hhead (by simp [EndsHead, Token.Valid])]
      exact (run_bind_of_ok (run_atMark .braceLeft _)).trans ((run_bind_of_ok hbelow).trans rfl)

/-- Tokens list the fields of one set at most. -/
theorem IsFields.unique {room : Nat} {tokens : List Token} {set set' : FieldSet}
    (h : IsFields room tokens set) (h' : IsFields room tokens set') : set = set' := by
  have hvalid : Token.endOfInput.Valid := fun fault => by simp
  have hitems := (h.reads hvalid []).items _ (Nat.lt_succ_self _)
  rw [(h'.reads hvalid []).items _ (Nat.lt_succ_self _)] at hitems
  have hselections : set'.selections = set.selections := by simpa using hitems
  have hset := ofSelections_selections set
  rw [← hselections, ofSelections_selections] at hset
  exact (Except.ok.inj hset).symm

end ResolverTypings.Federation
