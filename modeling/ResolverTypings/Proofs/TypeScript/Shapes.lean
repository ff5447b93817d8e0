import ResolverTypings.Proofs.TypeScript.Lines

/-!
# What the text of a type tells

A type is written so that its text tells everything about it but the way in which it came to
be non-null: which name stands at the bottom, where an array begins and ends, which members a
record has, and at each of these places whether null is allowed. Two types are written alike
only if they agree in all of that. A text can be read off from the left, since the word in
front and the character behind it tell what kind of type it is, and no more of it is read than
what the type has written.
-/
namespace ResolverTypings.TypeScript

open Graphql (isName isNamePart)

/-! ## Shapes -/

/-- A type as its text shows it. -/
inductive TypeShape where
  | named (nullable : Bool) (name : String)
  | array (nullable : Bool) (item : TypeShape)
  | record (members : List (String × TypeShape))
  deriving Repr, Inhabited

mutual
/-- The shape of a type at a place that may or may not be null. -/
def shapeOf (nullable : Bool) : FieldType → TypeShape
  | .named name => .named nullable (typeName name)
  | .nonNull base => shapeOf false base
  | .list base => .array nullable (shapeOf true base)
  | .record members => .record (shapesOf members)

/-- The shapes of the members of a record; each member is a place that may be null. -/
def shapesOf : List (String × FieldType) → List (String × TypeShape)
  | [] => []
  | (name, type) :: rest => (name, shapeOf true type) :: shapesOf rest
end

namespace TypeShape

mutual
/-- The text of a shape. -/
def text : TypeShape → String
  | .named nullable name => orNull nullable name
  | .array nullable item => orNull nullable ("Array<" ++ item.text ++ ">")
  | .record members => "\x7b " ++ textOfMembers members ++ "\x7d"

/-- The texts of the members of a shape. -/
def textOfMembers : List (String × TypeShape) → String
  | [] => ""
  | (name, shape) :: rest => name ++ ": " ++ shape.text ++ ", " ++ textOfMembers rest
end

mutual
/-- Whether all names in a shape are names of the grammar. -/
def IsNamed : TypeShape → Prop
  | .named _ name => isName name
  | .array _ item => item.IsNamed
  | .record members => AreNamed members

/-- Whether all names in members are names of the grammar. -/
def AreNamed : List (String × TypeShape) → Prop
  | [] => True
  | (name, shape) :: rest => isName name ∧ shape.IsNamed ∧ AreNamed rest
end

end TypeShape

mutual

theorem text_shapeOf (nullable : Bool) :
    (type : FieldType) → (shapeOf nullable type).text = typeText nullable type
  | .named name => by rw [shapeOf, TypeShape.text, typeText]
  | .nonNull base => by rw [shapeOf, typeText, text_shapeOf false base]
  | .list base => by rw [shapeOf, TypeShape.text, typeText, text_shapeOf true base]
  | .record members => by rw [shapeOf, TypeShape.text, typeText, textOfMembers_shapesOf members]

theorem textOfMembers_shapesOf :
    (members : List (String × FieldType)) →
      TypeShape.textOfMembers (shapesOf members) = membersText members
  | [] => rfl
  | (name, type) :: rest => by
    rw [shapesOf, TypeShape.textOfMembers, membersText, text_shapeOf true type,
      textOfMembers_shapesOf rest]

end

mutual

theorem isNamed_shapeOf (nullable : Bool) :
    (type : FieldType) → (∀ name ∈ type.mentioned, isName name) → (shapeOf nullable type).IsNamed
  | .named name, h => isName_typeName (h name (List.mem_singleton_self name))
  | .nonNull base, h => isNamed_shapeOf false base h
  | .list base, h => isNamed_shapeOf true base h
  | .record members, h => areNamed_shapesOf members h

theorem areNamed_shapesOf :
    (members : List (String × FieldType)) →
      (∀ name ∈ FieldType.mentionedBy members, isName name) →
        TypeShape.AreNamed (shapesOf members)
  | [], _ => trivial
  | (name, type) :: rest, h => by
    rw [FieldType.mentionedBy, List.cons_append, List.forall_mem_cons,
      List.forall_mem_append] at h
    exact ⟨h.1, isNamed_shapeOf true type h.2.1, areNamed_shapesOf rest h.2.2⟩

end

/-! ## Words in front of a text -/

/-- What may stand behind a type: it neither goes on with a name nor opens its parameters. -/
def EndsType (rest : List Char) : Prop :=
  ∀ c ∈ rest.head?, isNamePart c = false ∧ c ≠ '<'

theorem endsType_cons {c : Char} (hpart : isNamePart c = false) (hc : c ≠ '<')
    (rest : List Char) : EndsType (c :: rest) := by
  intro d hd
  obtain rfl : c = d := by simpa using hd
  exact ⟨hpart, hc⟩

/-- A text does not begin in the middle of a name. -/
def EndsWord (rest : List Char) : Prop :=
  ∀ c ∈ rest.head?, isNamePart c = false

theorem EndsType.endsWord {rest : List Char} (h : EndsType rest) : EndsWord rest :=
  fun c hc => (h c hc).1

theorem endsWord_cons {c : Char} (hc : isNamePart c = false) (rest : List Char) :
    EndsWord (c :: rest) := by
  intro d hd
  obtain rfl : c = d := by simpa using hd
  exact hc

/-- Equal texts begin with the same word. -/
theorem eq_of_word_append {word word' rest rest' : List Char}
    (hword : ∀ c ∈ word, isNamePart c) (hword' : ∀ c ∈ word', isNamePart c)
    (hrest : EndsWord rest) (hrest' : EndsWord rest') (h : word ++ rest = word' ++ rest') :
    word = word' ∧ rest = rest' := by
  have htake : ∀ {rest : List Char}, EndsWord rest → rest.takeWhile isNamePart = [] := by
    intro rest hends
    cases rest with
    | nil => rfl
    | cons c cs => exact List.takeWhile_cons_of_neg (by simp [hends c rfl])
  have hfront : word = word' := by
    have hboth := congrArg (List.takeWhile isNamePart) h
    rwa [List.takeWhile_append_of_pos hword, List.takeWhile_append_of_pos hword', htake hrest,
      htake hrest', List.append_nil, List.append_nil] at hboth
  subst hfront
  exact ⟨rfl, List.append_cancel_left h⟩

namespace TypeShape

/-! ## Null -/

/-- Whether a shape allows null. -/
def isNullable : TypeShape → Bool
  | .named nullable _ => nullable
  | .array nullable _ => nullable
  | .record _ => false

/-- The text of a shape without a word on null. -/
def bareText : TypeShape → String
  | .named _ name => name
  | .array _ item => "Array<" ++ item.text ++ ">"
  | .record members => "\x7b " ++ textOfMembers members ++ "\x7d"

theorem text_eq_orNull (shape : TypeShape) :
    shape.text = orNull shape.isNullable shape.bareText := by
  cases shape <;> rfl

/-- The word in front of a text that says nothing on null. -/
def word : TypeShape → String
  | .named _ name => name
  | .array .. => "Array"
  | .record _ => ""

/-- What stands behind that word. -/
def behind (shape : TypeShape) (rest : List Char) : List Char :=
  match shape with
  | .named .. => rest
  | .array _ item => '<' :: (item.text.toList ++ '>' :: rest)
  | .record members => '\x7b' :: ' ' :: ((textOfMembers members).toList ++ '\x7d' :: rest)

theorem bareText_append (shape : TypeShape) (rest : List Char) :
    shape.bareText.toList ++ rest = shape.word.toList ++ shape.behind rest := by
  cases shape <;> simp [bareText, word, behind]

/-- What follows the text of a shape once the word on null is left out. -/
def closing (nullable : Bool) (rest : List Char) : List Char :=
  if nullable then '>' :: rest else rest

theorem endsType_closing {rest : List Char} (h : EndsType rest) (nullable : Bool) :
    EndsType (closing nullable rest) := by
  cases nullable with
  | true => exact endsType_cons (by decide) (by decide) rest
  | false => exact h

theorem closing_inj {nullable : Bool} {rest rest' : List Char} :
    closing nullable rest = closing nullable rest' ↔ rest = rest' := by
  cases nullable <;> simp [closing]

variable {shape shape' : TypeShape} {rest rest' : List Char}

theorem isNamePart_of_mem_word (h : shape.IsNamed) : ∀ c ∈ shape.word.toList, isNamePart c := by
  cases shape with
  | named nullable name => exact isNamePart_of_isName h
  | array nullable item => exact List.all_eq_true.1 (by decide : "Array".toList.all isNamePart)
  | record members => simp [word]

theorem endsWord_behind (hrest : EndsType rest) : EndsWord (shape.behind rest) := by
  cases shape with
  | named nullable name => exact hrest.endsWord
  | array nullable item => exact endsWord_cons (by decide) _
  | record members => exact endsWord_cons (by decide) _

/-- Texts without a word on null begin with the same word. -/
theorem word_eq_of_bareText_append (hnamed : shape.IsNamed) (hnamed' : shape'.IsNamed)
    (hrest : EndsType rest) (hrest' : EndsType rest')
    (h : shape.bareText.toList ++ rest = shape'.bareText.toList ++ rest') :
    shape.word = shape'.word ∧ shape.behind rest = shape'.behind rest' := by
  rw [bareText_append, bareText_append] at h
  rw [← String.toList_inj]
  exact eq_of_word_append (isNamePart_of_mem_word hnamed) (isNamePart_of_mem_word hnamed')
    (endsWord_behind hrest) (endsWord_behind hrest') h

/-- A text without a word on null does not look like one that allows null: a type that is called
`Nullable` has no parameters. -/
theorem bareText_append_ne (hnamed : shape.IsNamed) (hrest : EndsType rest) (more : List Char) :
    shape.bareText.toList ++ rest ≠ "Nullable<".toList ++ more := by
  intro h
  have hnull : "Nullable<".toList ++ more = "Nullable".toList ++ '<' :: more := rfl
  rw [bareText_append, hnull] at h
  obtain ⟨hword, hbehind⟩ := eq_of_word_append (isNamePart_of_mem_word hnamed)
    (List.all_eq_true.1 (by decide : "Nullable".toList.all isNamePart))
    (endsWord_behind hrest) (endsWord_cons (by decide) more) h
  cases shape with
  | named nullable name =>
    have hopen : rest = '<' :: more := hbehind
    exact (hrest '<' (by simp [hopen])).2 rfl
  | array nullable item => exact absurd hword (by decide : "Array".toList ≠ "Nullable".toList)
  | record members => exact absurd hword (by decide : "".toList ≠ "Nullable".toList)

/-- Whether null is allowed shows in front of the text. -/
theorem isNullable_eq_of_text_append (hnamed : shape.IsNamed) (hnamed' : shape'.IsNamed)
    (hrest : EndsType rest) (hrest' : EndsType rest')
    (h : shape.text.toList ++ rest = shape'.text.toList ++ rest') :
    shape.isNullable = shape'.isNullable ∧
      shape.bareText.toList ++ closing shape.isNullable rest =
        shape'.bareText.toList ++ closing shape'.isNullable rest' := by
  have hnull : ∀ (shape : TypeShape) (rest : List Char), shape.text.toList ++ rest =
      (if shape.isNullable then "Nullable<".toList else []) ++
        (shape.bareText.toList ++ closing shape.isNullable rest) := by
    intro shape rest
    rw [text_eq_orNull]
    cases shape.isNullable <;> simp [orNull, closing]
  rw [hnull, hnull shape'] at h
  cases hflag : shape.isNullable <;> cases hflag' : shape'.isNullable <;>
    simp only [hflag, hflag', if_true, Bool.false_eq_true, if_false, List.nil_append] at h
  · exact ⟨rfl, h⟩
  · exact absurd h (bareText_append_ne hnamed hrest _)
  · exact absurd h.symm (bareText_append_ne hnamed' hrest' _)
  · exact ⟨rfl, List.append_cancel_left h⟩

/-- Types that the same text begins with are alike in what shows up to their first mark. -/
theorem parts_eq_of_text_append (hnamed : shape.IsNamed) (hnamed' : shape'.IsNamed)
    (hrest : EndsType rest) (hrest' : EndsType rest')
    (h : shape.text.toList ++ rest = shape'.text.toList ++ rest') :
    shape.isNullable = shape'.isNullable ∧ shape.word = shape'.word ∧
      shape.behind (closing shape.isNullable rest) =
        shape'.behind (closing shape'.isNullable rest') := by
  obtain ⟨hflag, hbare⟩ := isNullable_eq_of_text_append hnamed hnamed' hrest hrest' h
  exact ⟨hflag, word_eq_of_bareText_append hnamed hnamed' (endsType_closing hrest _)
    (endsType_closing hrest' _) hbare⟩

/-! ## Reading a text off from the left -/

theorem toList_ne_nil_of_isName {name : String} (h : isName name) : name.toList ≠ [] := by
  intro hnil
  simp [isName, hnil] at h

theorem textOfMembers_cons_append (name : String) (shape : TypeShape)
    (more : List (String × TypeShape)) (rest : List Char) :
    (textOfMembers ((name, shape) :: more)).toList ++ rest =
      name.toList ++ ':' :: ' ' :: (shape.text.toList ++
        ',' :: ' ' :: ((textOfMembers more).toList ++ rest)) := by
  simp [textOfMembers]

/-- Members do not begin where a record ends. -/
theorem textOfMembers_cons_append_ne {name : String} (hname : isName name) (shape : TypeShape)
    (more : List (String × TypeShape)) (rest rest' : List Char) :
    (textOfMembers ((name, shape) :: more)).toList ++ rest ≠ '\x7d' :: rest' := by
  intro h
  rw [textOfMembers_cons_append, ← List.nil_append ('\x7d' :: rest')] at h
  have hword := (eq_of_word_append (isNamePart_of_isName hname) (by simp)
    (endsWord_cons (by decide) _) (endsWord_cons (by decide) _) h).1
  exact toList_ne_nil_of_isName hname hword

mutual

/-- Of a text that begins with a type no more than the type is read as it, and only one type
is. -/
theorem eq_of_text_append :
    (shape : TypeShape) → ∀ {shape' rest rest'}, shape.IsNamed → shape'.IsNamed →
      EndsType rest → EndsType rest' → shape.text.toList ++ rest = shape'.text.toList ++ rest' →
        shape = shape' ∧ rest = rest'
  | .named nullable name, shape', rest, rest', hnamed, hnamed', hrest, hrest', h => by
    obtain ⟨hflag, hword, hbehind⟩ := parts_eq_of_text_append hnamed hnamed' hrest hrest' h
    cases shape' with
    | named nullable' name' =>
      obtain rfl : nullable = nullable' := hflag
      obtain rfl : name = name' := hword
      exact ⟨rfl, closing_inj.1 hbehind⟩
    | array nullable' item' =>
      have hends := endsType_closing hrest nullable
      have hopen : closing nullable rest = '<' :: _ := hbehind
      exact absurd rfl (hends '<' (by simp [hopen])).2
    | record members' =>
      exact absurd (congrArg String.toList hword) (toList_ne_nil_of_isName hnamed)
  | .array nullable item, shape', rest, rest', hnamed, hnamed', hrest, hrest', h => by
    obtain ⟨hflag, hword, hbehind⟩ := parts_eq_of_text_append hnamed hnamed' hrest hrest' h
    cases shape' with
    | named nullable' name' =>
      have hends := endsType_closing hrest' nullable'
      have hopen : '<' :: _ = closing nullable' rest' := hbehind
      exact absurd rfl (hends '<' (by simp [← hopen])).2
    | array nullable' item' =>
      obtain rfl : nullable = nullable' := hflag
      have hitem : item.IsNamed ∧ item'.IsNamed := ⟨hnamed, hnamed'⟩
      have hangle : ∀ rest, EndsType ('>' :: rest) := endsType_cons (by decide) (by decide)
      obtain ⟨rfl, hclosing⟩ := eq_of_text_append item hitem.1 hitem.2 (hangle _) (hangle _)
        (List.cons.inj hbehind).2
      exact ⟨rfl, closing_inj.1 (List.cons.inj hclosing).2⟩
    | record members' => exact absurd hword (by decide : "Array" ≠ "")
  | .record members, shape', rest, rest', hnamed, hnamed', hrest, hrest', h => by
    obtain ⟨hflag, hword, hbehind⟩ := parts_eq_of_text_append hnamed hnamed' hrest hrest' h
    cases shape' with
    | named nullable' name' =>
      exact absurd (congrArg String.toList hword.symm) (toList_ne_nil_of_isName hnamed')
    | array nullable' item' => exact absurd hword (by decide : "" ≠ "Array")
    | record members' =>
      have hmembers := (List.cons.inj (List.cons.inj hbehind).2).2
      obtain ⟨rfl, hclosing⟩ := eq_of_textOfMembers_append members hnamed hnamed' hmembers
      exact ⟨rfl, hclosing⟩

/-- Of a text that begins with the members of a record no more than these are read as such. -/
theorem eq_of_textOfMembers_append :
    (members : List (String × TypeShape)) → ∀ {members' rest rest'}, AreNamed members →
      AreNamed members' → (textOfMembers members).toList ++ '\x7d' :: rest =
        (textOfMembers members').toList ++ '\x7d' :: rest' → members = members' ∧ rest = rest'
  | [], [], rest, rest', _, _, h => ⟨rfl, (List.cons.inj h).2⟩
  | [], (name', shape') :: more', rest, rest', _, hnamed', h =>
    absurd h.symm (textOfMembers_cons_append_ne hnamed'.1 shape' more' _ rest)
  | (name, shape) :: more, [], rest, rest', hnamed, _, h =>
    absurd h (textOfMembers_cons_append_ne hnamed.1 shape more _ rest')
  | (name, shape) :: more, (name', shape') :: more', rest, rest', hnamed, hnamed', h => by
    rw [textOfMembers_cons_append, textOfMembers_cons_append] at h
    obtain ⟨hname, hbehind⟩ := eq_of_word_append (isNamePart_of_isName hnamed.1)
      (isNamePart_of_isName hnamed'.1) (endsWord_cons (by decide) _)
      (endsWord_cons (by decide) _) h
    have hcomma : ∀ rest, EndsType (',' :: rest) := endsType_cons (by decide) (by decide)
    have hshape := (List.cons.inj (List.cons.inj hbehind).2).2
    obtain ⟨rfl, hcommas⟩ := eq_of_text_append shape hnamed.2.1 hnamed'.2.1 (hcomma _)
      (hcomma _) hshape
    have hmore := (List.cons.inj (List.cons.inj hcommas).2).2
    obtain ⟨rfl, hrest⟩ := eq_of_textOfMembers_append more hnamed.2.2 hnamed'.2.2 hmore
    rw [String.toList_inj.1 hname]
    exact ⟨rfl, hrest⟩

end

end TypeShape

/-! ## Types that are written alike -/

/-- **The text of a type tells its shape.** Two types whose names are names of the grammar are
written alike, each at a place that may or may not be null, if and only if they have the same
shape there. -/
theorem typeText_eq_iff {nullable nullable' : Bool} {type type' : FieldType}
    (hnames : ∀ name ∈ type.mentioned, isName name)
    (hnames' : ∀ name ∈ type'.mentioned, isName name) :
    typeText nullable type = typeText nullable' type' ↔
      shapeOf nullable type = shapeOf nullable' type' := by
  rw [← text_shapeOf, ← text_shapeOf]
  refine ⟨fun h => ?_, fun h => by rw [h]⟩
  have hnothing : EndsType [] := by simp [EndsType]
  have htexts : (shapeOf nullable type).text.toList ++ [] =
      (shapeOf nullable' type').text.toList ++ [] := by rw [h]
  exact (TypeShape.eq_of_text_append _ (isNamed_shapeOf nullable type hnames)
    (isNamed_shapeOf nullable' type' hnames') hnothing hnothing htexts).1

/-- Lists of items that are never null, however often that is said, and a list of items that
may be null; the items are of a type with a misleading name. -/
theorem typeText_eq_iff_nullableItems :
    (∀ name ∈ (FieldType.list (.named "Nullable")).mentioned, isName name) ∧
      typeText true (.list (.nonNull (.nonNull (.named "Nullable")))) =
        typeText true (.list (.nonNull (.named "Nullable"))) ∧
      typeText true (.list (.named "Nullable")) ≠
        typeText true (.list (.nonNull (.named "Nullable"))) := by
  refine ⟨by decide, (typeText_eq_iff (by decide) (by decide)).2 (by simp [shapeOf]), fun h => ?_⟩
  have hshapes := (typeText_eq_iff (by decide) (by decide)).1 h
  simp [shapeOf] at hshapes

end ResolverTypings.TypeScript
