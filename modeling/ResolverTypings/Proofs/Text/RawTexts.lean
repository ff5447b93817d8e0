import Mathlib.Data.List.Basic
import ResolverTypings.Text.Utf8

/-!
# Raw texts

A raw text is unbroken if it holds no surrogate. Then it is a text in the form of code points,
it is shown as it is, and it has bytes; a raw text with a surrogate has none.
-/
namespace ResolverTypings.Text

/-- A code point that is a character. -/
def CodePoint.IsChar : CodePoint → Prop
  | .char _ => True
  | .surrogate _ => False

instance : DecidablePred CodePoint.IsChar
  | .char _ => isTrue trivial
  | .surrogate _ => isFalse id

theorem CodePoint.isChar_iff {point : CodePoint} : point.IsChar ↔ ∃ c, point = .char c := by
  cases point <;> simp [IsChar]

namespace RawText

/-! ## Characters as raw text -/

@[simp] theorem ofChars_nil : ofChars [] = [] := rfl

@[simp] theorem ofChars_cons (c : Char) (cs : List Char) :
    ofChars (c :: cs) = .char c :: ofChars cs := rfl

@[simp] theorem ofChars_append (cs ds : List Char) :
    ofChars (cs ++ ds) = ofChars cs ++ ofChars ds :=
  List.map_append

@[simp] theorem length_ofChars (cs : List Char) : (ofChars cs).length = cs.length :=
  List.length_map _

@[simp] theorem drop_ofChars (n : Nat) (cs : List Char) :
    (ofChars cs).drop n = ofChars (cs.drop n) :=
  List.map_drop.symm

@[simp] theorem take_ofChars (n : Nat) (cs : List Char) :
    (ofChars cs).take n = ofChars (cs.take n) :=
  List.map_take.symm

@[simp] theorem charsWhile_ofChars (property : Char → Bool) (cs : List Char) :
    (ofChars cs).charsWhile property = cs.takeWhile property := by
  induction cs with
  | nil => rfl
  | cons c cs ih => rw [ofChars_cons, charsWhile, List.takeWhile_cons, ih]

theorem charsWhile_ofChars_append {property : Char → Bool} {cs : List Char}
    (h : ∀ c ∈ cs, property c) (rest : RawText) :
    charsWhile property (ofChars cs ++ rest) = cs ++ rest.charsWhile property := by
  induction cs with
  | nil => rfl
  | cons c cs ih =>
    rw [List.forall_mem_cons] at h
    rw [ofChars_cons, List.cons_append, charsWhile, if_pos h.1, ih h.2, List.cons_append]

@[simp] theorem isPrefixOf_ofChars (front cs : List Char) :
    (ofChars front).isPrefixOf (ofChars cs) = front.isPrefixOf cs := by
  induction front generalizing cs with
  | nil => rfl
  | cons f front ih =>
    cases cs with
    | nil => rfl
    | cons c cs => simp [List.isPrefixOf, ih, Bool.beq_eq_decide_eq]

theorem ofChars_injective : Function.Injective ofChars :=
  List.map_injective_iff.2 fun _ _ => CodePoint.char.inj

@[simp] theorem ofChars_inj {cs ds : List Char} : ofChars cs = ofChars ds ↔ cs = ds :=
  ofChars_injective.eq_iff

@[simp] theorem ofChars_eq_nil_iff {cs : List Char} : ofChars cs = [] ↔ cs = [] :=
  List.map_eq_nil_iff

theorem ofChars_eq_append_iff {cs front : List Char} {back : RawText} :
    ofChars cs = ofChars front ++ back ↔ ∃ ds, cs = front ++ ds ∧ back = ofChars ds := by
  constructor
  · intro h
    obtain ⟨es, ds, rfl, hfront, rfl⟩ := List.map_eq_append_iff.1 h
    exact ⟨ds, by rw [ofChars_injective hfront], rfl⟩
  · rintro ⟨ds, rfl, rfl⟩
    exact ofChars_append front ds

@[simp] theorem ofString_append (s t : String) : ofString (s ++ t) = ofString s ++ ofString t := by
  rw [ofString, String.toList_append, ofChars_append]
  rfl

@[simp] theorem ofString_inj {s t : String} : ofString s = ofString t ↔ s = t := by
  rw [ofString, ofString, ofChars_inj, String.toList_inj]

@[simp] theorem ofString_eq_nil_iff {s : String} : ofString s = [] ↔ s = "" :=
  ofString_inj (t := "")

/-! ## Separators -/

@[simp] theorem intercalate_nil (separator : RawText) : intercalate separator [] = [] :=
  List.intercalate_nil

@[simp] theorem intercalate_singleton (separator text : RawText) :
    intercalate separator [text] = text :=
  List.intercalate_singleton

theorem intercalate_cons_cons (separator text next : RawText) (rest : List RawText) :
    intercalate separator (text :: next :: rest) =
      text ++ separator ++ intercalate separator (next :: rest) :=
  List.intercalate_cons_cons

theorem intercalate_cons_of_ne_nil {separator text : RawText} {rest : List RawText}
    (h : rest ≠ []) :
    intercalate separator (text :: rest) = text ++ separator ++ intercalate separator rest := by
  obtain ⟨next, more, rfl⟩ := List.exists_cons_of_ne_nil h
  exact intercalate_cons_cons separator text next more

/-- What holds of an empty text, of a separator and of all texts, and is kept when one text is put
behind another, holds of the texts with the separator between them. -/
theorem intercalate_induction {P : RawText → Prop} {separator : RawText} {texts : List RawText}
    (hempty : P []) (happend : ∀ {front back}, P front → P back → P (front ++ back))
    (hseparator : P separator) (h : ∀ text ∈ texts, P text) :
    P (intercalate separator texts) := by
  induction texts with
  | nil => rwa [intercalate_nil]
  | cons text texts ih =>
    rw [List.forall_mem_cons] at h
    cases texts with
    | nil => simpa using h.1
    | cons next texts =>
      rw [intercalate_cons_cons]
      exact happend (happend h.1 hseparator) (ih h.2)

theorem ofString_intercalate (separator : String) (texts : List String) :
    ofString (String.intercalate separator texts) = intercalate separator (texts.map ofString) := by
  induction texts with
  | nil => rfl
  | cons text texts ih =>
    cases texts with
    | nil => simp
    | cons next texts =>
      rw [String.intercalate_cons_cons, ofString_append, ofString_append, ih, List.map_cons,
        List.map_cons, List.map_cons, intercalate_cons_cons]

theorem intercalate_ofChars (separator : List Char) (texts : List (List Char)) :
    intercalate (ofChars separator) (texts.map ofChars) =
      ofChars (separator.intercalate texts) := by
  induction texts with
  | nil => rfl
  | cons text texts ih =>
    cases texts with
    | nil => simp
    | cons next texts =>
      rw [List.map_cons, List.map_cons, intercalate_cons_cons, ← List.map_cons, ih,
        List.intercalate_cons_cons, ofChars_append, ofChars_append]

/-! ## Unbroken texts -/

/-- A raw text without surrogates. -/
def IsUnbroken (text : RawText) : Prop :=
  ∀ point ∈ text, point.IsChar

instance (text : RawText) : Decidable text.IsUnbroken :=
  inferInstanceAs (Decidable (∀ point ∈ text, point.IsChar))

@[simp] theorem isUnbroken_nil : IsUnbroken [] :=
  List.forall_mem_nil _

@[simp] theorem isUnbroken_cons {point : CodePoint} {rest : RawText} :
    IsUnbroken (point :: rest) ↔ point.IsChar ∧ rest.IsUnbroken :=
  List.forall_mem_cons

@[simp] theorem isUnbroken_append {front back : RawText} :
    IsUnbroken (front ++ back) ↔ front.IsUnbroken ∧ back.IsUnbroken :=
  List.forall_mem_append

theorem isUnbroken_intercalate {separator : RawText} (hseparator : separator.IsUnbroken)
    {texts : List RawText} :
    (intercalate separator texts).IsUnbroken ↔ ∀ text ∈ texts, text.IsUnbroken := by
  induction texts with
  | nil => simp
  | cons text texts ih =>
    cases texts with
    | nil => simp
    | cons next texts =>
      rw [intercalate_cons_cons, isUnbroken_append, isUnbroken_append, ih, List.forall_mem_cons]
      simp [hseparator]

theorem isUnbroken_ofChars (cs : List Char) : (ofChars cs).IsUnbroken := by
  intro point hpoint
  obtain ⟨c, -, rfl⟩ := List.mem_map.1 hpoint
  trivial

@[simp] theorem isUnbroken_ofString (s : String) : (ofString s).IsUnbroken :=
  isUnbroken_ofChars s.toList

theorem IsUnbroken.of_subset {front text : RawText} (h : text.IsUnbroken) (hsub : front ⊆ text) :
    front.IsUnbroken :=
  fun point hpoint => h point (hsub hpoint)

theorem toChars?_eq_some_iff {text : RawText} {cs : List Char} :
    text.toChars? = some cs ↔ text = ofChars cs := by
  constructor
  · intro h
    induction text generalizing cs with
    | nil =>
      cases h
      rfl
    | cons point rest ih =>
      cases point with
      | surrogate index => cases h
      | char c =>
        obtain ⟨ds, hds, rfl⟩ := Option.map_eq_some_iff.1 h
        rw [ih hds, ofChars_cons]
  · rintro rfl
    exact toChars?_ofChars cs

theorem toString?_eq_some_iff {text : RawText} {s : String} :
    text.toString? = some s ↔ text = ofString s := by
  constructor
  · intro h
    obtain ⟨cs, hcs, rfl⟩ := Option.map_eq_some_iff.1 h
    rw [toChars?_eq_some_iff.1 hcs, ofString, String.toList_ofList]
  · rintro rfl
    exact toString?_ofString s

theorem IsUnbroken.exists_ofChars {text : RawText} (h : text.IsUnbroken) :
    ∃ cs, text = ofChars cs := by
  induction text with
  | nil => exact ⟨[], rfl⟩
  | cons point rest ih =>
    obtain ⟨hpoint, hrest⟩ := isUnbroken_cons.1 h
    obtain ⟨c, rfl⟩ := CodePoint.isChar_iff.1 hpoint
    obtain ⟨cs, rfl⟩ := ih hrest
    exact ⟨c :: cs, rfl⟩

/-- A raw text without surrogates is a text. -/
theorem isUnbroken_iff {text : RawText} : text.IsUnbroken ↔ ∃ s, text = ofString s := by
  constructor
  · intro h
    obtain ⟨cs, rfl⟩ := h.exists_ofChars
    exact ⟨String.ofList cs, by rw [ofString, String.toList_ofList]⟩
  · rintro ⟨s, rfl⟩
    exact isUnbroken_ofString s

end RawText

/-! ## Bytes -/

namespace Utf8

open RawText (ofString)

@[simp] theorem encode?_ofString (s : String) : encode? (ofString s) = some (encode s) := by
  rw [encode?, RawText.toString?_ofString]
  rfl

/-- Just the texts with a surrogate have no bytes. -/
theorem encode?_eq_none_iff {text : RawText} : encode? text = none ↔ ¬ text.IsUnbroken := by
  rw [encode?, Option.map_eq_none_iff, Option.eq_none_iff_forall_ne_some, RawText.isUnbroken_iff,
    not_exists]
  simp only [ne_eq, RawText.toString?_eq_some_iff]

end Utf8
end ResolverTypings.Text
