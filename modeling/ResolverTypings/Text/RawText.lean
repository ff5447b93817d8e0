import ResolverTypings.Text.Digit
import ResolverTypings.Text.Escape

/-!
# Raw text

Text from outside may hold surrogates that stand alone: numbers of the range that is kept
for pairs, which are no characters. A raw text is a list of such code points. Where it
holds characters only it is a `String`, and `toString?` and `ofString` lead from the one
to the other.
-/
namespace ResolverTypings.Text

/-- The number of the first surrogate. -/
def firstSurrogate : Nat := 0xD800

/-- How many surrogates there are. The first half of them comes first in a pair. -/
def surrogateCount : Nat := 0x800

/-- A code point: a character, or a surrogate by its place among all of them. -/
inductive CodePoint where
  | char (c : Char)
  | surrogate (index : Fin surrogateCount)
  deriving Repr, DecidableEq, Inhabited

namespace CodePoint

/-- The number of a code point. -/
def toNat : CodePoint → Nat
  | char c => c.toNat
  | surrogate index => firstSurrogate + index

/-- The code point with a number. -/
def ofNat? (n : Nat) : Option CodePoint :=
  if isScalarValue n then some (char (Char.ofNat n))
  else if h : n - firstSurrogate < surrogateCount then some (surrogate ⟨n - firstSurrogate, h⟩)
  else none

/-- Whether a code point is a character with a property. -/
def satisfies (property : Char → Bool) : CodePoint → Bool
  | char c => property c
  | surrogate _ => false

/-- The character whose halves two code points are. -/
def pair? (first second : CodePoint) : Option Char :=
  if isHighSurrogate first.toNat && isLowSurrogate second.toNat then
    some (joinSurrogates first.toNat second.toNat)
  else none

end CodePoint

/-- Text that may hold surrogates. -/
abbrev RawText := List CodePoint

namespace RawText

/-- Characters as a raw text. -/
def ofChars (cs : List Char) : RawText := cs.map .char

/-- A text as a raw text. -/
def ofString (s : String) : RawText := ofChars s.toList

instance : Coe String RawText := ⟨ofString⟩

/-- The characters of a raw text that holds no surrogate. -/
def toChars? : RawText → Option (List Char)
  | [] => some []
  | .char c :: rest => (toChars? rest).map (c :: ·)
  | .surrogate _ :: _ => none

/-- The text that a raw text without surrogates is. -/
def toString? (text : RawText) : Option String :=
  (toChars? text).map String.ofList

@[simp] theorem toChars?_ofChars (cs : List Char) : toChars? (ofChars cs) = some cs := by
  induction cs with
  | nil => rfl
  | cons c cs ih =>
    have h : ofChars (c :: cs) = .char c :: ofChars cs := rfl
    simp [h, toChars?, ih]

/-- A text is found again in its raw text. -/
@[simp] theorem toString?_ofString (s : String) : toString? (ofString s) = some s := by
  simp [toString?, ofString]

/-- The characters with a property in front of a raw text. -/
def charsWhile (property : Char → Bool) : RawText → List Char
  | .char c :: rest => if property c then c :: charsWhile property rest else []
  | _ => []

/-- The characters with a property in front of a raw text, and what follows them. -/
def spanChars (property : Char → Bool) (text : RawText) : List Char × RawText :=
  let front := charsWhile property text
  (front, text.drop front.length)

/-- Raw texts with a separator between two of them. -/
def intercalate (separator : RawText) (texts : List RawText) : RawText :=
  List.intercalate separator texts

/-- The code points in front that make up one character: the character itself, or the two
halves of a pair, which stay two code points. A surrogate that stands alone makes none. -/
def front? : RawText → Option RawText
  | .char c :: _ => some [.char c]
  | first :: second :: _ => if (first.pair? second).isSome then some [first, second] else none
  | _ => none

/-- A code point in characters: a surrogate is shown by the escape of its number. -/
def shownPoint : CodePoint → List Char
  | .char c => [c]
  | point => fourDigitEscape point.toNat

/-- A raw text in characters. -/
def shown (text : RawText) : String :=
  String.ofList (text.flatMap shownPoint)

/-- Text without surrogates is shown as it is. -/
@[simp] theorem shown_ofString (s : String) : shown (ofString s) = s := by
  have h : ∀ cs : List Char, (ofChars cs).flatMap shownPoint = cs := by
    intro cs
    induction cs with
    | nil => rfl
    | cons c cs ih => simpa [ofChars, shownPoint] using ih
  simp [shown, ofString, h]

end RawText
end ResolverTypings.Text
