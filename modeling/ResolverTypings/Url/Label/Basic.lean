import ResolverTypings.Text.Composition
import ResolverTypings.Url.Label.Direction
import ResolverTypings.Url.Label.Joining
import ResolverTypings.Url.Label.Letter
import ResolverTypings.Url.Label.Script

/-!
# Labels of host names

A label is a word of a host name in any script. It must be written in one way only, and
no label may be taken for one in ASCII that stands for another one. What is wrong with a
text that is no label is told by the first rule that it breaks.
-/
namespace ResolverTypings.Url

/-- One of the digits of Arabic. -/
def isArabicDigit (c : Char) : Bool := '\u0660' ≤ c && c ≤ '\u0669'

/-- One of the digits of Persian and Urdu. -/
def isPersianDigit (c : Char) : Bool := '\u06F0' ≤ c && c ≤ '\u06F9'

/-- Whether a letter is allowed where it stands in a label: behind a text, which is given
in reverse, and before another one. -/
def isAllowedBetween (label before : List Char) (c : Char) (behind : List Char) : Bool :=
  match c with
  | '\u200C' => mayBeParted before behind
  | '\u200D' => killsVowel before
  | '\u00B7' => before.head? = some 'l' && behind.head? = some 'l'
  | '\u0375' => behind.head?.any greekChars.contains
  | '\u05F3' | '\u05F4' => before.head?.any hebrewChars.contains
  | '\u30FB' => label.any fun other => other ≠ '\u30FB' && japaneseChars.contains other
  | _ =>
    if isArabicDigit c then !label.any isPersianDigit
    else if isPersianDigit c then !label.any isArabicDigit
    else true

/-- Why a text is no label. -/
inductive LabelFault where
  /-- It is empty, not composed or badly written, or a hyphen or a mark is out of place. -/
  | shape
  /-- A character stands in no label. -/
  | letter
  /-- A letter is not allowed between its neighbours. -/
  | neighbours
  /-- Its letters do not keep to one direction. -/
  | direction
  deriving Repr, DecidableEq, Inhabited

/-- One of the two characters that force or forbid a joint. -/
def isJoiner (c : Char) : Bool := c = '\u200C' || c = '\u200D'

/-- Check the rest of a label, behind what stands in reverse before it: it holds letters
only that are allowed where they stand. Whether a joiner is allowed cannot be told behind
a character of no known combining class, and such a label is badly written. -/
def checkLetters (label before : List Char) : List Char → Except LabelFault Unit
  | [] => return ()
  | c :: cs =>
    if !isLabelLetter c then throw .letter
    else if isJoiner c && endsUnclassified before then throw .shape
    else if !isAllowedBetween label before c cs then throw .neighbours
    else checkLetters label (c :: before) cs

/-- Whether the hyphens of a label stand where they may: at neither end, and not where a
label in ASCII shows that it stands for another one. -/
def keepsHyphens (label : List Char) : Bool :=
  label.head? ≠ some '-' && label.getLast? ≠ some '-' && (label.drop 2).take 2 ≠ ['-', '-']

/-- Whether a text has the shape of a label, whatever its letters. -/
def hasLabelShape (label : List Char) : Bool :=
  !label.isEmpty && Text.isComposed label && keepsHyphens label && !label.head?.any Text.isMark

/-- Check that a text is a label: its shape, then each letter, then their direction. -/
def checkLabel (label : List Char) : Except LabelFault Unit := do
  if !hasLabelShape label then throw .shape
  checkLetters label [] label
  if !keepsDirection label then throw .direction

end ResolverTypings.Url
