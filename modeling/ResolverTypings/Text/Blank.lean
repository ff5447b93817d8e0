import ResolverTypings.Text.RawText

/-!
# Blank characters

White space as Unicode has it, together with the four information separators
U+001C to U+001F. Header names and values are trimmed of it, and the field sets of
keys are put into a normal form in which one space stands between two words.
-/
namespace ResolverTypings.Text

/-- White space: the control spaces, the separators and every Unicode space. -/
def isBlank (c : Char) : Bool :=
  let n := c.toNat
  (9 ≤ n && n ≤ 13) || (28 ≤ n && n ≤ 32) || n == 0x85 || n == 0xA0 || n == 0x1680 ||
    (0x2000 ≤ n && n ≤ 0x200A) || n == 0x2028 || n == 0x2029 || n == 0x202F ||
    n == 0x205F || n == 0x3000

/-- Drop the blanks at the end. -/
def trimRight : List Char → List Char
  | [] => []
  | c :: cs =>
    match trimRight cs with
    | [] => if isBlank c then [] else [c]
    | rest => c :: rest

/-- Drop the blanks at both ends. -/
def trim (cs : List Char) : List Char :=
  trimRight (cs.dropWhile isBlank)

/-- The words of a text: its longest stretches without a blank. -/
def words {α : Type} (isBlank : α → Bool) : List α → List (List α)
  | [] => []
  | [x] => if isBlank x then [] else [[x]]
  | x :: y :: rest =>
    if isBlank x then words isBlank (y :: rest)
    else if isBlank y then [x] :: words isBlank (y :: rest)
    else
      match words isBlank (y :: rest) with
      | w :: ws => (x :: w) :: ws
      | [] => [[x]]

/-- The words of a text with one space between two of them. -/
def singleSpaced (text : RawText) : RawText :=
  RawText.intercalate " " (words (·.satisfies isBlank) text)

end ResolverTypings.Text
