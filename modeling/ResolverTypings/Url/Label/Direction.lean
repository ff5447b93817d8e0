import ResolverTypings.Text.Mark
import ResolverTypings.Url.Label.Letter

/-!
# Direction of labels

The direction in which the letters of host names are written. A label with a letter that
runs from right to left must keep to one direction: it starts with such a letter, holds
none that runs the other way and numbers of one kind only, and ends with a letter or a
number. The directions are those of Unicode 14; a label keeps to none with a letter that
came later.
-/
namespace ResolverTypings.Url

open Text (CodePointSet)

/-- How a character of a label behaves where directions meet. -/
inductive Direction where
  | leftToRight
  | rightToLeft
  /-- A number that letters from left to right go with. -/
  | number
  /-- A number that letters from right to left go with. -/
  | arabicNumber
  | neutral
  /-- A mark goes with the character before it. -/
  | mark
  | unknown
  deriving Repr, DecidableEq, Inhabited

/-- The letters that run from right to left. -/
def rightToLeftLetters : CodePointSet where
  spans := #[
  (1488, 1514), (1519, 1524), (1568, 1599), (1601, 1610), (1646, 1647), (1649, 1652),
  (1657, 1747), (1749, 1749), (1765, 1766), (1774, 1775), (1786, 1791), (1808, 1808),
  (1810, 1839), (1869, 1957), (1969, 1969), (1984, 2026), (2036, 2037), (2048, 2069),
  (2074, 2074), (2084, 2084), (2088, 2088), (2112, 2136), (2144, 2154), (2160, 2183),
  (2185, 2190), (2208, 2249), (65139, 65139), (67584, 67589), (67592, 67592), (67594, 67637),
  (67639, 67640), (67644, 67644), (67647, 67669), (67680, 67702), (67712, 67742), (67808, 67826),
  (67828, 67829), (67840, 67861), (67872, 67897), (67968, 68023), (68030, 68031), (68096, 68096),
  (68112, 68115), (68117, 68119), (68121, 68149), (68192, 68220), (68224, 68252), (68288, 68295),
  (68297, 68324), (68352, 68405), (68416, 68437), (68448, 68466), (68480, 68497), (68608, 68680),
  (68800, 68850), (68864, 68899), (69248, 69289), (69296, 69297), (69376, 69404), (69415, 69415),
  (69424, 69445), (69488, 69505), (69552, 69572), (69600, 69622), (124928, 125124),
  (125218, 125251), (125259, 125259), (125264, 125273)]

/-- The digits that letters from left to right go with. -/
def europeanDigits : CodePointSet where
  spans := #[
  (48, 57), (1776, 1785)]

/-- The digits and signs that letters from right to left go with. -/
def arabicDigits : CodePointSet where
  spans := #[
  (1632, 1641), (68912, 68921)]

/-- The characters of labels without a direction, marks apart. -/
def neutralChars : CodePointSet where
  spans := #[
  (45, 45), (183, 183), (697, 698), (710, 719), (748, 748), (885, 885), (8204, 8205),
  (11823, 11823), (12539, 12539), (42623, 42623), (42775, 42783), (42888, 42888)]

/-- The nonspacing marks that run from left to right like letters. -/
def directedMarks : CodePointSet where
  spans := #[
  (3263, 3263), (3270, 3270), (72199, 72200), (72767, 72767)]

/-- How a character behaves where directions meet. -/
def directionOf (c : Char) : Direction :=
  if rightToLeftLetters.contains c then .rightToLeft
  else if europeanDigits.contains c then .number
  else if arabicDigits.contains c then .arabicNumber
  else if neutralChars.contains c then .neutral
  else if Text.nonspacingMarks.contains c && !directedMarks.contains c then .mark
  else if laterLetters.contains c then .unknown
  else .leftToRight

/-- Whether a character makes the direction of its label count. -/
def Direction.isRightward : Direction → Bool
  | .rightToLeft | .arabicNumber => true
  | _ => false

/-- Whether the last direction that is no mark satisfies a condition. -/
def endsOn (condition : Direction → Bool) (directions : List Direction) : Bool :=
  match (directions.filter (· ≠ .mark)).getLast? with
  | some last => condition last
  | none => false

/-- Whether a label keeps to one direction. -/
def keepsDirection (label : List Char) : Bool :=
  let directions := label.map directionOf
  if directions.contains .unknown then false
  else if directions.any Direction.isRightward then
    directions.head? = some .rightToLeft && !directions.contains .leftToRight &&
      endsOn (· ≠ .neutral) directions &&
      !(directions.contains .number && directions.contains .arabicNumber)
  else true

end ResolverTypings.Url
