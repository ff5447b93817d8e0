import ResolverTypings.Text.RawText

/-!
# Lines

A line ends at a carriage return with a line feed, at a line feed alone, or at a
carriage return alone. A text has one line more than it has line ends, so it never
has no line.
-/
namespace ResolverTypings.Text

/-- One of the two characters that can end a line. -/
def isLineEnd (c : Char) : Bool :=
  c == '\n' || c == '\r'

/-- The lines of a text, without their line ends. -/
def lines : RawText → List RawText
  | [] => [[]]
  | .char '\r' :: .char '\n' :: rest => [] :: lines rest
  | point :: rest =>
    if point.satisfies isLineEnd then [] :: lines rest
    else
      match lines rest with
      | l :: ls => (point :: l) :: ls
      | [] => [[point]]

/-- Every line end becomes a line feed. -/
def unifyLineEnds : List Char → List Char
  | [] => []
  | '\r' :: '\n' :: cs => '\n' :: unifyLineEnds cs
  | c :: cs => (if c = '\r' then '\n' else c) :: unifyLineEnds cs

/-- A place in a text; lines and columns count from one. -/
structure Position where
  line : Nat
  column : Nat
  deriving Repr, DecidableEq, Inhabited

/-- Walk over the given number of code points from a known place. -/
def Position.advance (p : Position) : RawText → Nat → Position
  | [], _ => p
  | _ :: _, 0 => p
  | .char '\r' :: .char '\n' :: rest, n + 2 => Position.advance ⟨p.line + 1, 1⟩ rest n
  | point :: rest, n + 1 =>
    if point.satisfies isLineEnd then Position.advance ⟨p.line + 1, 1⟩ rest n
    else Position.advance ⟨p.line, p.column + 1⟩ rest n

/-- The place of the code point at an offset. -/
def positionAt (text : RawText) (offset : Nat) : Position :=
  Position.advance ⟨1, 1⟩ text offset

end ResolverTypings.Text
