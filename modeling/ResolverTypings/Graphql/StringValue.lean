import ResolverTypings.Graphql.Token
import ResolverTypings.Text.Lines

/-!
# String values

The two forms of a string: between quotes on one line with escapes, and between triple
quotes over several lines, where a quoted triple quote is the only escape and the
indent that the lines share is no part of the value. Neither may hold a surrogate that
stands alone.
-/
namespace ResolverTypings.Graphql

open Text (CodePoint RawText hexNumber? letterEscape? isScalarValue isHighSurrogate isLowSurrogate
  joinSurrogates)

/-! ## Escapes -/

/-- The character of an escape and the number of code points it takes, its backslash
included. -/
abbrev EscapeResult := Except LexicalFault (Char × Nat)

/-- The front of an escape as a fault shows it. -/
def shownEscape (afterBackslash : RawText) (length : Nat) : RawText :=
  .char '\\' :: afterBackslash.take (length - 1)

/-- The number that hexadecimal digits write, if there is nothing else. -/
def hexCode? (digits : RawText) : Option Nat :=
  digits.toChars?.bind hexNumber?

/-- Four digits after `\u`; a high surrogate needs the low one in an escape of its own
right behind it. -/
def fixedWidthEscape (afterBackslash : RawText) : EscapeResult :=
  let fault : EscapeResult := throw (.unicodeEscape (shownEscape afterBackslash 6))
  let digits := (afterBackslash.drop 1).take 4
  match hexCode? digits with
  | none => fault
  | some code =>
    if digits.length < 4 then fault
    else if isScalarValue code then pure (Char.ofNat code, 6)
    else
      match afterBackslash.drop 5 with
      | .char '\\' :: .char 'u' :: rest =>
        match hexCode? (rest.take 4) with
        | some low =>
          if 4 ≤ rest.length ∧ isHighSurrogate code ∧ isLowSurrogate low then
            pure (joinSurrogates code low, 12)
          else fault
        | none => fault
      | _ => fault

/-- The digits of an escape in braces. `read` counts the code points before the ones
left, from the backslash on; an escape has at most twelve. The result is the character
with the length, or the length up to what stands in the way. -/
def bracedDigits (code : Nat) : (read : Nat) → RawText → Except Nat (Char × Nat)
  | read, [] => throw read
  | read, point :: rest =>
    if 12 ≤ read then throw read
    else if point = .char '}' then
      if 4 ≤ read ∧ isScalarValue code then pure (Char.ofNat code, read + 1)
      else throw (read + 1)
    else
      match hexCode? [point] with
      | some d => bracedDigits (16 * code + d) (read + 1) rest
      | none => throw (read + 1)

/-- Digits in braces after `\u`. -/
def bracedEscape (afterBackslash : RawText) : EscapeResult :=
  match bracedDigits 0 3 (afterBackslash.drop 2) with
  | .ok found => pure found
  | .error length => throw (.unicodeEscape (shownEscape afterBackslash length))

/-- The escape that starts with a backslash, read from what stands behind it. -/
def escapeSequence (afterBackslash : RawText) : EscapeResult :=
  let fault : EscapeResult := throw (.characterEscape (shownEscape afterBackslash 2))
  match afterBackslash with
  | .char 'u' :: .char '{' :: _ => bracedEscape afterBackslash
  | .char 'u' :: _ => fixedWidthEscape afterBackslash
  | .char c :: _ =>
    match letterEscape? c with
    | some d => pure (d, 2)
    | none => fault
  | _ => fault

/-! ## Reading strings -/

/-- What has been read of a string and the number of code points read, or a fault with the
number of code points before it. -/
abbrev StringResult := Except (LexicalFault × Nat) (RawText × Nat)

/-- Count one more code point in front. -/
def StringResult.further : StringResult → StringResult
  | .ok (value, length) => .ok (value, length + 1)
  | .error (fault, before) => .error (fault, before + 1)

/-- Put code points in front of what has been read. -/
def StringResult.behind (front : RawText) (result : StringResult) : StringResult :=
  result.map fun (value, length) => (front ++ value, length)

/-- The code points that make up the character in front in a string. The halves of a pair
that were two code points in the document are two in the value as well. -/
def stringFront (text : RawText) (point : CodePoint) : Except (LexicalFault × Nat) RawText :=
  match text.front? with
  | some front => pure front
  | none => throw (.notCharacter point true, 0)

/-- The value of a string up to its closing quote, which counts as read. `covered` counts
the code points that an earlier character takes. -/
def quotedValue : (covered : Nat) → RawText → StringResult
  | _, [] => throw (.unterminatedString, 0)
  | covered + 1, _ :: rest => (quotedValue covered rest).further
  | 0, point :: rest =>
    if point = .char '"' then pure ([], 1)
    else if point = .char '\\' then
      match escapeSequence rest with
      | .error fault => throw (fault, 0)
      | .ok (c, length) => (quotedValue (length - 1) rest).further.behind [.char c]
    else if point.satisfies Text.isLineEnd then throw (.unterminatedString, 0)
    else
      match stringFront (point :: rest) point with
      | .error fault => .error fault
      | .ok front => (quotedValue (front.length - 1) rest).further.behind front

/-! ## Block strings -/

/-- Three quotes. -/
def tripleQuote : String := "\"\"\""

/-- The text of a block string up to its closing quotes, which count as read, with the
escaped triple quotes replaced. -/
def rawBlock : (covered : Nat) → RawText → StringResult
  | _, [] => throw (.unterminatedString, 0)
  | covered + 1, _ :: rest => (rawBlock covered rest).further
  | 0, point :: rest =>
    if (RawText.ofString tripleQuote).isPrefixOf (point :: rest) then pure ([], 3)
    else if point = .char '\\' ∧ (RawText.ofString tripleQuote).isPrefixOf rest then
      (rawBlock 3 rest).further.behind tripleQuote
    else
      match stringFront (point :: rest) point with
      | .error fault => .error fault
      | .ok front => (rawBlock (front.length - 1) rest).further.behind front

/-- White space at the start of a line. -/
def isIndent (point : CodePoint) : Bool := point == .char ' ' || point == .char '\t'

/-- A line of nothing but white space. -/
def isBlankLine (line : RawText) : Bool := line.all isIndent

/-- The indent that all lines but the first share, blank lines left out. -/
def commonIndent (lines : List RawText) : Nat :=
  let indents := ((lines.drop 1).filter (!isBlankLine ·)).map fun line =>
    (line.takeWhile isIndent).length
  indents.min?.getD 0

/-- The lines of a block string without their common indent and without the blank lines
at both ends. -/
def dedent (lines : List RawText) : List RawText :=
  let indent := commonIndent lines
  let shifted := lines.take 1 ++ (lines.drop 1).map (·.drop indent)
  ((shifted.dropWhile isBlankLine).reverse.dropWhile isBlankLine).reverse

/-- The value of a block string with the given text between its quotes. -/
def blockValue (raw : RawText) : RawText :=
  RawText.intercalate "\n" (dedent (Text.lines raw))

end ResolverTypings.Graphql
