import ResolverTypings.Graphql.StringValue

/-!
# Reading tokens

A token is read from its first code point and what follows, together with the number of
code points it takes; the walk over the document then passes over that many. The walk
stops at the first fault.
-/
namespace ResolverTypings.Graphql

open Text (CodePoint RawText isDigit)

/-- A character that stands between tokens and means nothing. -/
def isIgnored (c : Char) : Bool :=
  c == ' ' || c == '\t' || c == ',' || c == '\uFEFF' || Text.isLineEnd c

/-- A character that a name can start with. -/
def isNameStart (c : Char) : Bool :=
  ('a' ≤ c && c ≤ 'z') || ('A' ≤ c && c ≤ 'Z') || c == '_'

/-- A character that a name can go on with. -/
def isNamePart (c : Char) : Bool := isNameStart c || isDigit c

/-- A token with its length, or a fault with the number of code points before it. -/
abbrev Scan := Except (LexicalFault × Nat) (Token × Nat)

/-! ## Numbers -/

/-- The number of digits at the front, of which there must be one; `before` counts the
characters of the number that come earlier. -/
def digitCount (before : Nat) (text : RawText) : Except (LexicalFault × Nat) Nat :=
  match text.charsWhile isDigit with
  | [] => throw (.expectedDigit text.head?, before)
  | digits => pure digits.length

/-- The length of the digits before the point: a single zero, or digits that start with
no zero. -/
def wholeLength (before : Nat) (text : RawText) : Except (LexicalFault × Nat) Nat :=
  match text with
  | .char '0' :: .char c :: _ =>
    if isDigit c then throw (.digitAfterZero c, before + 1) else pure 1
  | _ => digitCount before text

/-- The length of a point with its digits; nothing if no point follows. -/
def fractionLength (before : Nat) (text : RawText) : Except (LexicalFault × Nat) Nat :=
  match text with
  | .char '.' :: rest => (· + 1) <$> digitCount (before + 1) rest
  | _ => pure 0

/-- The length of an exponent mark with its sign and digits; nothing if none follows. -/
def exponentLength (before : Nat) (text : RawText) : Except (LexicalFault × Nat) Nat :=
  match text with
  | .char c :: rest =>
    if c = 'e' ∨ c = 'E' then
      let sign := match rest with
        | .char '+' :: _ | .char '-' :: _ => 1
        | _ => 0
      (· + 1 + sign) <$> digitCount (before + 1 + sign) (rest.drop sign)
    else pure 0
  | _ => pure 0

/-- Read a number. A name or a point may not follow it at once. -/
def scanNumber (text : RawText) : Scan := do
  let sign := if text.head? = some (.char '-') then 1 else 0
  let whole := sign + (← wholeLength sign (text.drop sign))
  let fraction ← fractionLength whole (text.drop whole)
  let mantissa := whole + fraction
  let exponent ← exponentLength mantissa (text.drop mantissa)
  let length := mantissa + exponent
  match text.drop length with
  | .char c :: _ =>
    if c = '.' ∨ isNameStart c then throw (.expectedDigit (some (.char c)), length)
  | _ => pure ()
  let shown := RawText.shown (text.take length)
  return (if length = whole then .int shown else .float shown, length)

/-! ## All tokens -/

/-- The punctuation mark of a single character. -/
def punctuator? : Char → Option Punctuator
  | '!' => some .bang
  | '$' => some .dollar
  | '&' => some .ampersand
  | '(' => some .parenLeft
  | ')' => some .parenRight
  | ':' => some .colon
  | '=' => some .equals
  | '@' => some .atSign
  | '[' => some .bracketLeft
  | ']' => some .bracketRight
  | '{' => some .braceLeft
  | '|' => some .pipe
  | '}' => some .braceRight
  | _ => none

/-- Read a string from what stands behind its first quote. -/
def scanString (text : RawText) : Scan :=
  match text with
  | .char '"' :: .char '"' :: rest =>
    match rawBlock 0 rest with
    | .ok (raw, length) => pure (.blockString (blockValue raw), length + 3)
    | .error (fault, before) => throw (fault, before + 3)
  | _ =>
    match quotedValue 0 text with
    | .ok (value, length) => pure (.string value, length + 1)
    | .error (fault, before) => throw (fault, before + 1)

/-- Read the token that starts with a character. -/
def scanToken (c : Char) (rest : RawText) : Scan :=
  match punctuator? c with
  | some mark => pure (.punctuator mark, 1)
  | none =>
    if c = '.' then
      if (RawText.ofString "..").isPrefixOf rest then pure (.punctuator .spread, 3)
      else throw (.unexpectedCharacter (.char c), 0)
    else if c = '"' then scanString rest
    else if isDigit c ∨ c = '-' then scanNumber (.char c :: rest)
    else if isNameStart c then
      let part := rest.charsWhile isNamePart
      pure (.name (String.ofList (c :: part)), part.length + 1)
    else if c = '\'' then throw (.singleQuote, 0)
    else throw (.unexpectedCharacter (.char c), 0)

/-- The fault of a surrogate outside of strings, of which the text given starts with it. -/
def surrogateFault (point : CodePoint) (text : RawText) : LexicalFault :=
  if text.front?.isSome then .unexpectedCharacter point else .notCharacter point false

/-- The number of code points that a comment goes on for, up to the end of its line or a
surrogate that stands alone. `covered` counts those that an earlier character takes. -/
def commentLength : (covered : Nat) → RawText → Nat
  | _, [] => 0
  | covered + 1, _ :: rest => commentLength covered rest + 1
  | 0, point :: rest =>
    match RawText.front? (point :: rest) with
    | some front =>
      if point.satisfies Text.isLineEnd then 0 else commentLength (front.length - 1) rest + 1
    | none => 0

/-- The tokens of the text left. `covered` counts the code points that an earlier token or
a comment takes, and `offset` those before the ones left. -/
def scan : (covered offset : Nat) → RawText → List Lexeme
  | _, offset, [] => [⟨.endOfInput, offset⟩]
  | covered + 1, offset, _ :: rest => scan covered (offset + 1) rest
  | 0, offset, .surrogate index :: rest =>
    [⟨.invalid (surrogateFault (.surrogate index) (.surrogate index :: rest)), offset⟩]
  | 0, offset, .char c :: rest =>
    if isIgnored c then scan 0 (offset + 1) rest
    else if c = '#' then scan (commentLength 0 rest) (offset + 1) rest
    else
      match scanToken c rest with
      | .ok (token, length) => ⟨token, offset⟩ :: scan (length - 1) (offset + 1) rest
      | .error (fault, before) => [⟨.invalid fault, offset + before⟩]

/-- The tokens of a document. -/
def lexemes (document : RawText) : List Lexeme :=
  scan 0 0 document

end ResolverTypings.Graphql
