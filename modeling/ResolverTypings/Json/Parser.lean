import ResolverTypings.Json.Basic
import ResolverTypings.Text.Lines

/-!
# Reading JSON

A reader works on the raw text that is left. What goes wrong is noticed at a code
point, and the number of code points then left says at which one. Beside the
values of the standard, `NaN`, `Infinity` and `-Infinity` are read as numbers; of
members with one name the last counts, in the place of the first.
-/
namespace ResolverTypings.Json

open Decimal (Binary64)
open Text (CodePoint RawText isDigit digitsValue hexNumber? maxIntegerDigits letterEscape?
  isHighSurrogate)

/-- What can be wrong with a JSON text. -/
inductive Fault where
  | byteOrderMark
  | expectingValue
  | expectingName
  | expectingColon
  | expectingComma
  | unterminatedString
  | controlCharacter
  | invalidEscape
  | invalidUnicodeEscape
  | extraData
  /-- An integer of more digits than are converted. -/
  | tooManyDigits (count : Nat)
  /-- An array or object stands too deeply in others. -/
  | tooDeep (isObject : Bool)
  deriving Repr, DecidableEq, Inhabited

/-- A fault with the number of code points left where it was noticed. -/
structure Failure where
  fault : Fault
  left : Nat
  deriving Repr, DecidableEq, Inhabited

/-- A reader of the text that is left. -/
abbrev Reader := StateT RawText (Except Failure)

/-- Fail at the current code point. -/
def Reader.fail {α : Type} (fault : Fault) : Reader α := do
  throw ⟨fault, (← get).length⟩

/-- The four characters that may stand between two values. -/
def isJsonSpace (c : Char) : Bool :=
  c == ' ' || c == '\t' || c == '\n' || c == '\r'

/-- Skip the space before the next value. -/
def skipSpace : Reader Unit :=
  modify (List.dropWhile (·.satisfies isJsonSpace))

/-! ## Strings -/

/-- The code point whose number hexadecimal digits write. -/
def hexPoint? (digits : RawText) : Option CodePoint := do
  CodePoint.ofNat? (← hexNumber? (← digits.toChars?))

/-- The code point that an escape stands for, and the number of code points it takes
behind its backslash. A numeric escape must have something behind its digits, and so must
the second half of a pair. -/
def escape : RawText → Except Failure (CodePoint × Nat)
  | .char 'u' :: w :: x :: y :: z :: rest =>
    match hexPoint? [w, x, y, z] with
    | none => throw ⟨.invalidUnicodeEscape, rest.length + 5⟩
    | some first =>
      match rest with
      | [] => throw ⟨.invalidUnicodeEscape, 5⟩
      | .char '\\' :: .char 'u' :: w' :: x' :: y' :: z' :: f :: fs =>
        if isHighSurrogate first.toNat then
          match hexPoint? [w', x', y', z'] with
          | none => throw ⟨.invalidUnicodeEscape, (f :: fs).length + 5⟩
          | some second =>
            match first.pair? second with
            | some c => pure (.char c, 11)
            | none => pure (first, 5)
        else pure (first, 5)
      | _ => pure (first, 5)
  | .char 'u' :: rest => throw ⟨.invalidUnicodeEscape, rest.length + 1⟩
  | .char c :: rest =>
    match letterEscape? c with
    | some d => pure (.char d, 1)
    | none => throw ⟨.invalidEscape, rest.length + 2⟩
  | .surrogate _ :: rest => throw ⟨.invalidEscape, rest.length + 2⟩
  | [] => throw ⟨.unterminatedString, 0⟩

/-- The text of a string up to its closing quote, and what follows the quote. `start` is
the number of code points left at the opening quote; the second argument counts the code
points that an escape has already covered. -/
def stringText (start : Nat) : Nat → RawText → Except Failure (RawText × RawText)
  | _, [] => throw ⟨.unterminatedString, start⟩
  | covered + 1, _ :: rest => stringText start covered rest
  | 0, point :: rest =>
    if point = .char '"' then pure ([], rest)
    else if point = .char '\\' then do
      if rest.isEmpty then throw ⟨.unterminatedString, start⟩
      let (escaped, length) ← escape rest
      let (text, rest) ← stringText start length rest
      return (escaped :: text, rest)
    else if point.toNat < 32 then throw ⟨.controlCharacter, rest.length + 1⟩
    else do
      let (text, rest) ← stringText start 0 rest
      return (point :: text, rest)

/-- Read the string whose opening quote has just been passed. -/
def string : Reader RawText := do
  let left ← get
  let (text, rest) ← stringText (left.length + 1) 0 left
  set rest
  return text

/-! ## Numbers -/

/-- The digits before the point: a single zero, or digits that start with no zero. -/
def wholeDigits (text : RawText) : List Char × RawText :=
  match text with
  | .char '0' :: rest => (['0'], rest)
  | _ => text.spanChars isDigit

/-- A point with at least one digit, as the digits behind it. -/
def fractionDigits (text : RawText) : List Char × RawText :=
  match text with
  | .char '.' :: rest =>
    match RawText.spanChars isDigit rest with
    | ([], _) => ([], text)
    | found => found
  | _ => ([], text)

/-- An exponent mark with at least one digit, as the power it names. -/
def exponentPart (text : RawText) : Option Int × RawText :=
  let digits (negative : Bool) (rest : RawText) : Option Int × RawText :=
    match rest.spanChars isDigit with
    | ([], _) => (none, text)
    | (ds, after) =>
      let n : Int := digitsValue ds
      (some (if negative then -n else n), after)
  match text with
  | .char mark :: rest =>
    if mark = 'e' ∨ mark = 'E' then
      match rest with
      | .char '-' :: after => digits true after
      | .char '+' :: after => digits false after
      | _ => digits false rest
    else (none, text)
  | _ => (none, text)

/-- Read a number. -/
def number : Reader Json := do
  let text ← get
  let (negative, body) := match text with
    | .char '-' :: rest => (true, rest)
    | _ => (false, text)
  let (whole, rest) := wholeDigits body
  if whole.isEmpty then Reader.fail .expectingValue
  let (fraction, rest) := fractionDigits rest
  let (power, rest) := exponentPart rest
  if fraction.isEmpty && power.isNone then
    if maxIntegerDigits < whole.length then Reader.fail (.tooManyDigits whole.length)
    set rest
    let n : Int := digitsValue whole
    return .int (if negative then -n else n)
  else
    set rest
    return .float (Binary64.ofDecimal negative (digitsValue (whole ++ fraction))
      (power.getD 0 - fraction.length))

/-! ## Values -/

/-- The words that stand for a value. -/
def constants : List (RawText × Json) :=
  [("null", .null), ("true", .bool true), ("false", .bool false), ("NaN", .float .nan),
    ("Infinity", .float (.infinite false)), ("-Infinity", .float (.infinite true))]

/-- Items with commas between them, up to a closing bracket. The bound is on their
number. -/
def itemsUntil {α : Type} (close : Char) (item : Reader α) : Nat → Reader (List α)
  | 0 => Reader.fail .expectingComma
  | bound + 1 => do
    let first ← item
    skipSpace
    match ← get with
    | point :: rest =>
      if point = .char close then
        set rest
        return [first]
      else if point = .char ',' then
        set rest
        skipSpace
        return first :: (← itemsUntil close item bound)
      else Reader.fail .expectingComma
    | [] => Reader.fail .expectingComma

/-- No item, or items with commas between them. -/
def itemsIn {α : Type} (close : Char) (item : Reader α) : Reader (List α) := do
  skipSpace
  match ← get with
  | point :: rest =>
    if point = .char close then
      set rest
      return []
    else itemsUntil close item (point :: rest).length
  | [] => itemsUntil close item 1

/-- A name, a colon and a value. -/
def memberOf (value : Reader Json) : Reader (RawText × Json) := do
  match ← get with
  | .char '"' :: rest =>
    set rest
    let name ← string
    skipSpace
    match ← get with
    | .char ':' :: rest =>
      set rest
      skipSpace
      return (name, ← value)
    | _ => Reader.fail .expectingColon
  | _ => Reader.fail .expectingName

/-- Read a value that holds no other. -/
def flatValue : Reader Json := do
  match ← get with
  | .char '"' :: rest =>
    set rest
    return .str (← string)
  | text =>
    match constants.find? fun entry => entry.1.isPrefixOf text with
    | some (word, value) =>
      set (text.drop word.length)
      return value
    | none => number

/-- How deeply arrays and objects may stand in one another. -/
def maxDepth : Nat := 985

/-- Read a value with room for arrays and objects. -/
def valueAt : (room : Nat) → Reader Json
  | 0 => do
    match ← get with
    | .char '{' :: _ => Reader.fail (.tooDeep true)
    | .char '[' :: _ => Reader.fail (.tooDeep false)
    | _ => flatValue
  | room + 1 => do
    match ← get with
    | .char '{' :: rest =>
      set rest
      return .obj (Table.ofList (← itemsIn '}' (memberOf (valueAt room))))
    | .char '[' :: rest =>
      set rest
      return .arr (← itemsIn ']' (valueAt room))
    | _ => flatValue

/-- Read a text that holds one value and nothing else. -/
def document : Reader Json := do
  if (← get).head? = some (.char '\uFEFF') then Reader.fail .byteOrderMark
  skipSpace
  let value ← valueAt maxDepth
  skipSpace
  if (← get).isEmpty then return value else Reader.fail .extraData

/-! ## Errors -/

/-- A fault at an offset of a text. -/
structure ParseError where
  fault : Fault
  offset : Nat
  deriving Repr, DecidableEq, Inhabited

/-- The value that a text holds. -/
def parse (text : RawText) : Except ParseError Json :=
  match document.run text with
  | .ok (value, _) => .ok value
  | .error failure => .error ⟨failure.fault, text.length - failure.left⟩

/-- What a fault is called. -/
def Fault.message : Fault → String
  | .byteOrderMark => "Unexpected UTF-8 BOM (decode using utf-8-sig)"
  | .expectingValue => "Expecting value"
  | .expectingName => "Expecting property name enclosed in double quotes"
  | .expectingColon => "Expecting ':' delimiter"
  | .expectingComma => "Expecting ',' delimiter"
  | .unterminatedString => "Unterminated string starting at"
  | .controlCharacter => "Invalid control character at"
  | .invalidEscape => "Invalid \\escape"
  | .invalidUnicodeEscape => "Invalid \\uXXXX escape"
  | .extraData => "Extra data"
  | .tooManyDigits count =>
    s!"Exceeds the limit ({maxIntegerDigits} digits) for integer string conversion: " ++
      s!"value has {count} digits; use sys.set_int_max_str_digits() to increase the limit"
  | .tooDeep isObject =>
    let kind := if isObject then "object" else "array"
    s!"maximum recursion depth exceeded while decoding a JSON {kind} from a unicode string"

/-- The text of an error; all but those on limits of the reader tell the place. -/
def ParseError.message (error : ParseError) (text : RawText) : String :=
  match error.fault with
  | .tooManyDigits _ | .tooDeep _ => error.fault.message
  | _ =>
    let place := Text.positionAt text error.offset
    s!"{error.fault.message}: line {place.line} column {place.column} (char {error.offset})"

end ResolverTypings.Json
