import ResolverTypings.Text.RawText

/-!
# Tokens of a GraphQL document

A document is read as a list of tokens, each with the offset of its first code point.
The list ends with the end of the input, or with the fault that stopped the reading.
-/
namespace ResolverTypings.Graphql

open Text (CodePoint RawText)

/-- The punctuation marks of the grammar. -/
inductive Punctuator where
  | bang | dollar | ampersand | parenLeft | parenRight | spread | colon | equals | atSign
  | bracketLeft | bracketRight | braceLeft | pipe | braceRight
  deriving Repr, DecidableEq, Inhabited

/-- How a punctuation mark is written. -/
def Punctuator.text : Punctuator → String
  | .bang => "!"
  | .dollar => "$"
  | .ampersand => "&"
  | .parenLeft => "("
  | .parenRight => ")"
  | .spread => "..."
  | .colon => ":"
  | .equals => "="
  | .atSign => "@"
  | .bracketLeft => "["
  | .bracketRight => "]"
  | .braceLeft => "\x7b"
  | .pipe => "|"
  | .braceRight => "\x7d"

/-- What can stop the reading of tokens. -/
inductive LexicalFault where
  | unexpectedCharacter (found : CodePoint)
  /-- A surrogate that stands alone, in a string or elsewhere. -/
  | notCharacter (found : CodePoint) (inString : Bool)
  | singleQuote
  | unterminatedString
  /-- A backslash with a letter that names no character, as it stands in the text. -/
  | characterEscape (shown : RawText)
  /-- A numeric escape that names no character, as it stands in the text. -/
  | unicodeEscape (shown : RawText)
  | digitAfterZero (c : Char)
  /-- What stands where a number needs a digit; nothing at the end of the input. -/
  | expectedDigit (found : Option CodePoint)
  deriving Repr, DecidableEq, Inhabited

/-- A token; strings carry their value and numbers their text. A value may hold the two
halves of a pair side by side. -/
inductive Token where
  | punctuator (mark : Punctuator)
  | name (text : String)
  | int (text : String)
  | float (text : String)
  | string (value : RawText)
  | blockString (value : RawText)
  | endOfInput
  | invalid (fault : LexicalFault)
  deriving Repr, DecidableEq, Inhabited

/-- The text or value of a token that has one. -/
def Token.value? : Token → Option RawText
  | .name s | .int s | .float s => some s
  | .string text | .blockString text => some text
  | .punctuator _ | .endOfInput | .invalid _ => none

/-- A token as messages show it. -/
def Token.describe : Token → RawText
  | .punctuator mark => "'" ++ mark.text ++ "'"
  | .name s => "Name '" ++ s ++ "'"
  | .int s => "Int '" ++ s ++ "'"
  | .float s => "Float '" ++ s ++ "'"
  | .string text => "String '" ++ text ++ "'"
  | .blockString text => "BlockString '" ++ text ++ "'"
  | .endOfInput => "<EOF>"
  | .invalid _ => "<invalid>"

/-- A token with the offset at which it starts, or for a fault at which it was noticed. -/
structure Lexeme where
  token : Token
  offset : Nat
  deriving Repr, DecidableEq, Inhabited

end ResolverTypings.Graphql
