import ResolverTypings.Text.Digit
import ResolverTypings.Text.Printable
import ResolverTypings.Text.RawText

/-!
# Quoted text

How a text is shown inside a message. Single quotes stand around it, or double quotes
where the text holds a single quote and no double one. A backslash, the quote in use,
every character that is not printable and every surrogate are escaped.
-/
namespace ResolverTypings.Text

/-- A code point by its number, in the shortest of the three widths that holds it. -/
def numericEscape (n : Nat) : String :=
  if n < 0x100 then String.ofList ('\\' :: 'x' :: hexDigits 2 n)
  else if n < 0x10000 then String.ofList (fourDigitEscape n)
  else String.ofList ('\\' :: 'U' :: hexDigits 8 n)

/-- One character of a quoted text. -/
def quotedChar (quote c : Char) : String :=
  if c = quote ∨ c = '\\' then String.ofList ['\\', c]
  else if c = '\n' then "\\n"
  else if c = '\r' then "\\r"
  else if c = '\t' then "\\t"
  else if isPrintable c then String.singleton c
  else numericEscape c.toNat

/-- One code point of a quoted text. -/
def quotedPoint (quote : Char) : CodePoint → String
  | .char c => quotedChar quote c
  | point => numericEscape point.toNat

/-- The quote that stands around a text. -/
def quoteFor (text : RawText) : Char :=
  if text.contains (.char '\'') && !text.contains (.char '"') then '"' else '\''

/-- A text as messages show it. -/
def quoted (text : RawText) : String :=
  let quote := quoteFor text
  String.singleton quote ++ String.join (text.map (quotedPoint quote)) ++
    String.singleton quote

end ResolverTypings.Text
