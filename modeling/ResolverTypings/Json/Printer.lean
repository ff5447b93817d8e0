import ResolverTypings.Json.Basic
import ResolverTypings.Decimal.Shortest
import ResolverTypings.Text.Quoted

/-!
# Writing JSON

Two written forms of a value: the compact JSON text, and the inline form in which
messages show a value, with quoted text and capitalised names for the constants.
-/
namespace ResolverTypings.Json

open Decimal (Binary64)
open Text (CodePoint RawText)

/-- A code point inside a JSON string. -/
def writtenPoint : CodePoint → String
  | .char c =>
    if c = '"' then "\\\""
    else if c = '\\' then "\\\\"
    else if c.toNat < 32 ∨ c.toNat = 127 then String.ofList (Text.fourDigitEscape c.toNat)
    else String.singleton c
  | point => String.ofList (Text.fourDigitEscape point.toNat)

/-- A JSON string with its quotes. -/
def writtenString (text : RawText) : String :=
  "\"" ++ String.join (text.map writtenPoint) ++ "\""

/-- A number outside the integers. -/
def writtenFloat : Binary64 → String
  | .nan => "NaN"
  | .infinite negative => if negative then "-Infinity" else "Infinity"
  | x => x.text

mutual
/-- The compact JSON text of a value. -/
def compact : Json → String
  | .null => "null"
  | .bool b => if b then "true" else "false"
  | .int n => toString n
  | .float x => writtenFloat x
  | .str s => writtenString s
  | .arr items => "[" ++ String.intercalate "," (compactItems items) ++ "]"
  | .obj members => "\x7b" ++ String.intercalate "," (compactMembers members) ++ "\x7d"

/-- The compact texts of the items of an array. -/
def compactItems : List Json → List String
  | [] => []
  | item :: rest => compact item :: compactItems rest

/-- The compact texts of the members of an object. -/
def compactMembers : List (RawText × Json) → List String
  | [] => []
  | (name, value) :: rest => (writtenString name ++ ":" ++ compact value) :: compactMembers rest
end

mutual
/-- A value as messages show it. -/
def inline : Json → String
  | .null => "None"
  | .bool b => if b then "True" else "False"
  | .int n => toString n
  | .float x => x.text
  | .str s => Text.quoted s
  | .arr items => "[" ++ String.intercalate ", " (inlineItems items) ++ "]"
  | .obj members => "\x7b" ++ String.intercalate ", " (inlineMembers members) ++ "\x7d"

/-- The items of an array as messages show them. -/
def inlineItems : List Json → List String
  | [] => []
  | item :: rest => inline item :: inlineItems rest

/-- The members of an object as messages show them. -/
def inlineMembers : List (RawText × Json) → List String
  | [] => []
  | (name, value) :: rest => (Text.quoted name ++ ": " ++ inline value) :: inlineMembers rest
end

end ResolverTypings.Json
