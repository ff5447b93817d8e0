import ResolverTypings.Text.Utf8
import ResolverTypings.Text.WideUnit

/-!
# Encodings of JSON

JSON starts with a character of ASCII, so the zeros among the first bytes tell how wide
the units of its text are and how their bytes are ordered. Without such zeros it is
UTF-8, with or without a byte order mark.
-/
namespace ResolverTypings.Json

/-- How text is written in bytes. -/
inductive Encoding where
  | utf8
  | units2 (order : Text.ByteOrder)
  | units4 (order : Text.ByteOrder)
  deriving Repr, DecidableEq, Inhabited

/-- The encoding that the first bytes of a JSON text tell. -/
def Encoding.ofBytes : List Nat → Encoding
  | 0 :: second :: _ :: _ :: _ =>
    if second = 0 then .units4 .greatestFirst else .units2 .greatestFirst
  | _ :: 0 :: third :: fourth :: _ =>
    if third = 0 ∧ fourth = 0 then .units4 .leastFirst else .units2 .leastFirst
  | [0, _] => .units2 .greatestFirst
  | [_, 0] => .units2 .leastFirst
  | _ => .utf8

/-- The bytes of a byte order mark in UTF-8. -/
def byteOrderMark : List Nat := [0xEF, 0xBB, 0xBF]

/-- The bytes without a byte order mark in front. -/
def withoutMark (bytes : List Nat) : List Nat :=
  if byteOrderMark.isPrefixOf bytes then bytes.drop byteOrderMark.length else bytes

/-- The text that bytes hold in an encoding. -/
def Encoding.decode (bytes : List Nat) : Encoding → Option Text.RawText
  | .utf8 => (Text.Utf8.decode (withoutMark bytes)).toOption.map Text.RawText.ofString
  | .units2 order => Text.decodeUnits2 order bytes
  | .units4 order => Text.decodeUnits4 order bytes

/-- The JSON text that bytes hold. -/
def textOfBytes (bytes : List Nat) : Option Text.RawText :=
  (Encoding.ofBytes bytes).decode bytes

end ResolverTypings.Json
