import ResolverTypings.Text.Ascii
import ResolverTypings.Text.Digit

/-!
# Percent encoding

A character that may not stand in a part of a URL is written as the bytes of its UTF-8,
each as a percent sign and two digits. The percent sign itself always stays, so what has
been encoded before is left alone.
-/
namespace ResolverTypings.Url

/-- A byte as a percent sign and two digits. -/
def percentByte (byte : UInt8) : List Char :=
  '%' :: (Text.hexDigits 2 byte.toNat).map Char.toUpper

/-- The bytes of a character in percent encoding. -/
def percentChar (c : Char) : List Char :=
  (String.singleton c).toUTF8.toList.flatMap percentByte

/-- A text in which the characters that are not kept are encoded. -/
def percentEncode (isKept : Char → Bool) (cs : List Char) : List Char :=
  cs.flatMap fun c => if isKept c then [c] else percentChar c

/-- Whether a character is kept in the fragment. -/
def isKeptInFragment (c : Char) : Bool :=
  Text.isVisible c && !" \"<>\x60".toList.contains c

/-- Whether a character is kept in the query. -/
def isKeptInQuery (c : Char) : Bool :=
  Text.isVisible c && !" \"#<>".toList.contains c

/-- Whether a character is kept in the path. -/
def isKeptInPath (c : Char) : Bool :=
  Text.isVisible c && !" \"#<>?\x60\x7b\x7d".toList.contains c

/-- Whether a character is kept in the name and password of a user. -/
def isKeptInUser (c : Char) : Bool :=
  isKeptInPath c && !"/;=@[\\]^|".toList.contains c

/-- Whether a character is kept in a host name. -/
def isKeptInHost (c : Char) : Bool :=
  c.isAlphanum || "-._~!$&'()*+,;=\"\x60\x7b\x7d%|\\".toList.contains c

end ResolverTypings.Url
