/-!
# ASCII

The characters of ASCII, and those among them that are seen.
-/
namespace ResolverTypings.Text

/-- Whether all characters of a text are of ASCII. -/
def isAscii (cs : List Char) : Bool :=
  cs.all (·.toNat < 0x80)

/-- Whether a character is a visible one of ASCII, the space included. -/
def isVisible (c : Char) : Bool := ' ' ≤ c && c ≤ '~'

/-- Whether a character is a control character of ASCII. -/
def isControl (c : Char) : Bool := c.toNat < 0x20 || c.toNat = 0x7F

end ResolverTypings.Text
