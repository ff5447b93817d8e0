/-!
# Sets of code points

A set of characters that Unicode tells apart by a property, given by the spans of its
code points.
-/
namespace ResolverTypings.Text

/-- A set of code points: closed spans in ascending order. -/
structure CodePointSet where
  spans : Array (Nat × Nat)
  deriving Repr, Inhabited

/-- Whether a character is in a set. -/
def CodePointSet.contains (set : CodePointSet) (c : Char) : Bool :=
  set.spans.any fun span => span.1 ≤ c.toNat && c.toNat ≤ span.2

end ResolverTypings.Text
