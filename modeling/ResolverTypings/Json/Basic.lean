import ResolverTypings.Table
import ResolverTypings.Decimal.Binary64
import ResolverTypings.Text.RawText

/-!
# JSON values

Objects keep their members in the order in which the names first stood in the text.
Integers are unbounded and apart from the other numbers, which are of the binary64
format and may be infinite or no number at all. Strings and names are raw texts, for an
escape may name a surrogate that stands alone.
-/
namespace ResolverTypings

open Decimal (Binary64)
open Text (RawText)

/-- A JSON value. -/
inductive Json where
  | null
  | bool (value : Bool)
  | int (value : Int)
  | float (value : Binary64)
  | str (value : RawText)
  | arr (items : List Json)
  | obj (members : List (RawText × Json))
  deriving Repr, Inhabited

namespace Json

/-- The member of an object with a given name. -/
def member? : Json → String → Option Json
  | .obj members, name => Table.get? members (RawText.ofString name)
  | _, _ => none

end Json
end ResolverTypings
