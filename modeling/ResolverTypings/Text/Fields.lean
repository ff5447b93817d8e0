/-!
# Fields of a text

The stretches between the separators of a text. A text has one field more than it has
separators, and any field may be empty.
-/
namespace ResolverTypings.Text

/-- The fields of a text, cut at every character that is a separator. -/
def fields (isSeparator : Char → Bool) : List Char → List (List Char)
  | [] => [[]]
  | c :: cs =>
    if isSeparator c then [] :: fields isSeparator cs
    else
      match fields isSeparator cs with
      | field :: rest => (c :: field) :: rest
      | [] => [[c]]

end ResolverTypings.Text
