import ResolverTypings.Proofs.TypeScript.Declarations

/-!
# Surrogates in a file

Everything in a file is a text but the comments, which copy descriptions. So the text of a file
holds a surrogate just where a description does that the file shows. It shows those of objects and
of resolvers that can be called with their arguments, and those of the fields of each public shape.
-/
namespace ResolverTypings

open Text (RawText)

namespace TypeScript

/-! ## Members -/

end TypeScript
end ResolverTypings
