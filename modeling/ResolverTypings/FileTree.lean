import ResolverTypings.Table
import ResolverTypings.Text.Fields
import ResolverTypings.Text.Lines
import ResolverTypings.Text.Utf8

/-!
# File trees

A tree of directories and files, in which a path is the list of names from the root
down. A directory is there if it has an entry of its own or an entry below it.
-/
namespace ResolverTypings

/-- The names from the root down to a file or directory. -/
abbrev Path := List String

namespace Path

/-- The path from the root as a text. -/
def text (path : Path) : String :=
  String.join (path.map ("/" ++ ·))

/-- The names between the slashes of a text, empty ones included. -/
def steps (text : String) : List String :=
  (Text.fields (· == '/') text.toList).map String.ofList

/-- Where a text starts from: the root if it starts with a slash. -/
def origin (base : Path) (text : String) : Path :=
  if text.toList.head? = some '/' then [] else base

/-- Go one step from a path: nowhere, up, or down to a name. -/
def step (path : Path) (name : String) : Path :=
  if name.isEmpty ∨ name = "." then path
  else if name = ".." then path.dropLast
  else path ++ [name]

/-- The path that a text means, seen from a base, without a look at the tree. -/
def resolve (base : Path) (text : String) : Path :=
  (steps text).foldl step (origin base text)

/-- The last name of a path. -/
def baseName (path : Path) : String :=
  path.getLast?.getD ""

end Path

/-- Why a text is no path. -/
inductive PathError where
  /-- It holds the null character. -/
  | nullCharacter
  deriving Repr, DecidableEq, Inhabited

/-- The message of an error. -/
def PathError.message : PathError → String
  | .nullCharacter => "embedded null byte"

/-- Check that a text can be a path. -/
def Path.check (text : String) : Except PathError Unit :=
  if text.toList.contains '\x00' then throw .nullCharacter else return ()

/-- What stands at a path. -/
inductive Entry where
  | directory
  | file (bytes : List Nat)
  deriving Repr, DecidableEq, Inhabited

/-- Paths with what stands there. -/
structure FileTree where
  entries : Table Path Entry := []
  deriving Repr, DecidableEq, Inhabited

namespace FileTree

/-- What stands at a path. -/
def find? (tree : FileTree) (path : Path) : Option Entry :=
  match tree.entries.get? path with
  | some found => some found
  | none =>
    if path.isEmpty || tree.entries.keys.any path.isPrefixOf then some .directory else none

/-- Whether a directory stands at a path. -/
def isDirectory (tree : FileTree) (path : Path) : Bool :=
  tree.find? path == some .directory

/-- Whether a file stands at a path. -/
def isFile (tree : FileTree) (path : Path) : Bool :=
  match tree.find? path with
  | some (.file _) => true
  | _ => false

/-- Follow the steps of a text from a path; every step must start in a directory. -/
def follow (tree : FileTree) : Path → List String → Option Path
  | path, [] => some path
  | path, name :: names =>
    if tree.isDirectory path then tree.follow (path.step name) names else none

/-- The path that a text leads to, seen from a base. An empty text leads nowhere. -/
def locate? (tree : FileTree) (base : Path) (text : String) : Option Path :=
  if text.isEmpty then none else tree.follow (Path.origin base text) (Path.steps text)

/-- What stands where a text leads to, seen from a base. -/
def lookUp (tree : FileTree) (base : Path) (text : String) : Option Entry :=
  (tree.locate? base text).bind tree.find?

/-- Put an entry at a path, in the place of the one that stands there. -/
def put (tree : FileTree) (path : Path) (entry : Entry) : FileTree where
  entries := tree.entries.put path entry

@[simp] theorem find?_put (tree : FileTree) (path : Path) (entry : Entry) :
    (tree.put path entry).find? path = some entry := by
  simp [put, find?]

/-- The bytes of the file at a path. -/
def bytes? (tree : FileTree) (path : Path) : Option (List Nat) :=
  match tree.find? path with
  | some (.file bytes) => some bytes
  | _ => none

/-- The text of the file at a path, with line feeds for all line ends; a file that is
not there has no bytes. -/
def readText (tree : FileTree) (path : Path) : Except Text.Utf8.DecodeError String := do
  let text ← Text.Utf8.decode ((tree.bytes? path).getD [])
  return String.ofList (Text.unifyLineEnds text.toList)

/-- The paths of the files at or below a path. -/
def filesBelow (tree : FileTree) (path : Path) : List Path :=
  tree.entries.filterMap fun (found, entry) =>
    match entry with
    | .file _ => if path.isPrefixOf found then some found else none
    | .directory => none

end FileTree
end ResolverTypings
