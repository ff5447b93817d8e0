import ResolverTypings.Federation.Build
import ResolverTypings.FileTree
import ResolverTypings.Text.ControlSequence

/-!
# Reading schema files

A reader collects one document after the other and remembers the name of the one it
read last. Given a path it reads all schema files there, in the order of their paths,
and builds the schema of everything it has collected.
-/
namespace ResolverTypings.Federation

open Text (RawText)

/-- What has been read so far. -/
structure SchemaReader where
  collected : Collected := {}
  /-- The name of the document read last. -/
  currentFile : String := ""
  deriving Repr, DecidableEq, Inhabited

/-- Why a schema could not be read. -/
inductive ReadError where
  | notText (error : Text.Utf8.DecodeError)
  | syntaxError (document : RawText) (error : Graphql.SyntaxError)
  | schemaError (error : SchemaError)
  deriving Repr, DecidableEq, Inhabited

/-- The message of an error, with the excerpt of a syntax error. -/
def ReadError.message : ReadError → RawText
  | .notText error => error.message
  | .syntaxError document error => error.report document
  | .schemaError error => error.message

/-- What is said at once when a document with the given name is not read: syntax errors
alone are, without the control sequences in what they show. -/
def ReadError.notice (error : ReadError) (file : String) : RawText :=
  match error with
  | .syntaxError document error =>
    Text.plain (s!"Error parsing {file}: " ++ error.report document ++ "\n")
  | .notText _ | .schemaError _ => []

/-- An error of a document as one of its reader. -/
def DocumentError.toReadError (document : RawText) : DocumentError → ReadError
  | .syntaxError error => .syntaxError document error
  | .schemaError error => .schemaError error

namespace SchemaReader

/-- Read a document under a name. -/
def readDocument (reader : SchemaReader) (name : String) (document : RawText) :
    SchemaReader × Option ReadError :=
  let (collected, error) := reader.collected.addDocument document
  ({ collected, currentFile := name }, error.map (·.toReadError document))

/-- Build the schema of everything that has been read. -/
def build (reader : SchemaReader) : SchemaReader × Except ReadError Schema :=
  let (schema, collected) := reader.collected.build
  ({ reader with collected }, schema.mapError .schemaError)

/-- Read files in order, up to an error. -/
def readFiles (reader : SchemaReader) (tree : FileTree) :
    List Path → SchemaReader × Option ReadError
  | [] => (reader, none)
  | path :: rest =>
    match tree.readText path with
    | .error error => (reader, some (.notText error))
    | .ok document =>
      match reader.readDocument path.baseName document with
      | (next, none) => next.readFiles tree rest
      | (next, some error) => (next, some error)

end SchemaReader

/-- The endings of the names of schema files. -/
def schemaEndings : List String := [".graphql", ".graphqls"]

/-- Whether a name is that of a schema file. -/
def isSchemaFile (name : String) : Bool :=
  schemaEndings.any fun ending => ending.toList.isSuffixOf name.toList

/-- The schema files at or below a path, in the order of their paths as texts. -/
def schemaFiles (tree : FileTree) (path : Path) : List Path :=
  ((tree.filesBelow path).filter fun found => isSchemaFile found.baseName).mergeSort
    fun p q => !decide (q.text < p.text)

/-- The schema files where a text leads to, seen from a base. -/
def schemaFilesAt (tree : FileTree) (base : Path) (text : String) :
    Except PathError (List Path) := do
  Path.check text
  return ((tree.locate? base text).map (schemaFiles tree)).getD []

/-- Read files in order and build the schema of everything read. -/
def SchemaReader.readAll (reader : SchemaReader) (tree : FileTree) (files : List Path) :
    SchemaReader × Except ReadError Schema :=
  match reader.readFiles tree files with
  | (next, some error) => (next, .error error)
  | (next, none) => next.build

end ResolverTypings.Federation
