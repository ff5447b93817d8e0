import ResolverTypings.Command.Run

/-!
# The command line

The outer layer of the program: it takes a picture of the files that the command may
look at, runs the command on it, and carries out what came of it. There is no network
here, so every service is out of reach.
-/

namespace ResolverTypings.CommandLine

/-- What stands at a path, with everything below a directory if asked for. -/
partial def picture (whole : Bool) (path : Path) : IO (List (Path × Entry)) := do
  let place := (← IO.currentDir) / Path.text path
  if ← place.isDir then
    let below ← if whole then
        (← place.readDir).toList.mapM fun found => picture true (path ++ [found.fileName])
      else pure []
    return (path, .directory) :: below.flatten
  else if ← place.pathExists then
    return [(path, .file ((← IO.FS.readBinFile place).toList.map UInt8.toNat))]
  else return []

/-- The files that the arguments name, and the directories above them. -/
def pictureOf (base : Path) (arguments : List String) : IO FileTree := do
  let named (long : String) : List Path :=
    (Command.valuesGiven long arguments).map (Path.resolve base)
  let sources ← (named "--schema").mapM (picture true)
  let single := named "--config" ++ named "--output"
  let above := (named "--schema" ++ single).flatMap fun path =>
    (List.range path.length).map path.take
  let others ← (single ++ above).mapM (picture false)
  let found := sources.flatten ++ others.flatten
  return { entries := found.foldl (fun kept entry =>
    if kept.any (·.1 == entry.1) then kept else kept ++ [entry]) [] }

/-- Make the directories and write the files that a run has changed. -/
def carryOut (before after : FileTree) : IO Unit :=
  after.entries.forM fun (path, entry) =>
    match entry with
    | .directory => unless before.isDirectory path do IO.FS.createDirAll (Path.text path)
    | .file bytes => do
      if before.bytes? path != some bytes then
        IO.FS.createDirAll (Path.text path.dropLast)
        IO.FS.writeBinFile (Path.text path) (ByteArray.mk (bytes.map Nat.toUInt8).toArray)

end ResolverTypings.CommandLine

open ResolverTypings

/-- Run the command line. -/
def main (arguments : List String) : IO UInt32 := do
  let base := Path.resolve [] (← IO.currentDir).toString
  let tree ← CommandLine.pictureOf base arguments
  let outcome := Command.run
    { tree, workingDirectory := base, reply := .unreachable "no network" } arguments
  (← IO.getStdout).putStr outcome.transcript.output
  (← IO.getStderr).putStr outcome.transcript.notices
  CommandLine.carryOut tree outcome.tree
  return outcome.exitCode.toUInt32
