import BenchGate.Program

/-!
# The command line

`main` lays out in a tree what stands on disk at the paths a call names, runs the program on that
tree, and carries out what the run left behind: the files that changed, the text on both streams
and the exit status. There is no network behind it, so a request that the program makes is
answered with a failure.
-/

namespace BenchGate.Disk

/-- What stands at a place on disk. -/
def entry? (place : Location) : IO (Option Entry) := do
  try
    let content ← IO.FS.readBinFile (Tree.pathOf place)
    return some (.file content.toList)
  catch
    | .inappropriateType .. => return some .directory
    | _ => return none

/-- A tree together with what stands on disk on the way to a path. -/
def add (tree : Tree) (path : String) : IO Tree := do
  let mut tree := tree
  let mut place := Tree.origin path
  for name in Path.names path do
    place := Tree.step place name
    if (tree.entry? place).isNone then
      if let some entry ← entry? place then
        tree := tree.set place entry
  return tree

/-- The tree that a call sees. -/
def tree (paths : List String) : IO Tree :=
  paths.foldlM add {}

/-- Writes the files that changed. -/
def save (before after : Tree) : IO Unit := do
  for (place, content) in before.changes after do
    IO.FS.writeBinFile (Tree.pathOf place) (ByteArray.mk content.toArray)

/-- The surroundings of a call. Colours are for a terminal only. -/
def environment : IO Environment := do
  return {
    directory := (← IO.FS.realPath ".").toString
    eventPath := ← IO.getEnv "GITHUB_EVENT_PATH"
    repository := ← IO.getEnv "GITHUB_REPOSITORY"
    apiUrl := ← IO.getEnv "GITHUB_API_URL"
    colours := ← (← IO.getStdout).isTty }

end BenchGate.Disk

open BenchGate in
/-- The program as a process. -/
def main (args : List String) : IO UInt32 := do
  let env ← Disk.environment
  let before ← Disk.tree (Program.paths env args)
  let exit := Program.run env before (.failure (some "fetch failed")) args
  Disk.save before exit.tree
  IO.print exit.out
  IO.eprint exit.err
  return exit.status.toUInt32
