import CorpusJudge.Application
import Std.Time.DateTime.Timestamp

/-!
# The program

Puts the files of the current folder on a machine, carries out the command line there, and brings
what has changed back.  Symbolic links are left out.
-/

namespace CorpusJudge

/-- Put the files in a folder of the operating system on a machine, below a location. -/
partial def FileTree.gather (tree : FileTree) (folder : IO.FS.DirEntry) (location : Location) :
    IO FileTree := do
  let mut tree := tree
  for entry in ← folder.path.readDir do
    let place := location ++ [entry.fileName]
    match (← entry.path.symlinkMetadata).type with
    | .dir => tree ← (tree.put place .folder).gather entry place
    | .file => tree := tree.put place (.file (← IO.FS.readBinFile entry.path).toList)
    | _ => pure ()
  return tree

/-- The path in the current folder for a location in a machine's folder for work. -/
def Location.hostPath? (base location : Location) : Option String :=
  if base.isPrefixOf location && base.length < location.length then
    some (String.intercalate "/" ("." :: location.drop base.length))
  else none

/-- Bring what has changed in a machine's folder for work back to the current folder. -/
def FileTree.bringBack (before after : FileTree) : IO Unit := do
  for (place, entry) in after.entries do
    if let some path := Location.hostPath? after.base place then
      if before.lookup place ≠ some entry then
        match entry with
        | .folder => IO.FS.createDir path
        | .file content => IO.FS.writeBinFile path ⟨content.toArray⟩
        | _ => pure ()
  for (place, entry) in before.entries.reverse do
    if let some path := Location.hostPath? before.base place then
      if (after.lookup place).isNone then
        if entry.isFolder then IO.FS.removeDir path else IO.FS.removeFile path

/-- The variables of the environment that matter to a run. -/
def environmentNames : List String := ["CLICOLOR", "CLICOLOR_FORCE", "NO_COLOR"]

/-- Those of the variables that are set. -/
def readEnvironment : IO (List (String × Octets)) := do
  let values ← environmentNames.mapM fun name => do
    return (← IO.getEnv name).map fun value => (name, Bytes.octets (Bytes.ofString value))
  return values.reduceOption

end CorpusJudge

open CorpusJudge in
/-- Carries out the command line in the current folder. -/
def main (words : List String) : IO UInt32 := do
  let idle := Machine.idle
  let before ← idle.files.gather ⟨← IO.currentDir, "."⟩ idle.files.base
  let machine := { idle with
    files := before, environment := (← readEnvironment) ++ idle.environment }
  let now ← Std.Time.Timestamp.now
  let surroundings : Surroundings := {
    isTerminal := ← (← IO.getStdout).isTty
    epoch := ⟨now.toSecondsSinceUnixEpoch.val, 0⟩
    service := Source.unreachable }
  let (conclusion, bench) := (Application.answer surroundings words).run ⟨machine, []⟩
  FileTree.bringBack before bench.machine.files
  IO.print conclusion.output
  if let some trouble := conclusion.trouble then IO.eprintln trouble.message
  return conclusion.exitCode.toUInt32
