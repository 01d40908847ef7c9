import TensorLang.Cli.Footprint
import TensorLang.Cli.Program

/-!
# The command line

Loads the footprint of a run, runs the program in it, and carries out what has changed. Everything
else is decided by `TensorLang.Cli.run`.
-/

namespace TensorLang.Cli

open Storage (Tree Place Change)

/-- A path as the operating system takes it; paths that are no text name nothing. -/
def systemPath (place : Place) : String :=
  (String.fromUTF8? ⟨(Path.ofParts true place).toArray⟩).getD ""

/-- Takes in a file, or a directory with everything below it. Files whose content nobody asks for
are taken to be empty. -/
partial def takeIn (t : Tree) (isWanted : Bool) (place : Place) : IO Tree := do
  let path := System.mkFilePath [systemPath place]
  if ← path.isDir then
    let entries ← path.readDir
    entries.foldlM (fun t e =>
      let name := e.fileName.utf8
      takeIn t (isReadable name) (place ++ [name])) (t.putDirs [] place)
  else if !isWanted && (t.node? place).isSome then pure t
  else if ← path.pathExists then
    let content ← if isWanted then IO.FS.readBinFile path else pure ByteArray.empty
    pure (t.put place (.file content.data.toList))
  else pure t

/-- Takes in what leads to a place, and what is there. -/
def takeInPath (t : Tree) (path : Bytes) : IO Tree := do
  let place := Path.parts path
  let above := (List.range place.length).map fun n => place.take n
  let t ← above.foldlM (fun t p => do
    if ← (System.mkFilePath [systemPath p]).isDir then pure (t.putDirs [] p) else pure t) t
  takeIn t true place

/-- Carries out a change. -/
def carryOut : Change → IO Unit
  | .erase place .dir => IO.FS.removeDir (systemPath place)
  | .erase place (.file _) => IO.FS.removeFile (systemPath place)
  | .makeDir place => IO.FS.createDirAll (systemPath place)
  | .write place content => IO.FS.writeBinFile (systemPath place) ⟨content.toArray⟩

end TensorLang.Cli

open TensorLang TensorLang.Cli in
/-- Runs the program with the given arguments. -/
def main (args : List String) : IO UInt32 := do
  let args := args.map String.utf8
  let named (name : String) : IO Bytes := do pure ((← IO.getEnv name).getD "").utf8
  let surroundings : Surroundings := ⟨← named "XDG_CACHE_HOME", ← named "HOME"⟩
  let cwd := (← IO.currentDir).toString.utf8
  let empty : Storage.Tree := { cwd := Path.elements cwd }
  let first ← (firstFootprint surroundings cwd args).foldlM takeInPath (empty.putDirs [] empty.cwd)
  let tree ← (laterFootprint first args).foldlM takeInPath first
  let ending := run surroundings tree args
  (tree.changes ending.tree).forM carryOut
  (← IO.getStdout).write ⟨ending.stdout.toArray⟩
  (← IO.getStderr).write ⟨ending.stderr.toArray⟩
  pure ending.status.toUInt32
