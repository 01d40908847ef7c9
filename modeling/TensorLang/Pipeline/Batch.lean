import TensorLang.Pipeline.Run
import TensorLang.Storage.ResultCache

/-!
# Batches

A batch runs many files of a file tree. All files are read before the first one runs, results come
in the order of the paths, and a file that cannot be read has a bag with that one diagnostic.

Files do not depend on each other except through the cache, so they may run in any order; here they
run one after the other.
-/

namespace TensorLang

open Storage (Tree ResultCache)

/-- The ending of source files. -/
def sourceEnding : Bytes := ".tsa".utf8

/-- The path itself if it is a file, otherwise all source files below it, sorted. -/
def listSources (t : Tree) (path : Bytes) : Except Storage.Failure (List Bytes) := do
  match ← t.stat path with
  | (_, .file _) => .ok [path]
  | (place, .dir) =>
    let all := (t.filesBelow place).map fun f => Path.join [path, f.1]
    .ok (Bytes.sort (all.filter fun p => Bytes.endsWith p sourceEnding))

/-- Reads a file into a file set. -/
def FileSet.load (fs : FileSet) (t : Tree) (path : Bytes) :
    Except Storage.Failure (FileSet × Nat) := do
  let content ← t.read path
  .ok (fs.addRead path content)

/-- A file set for the files of a tree. -/
def FileSet.ofTree (t : Tree) : FileSet := { cwd := t.workingDir }

/-- What a run is cancelled with. -/
def cancelledMessage : Bytes := "context canceled".utf8

/-- The store of results in a tree. -/
def ResultStore.ofCache (c : ResultCache) (t : Tree) : ResultStore :=
  ⟨c.get? t, (c.writeFailure? t).map Storage.Failure.message⟩

/-- The state in which files run: the tree with its cache, and the trace. -/
structure Workspace where
  tree : Tree
  cache : Option ResultCache := none
  session : Trace.Session

namespace Workspace

/-- Runs a file and stores what there is to store. -/
def run (w : Workspace) (around : Nat) (file : File) (o : RunOptions) : Workspace × RunResult :=
  let e := executeRun w.session around (w.cache.map fun c => .ofCache c w.tree) file o
  let tree := match w.cache, e.stores with
    | some c, some (key, bytes) => c.put w.tree key bytes
    | _, _ => w.tree
  ({ w with tree, session := e.session }, e.result)

/-- Reads a file and runs it. -/
def runFile (w : Workspace) (path : Bytes) (isCancelled : Bool) (o : RunOptions) :
    Except Bytes (Workspace × RunResult) :=
  match (FileSet.ofTree w.tree).load w.tree path with
  | .error f => .error ("failed to load ".utf8 ++ path ++ ": ".utf8 ++ f.message)
  | .ok (fs, id) =>
    if isCancelled then .error cancelledMessage
    else
      match fs.get? id with
      | some file => .ok (w.run 0 file o)
      | none => .error []

end Workspace

/-- One file of a batch. Without a result it could not be read. -/
structure FileRun where
  path : Bytes
  id : Nat := 0
  result : Option RunResult := none
  bag : Bag
  deriving Repr

/-- What a batch gave. -/
structure Batch where
  files : FileSet
  runs : List FileRun := []
  failure : Option Bytes := none

namespace Batch

/-- The diagnostic for a file that cannot be read. -/
def loadDiagnostic (path : Bytes) (f : Storage.Failure) : Diagnostic :=
  Diagnostic.ofError Code.loadFile Span.none
    ("failed to load ".utf8 ++ path ++ ": ".utf8 ++ f.message)

/-- Reads all files, each into the file set or with the reason why not. -/
def loadAll (t : Tree) (fs : FileSet) : List Bytes → FileSet × List (Except Storage.Failure Nat)
  | [] => (fs, [])
  | path :: rest =>
    match fs.load t path with
    | .ok (fs', id) =>
      let (final, more) := loadAll t fs' rest
      (final, .ok id :: more)
    | .error f =>
      let (final, more) := loadAll t fs rest
      (final, .error f :: more)

/-- Runs one file of a batch. -/
def runOne (w : Workspace) (around : Nat) (fs : FileSet) (o : RunOptions) (path : Bytes)
    (loaded : Except Storage.Failure Nat) : Workspace × FileRun :=
  match loaded with
  | .error f => (w, ⟨path, 0, none, (Bag.empty o.maxDiagnostics).push (loadDiagnostic path f)⟩)
  | .ok id =>
    match fs.get? id with
    | none => (w, ⟨path, id, none, Bag.empty o.maxDiagnostics⟩)
    | some file =>
      let (w, r) := w.run around file o
      (w, ⟨path, id, some r, r.bag⟩)

/-- Runs files one after the other. -/
def runAll (w : Workspace) (around : Nat) (fs : FileSet) (o : RunOptions) :
    List (Bytes × Except Storage.Failure Nat) → Workspace × List FileRun
  | [] => (w, [])
  | (path, loaded) :: rest =>
    let (w, r) := runOne w around fs o path loaded
    let (w, more) := runAll w around fs o rest
    (w, r :: more)

/-- What an observer sees of a batch: passes that begin or end, with the path of their file. -/
def phases (b : Batch) : List (Bytes × Pass × Bool) :=
  b.runs.flatMap fun r =>
    match r.result with
    | some result => (Step.phases result.steps).map fun p => (r.path, p.1, p.2)
    | none => []

end Batch

/-- Runs a batch of files under one span. -/
def Workspace.runFiles (w : Workspace) (paths : List Bytes) (isCancelled : Bool) (o : RunOptions) :
    Workspace × Batch :=
  let (session, span) := w.session.begin .driver "run files".utf8 0
  let w := { w with session }
  let finish (w : Workspace) : Workspace :=
    { w with session :=
      w.session.finish (span.withField "files".utf8 (Decimal.ofNat paths.length)) [] }
  let (fs, loaded) := Batch.loadAll w.tree (FileSet.ofTree w.tree) paths
  if isCancelled && !paths.isEmpty then
    (finish w, { files := fs, failure := some cancelledMessage })
  else
    let (w, runs) := Batch.runAll w span.id fs o (paths.zip loaded)
    (finish w, { files := fs, runs })

end TensorLang
