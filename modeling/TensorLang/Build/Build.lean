import TensorLang.Build.OutputPath
import TensorLang.Build.Stage
import TensorLang.Pipeline.Workers

/-!
# Builds

A build emits many files and writes their outputs below a directory. It tells its progress as
events: every file is queued, works its way through the stages, and is done or has failed.

* `Workspace.buildWith` is the whole build, for any way to write a file; `Workspace.build` writes
  into the tree. Diagnostics never make it fail; what makes it fail is a cancelled batch or an
  output directory that cannot be made.
* `Request.writeOne` writes the output of one file. If that is impossible, the reason is a
  diagnostic about the program; a result that was taken from the cache has no program to point at,
  and then the build breaks down.
-/

namespace TensorLang.Build

open Storage (Tree)

/-- What a build is asked for. -/
structure Request where
  files : List Bytes
  /-- Outputs keep the places of files below this directory. -/
  base : Bytes := []
  /-- The directory for outputs. -/
  out : Bytes
  options : RunOptions := {}
  isCancelled : Bool := false

/-- What became of one file. Without `output` nothing was written. -/
structure FileOutput where
  path : Bytes
  output : Bytes := []
  result : Option RunResult := none
  bag : Bag
  deriving Repr

/-- Does the file have an error? -/
def FileOutput.hasFailed (f : FileOutput) : Bool := f.bag.hasErrors

/-- What a build gave: outputs, the stages that were timed, and the events in order. -/
structure Report where
  files : List FileOutput := []
  timings : Timings := {}
  events : List Event := []
  failure : Option Bytes := none
  deriving Repr

/-- The number of files with errors. -/
def Report.failed (r : Report) : Nat := r.files.countP FileOutput.hasFailed

/-- The stage of a pass. -/
def Stage.ofPass : Pass → Stage
  | .parse => .parse
  | .check => .check
  | .generate => .generate
  | .print => .print

/-- All files wait. -/
def queuedEvents (files : List Bytes) : List Event :=
  files.map fun file => { file, stage := .parse, status := .queued }

/-- The whole build and all its files fail in a stage. -/
def failureEvents (files : List Bytes) (stage : Stage) (failure : Bytes) : List Event :=
  ([] :: files).map fun file => { file, stage, status := .error, failure := some failure }

/-- A pass that begins is work on its file. -/
def workOf (seen : List (Bytes × Pass × Bool)) : List Event :=
  seen.filterMap fun (file, pass, isEnd) =>
    if isEnd then none else some { file, stage := .ofPass pass, status := .working }

/-- The stages of passes that ended, with their durations, in which time does not pass. -/
def timingsOf (seen : List (Bytes × Pass × Bool)) : Timings :=
  seen.foldl (fun t (_, pass, isEnd) => if isEnd then t.add (.ofPass pass) 0 else t) {}

/-- The event with which a build succeeds. -/
def doneEvent : Event := { file := [], stage := .write, status := .done }

/-- A way to write the text of a path into a tree, which may fail with a message. -/
abbrev Writer := Tree → Bytes → Bytes → Except Bytes Tree

/-- Writes an output file and makes the directory it lies in. -/
def writeOutput : Writer := fun t path text => do
  let t ← (t.makeDir (Path.dir path)).mapError fun f =>
    "failed to create ".utf8 ++ Path.dir path ++ ": ".utf8 ++ f.message
  (t.write path text).mapError fun f =>
    "failed to write build output ".utf8 ++ Quoted.string path ++ ": ".utf8 ++ f.message

namespace Request

/-- Writes the output of one file, if it has one. There is no answer if the build breaks down. -/
def writeOne (q : Request) (write : Writer) (t : Tree) (r : FileRun) :
    Option (Tree × FileOutput × List Event) :=
  let close (t : Tree) (f : FileOutput) (before : List Event) :
      Option (Tree × FileOutput × List Event) :=
    some (t, f, before ++ [if f.hasFailed then
        { file := f.path, stage := .write, status := .error
          failure := some (f.path ++ " has errors".utf8) }
      else { file := f.path, stage := .write, status := .done }])
  let unwritten : FileOutput := { path := r.path, result := r.result, bag := r.bag }
  match r.result.bind fun result => result.output.map fun text => (result, text) with
  | none => close t unwritten []
  | some (result, text) =>
    let working : List Event := [{ file := r.path, stage := .write, status := .working }]
    let path := outputPath q.out q.base r.path
    match write t path text with
    | .ok t => close t { unwritten with output := path } working
    | .error message =>
      match result.program with
      | none => none
      | some p =>
        let bag := r.bag.push (Diagnostic.ofError Code.writeFile p.span message)
        close t { unwritten with bag, result := some { result with bag } } working

/-- Writes the outputs of all files in order. -/
def writeAll (q : Request) (write : Writer) (t : Tree) :
    List FileRun → Option (Tree × List FileOutput × List Event)
  | [] => some (t, [], [])
  | r :: rest => do
    let (t, f, es) ← q.writeOne write t r
    let (t, fs, more) ← q.writeAll write t rest
    some (t, f :: fs, es ++ more)

/-- Writes the outputs of all files in order, each of them in its own way. -/
def writeEach (q : Request) (write : Nat → Writer) (t : Tree) :
    List FileRun → Option (Tree × List FileOutput × List Event)
  | [] => some (t, [], [])
  | r :: rest => do
    let (t, f, es) ← q.writeOne (write 0) t r
    let (t, fs, more) ← q.writeEach (fun n => write (n + 1)) t rest
    some (t, f :: fs, es ++ more)

/-- What a build does after its files have run, of which the observer has seen the passes. -/
def conclude (q : Request)
    (write : Tree → List FileRun → Option (Tree × List FileOutput × List Event))
    (seen : List (Bytes × Pass × Bool)) (w : Workspace) (b : Batch) :
    Option (Workspace × Report) :=
  let before := queuedEvents q.files ++ workOf seen
  let stop (stage : Stage) (message : Bytes) : Option (Workspace × Report) :=
    some (w, { timings := timingsOf seen, events := before ++ failureEvents q.files stage message
               failure := some message })
  match b.failure with
  | some message => stop .generate message
  | none =>
    match w.tree.makeDir q.out with
    | .error f => stop .write ("failed to create output dir: ".utf8 ++ f.message)
    | .ok tree => do
      let (tree, files, events) ← write tree b.runs
      some ({ w with tree },
        { files, timings := (timingsOf seen).add .write 0
          events := before ++ events ++ [doneEvent] })

/-- The options that the files of a build run with. -/
def runOptions (q : Request) : RunOptions := { q.options with goal := .generate }

end Request

/-- What is said if there is no output directory. -/
def noOutDirMessage : Bytes := "missing output directory".utf8

/-- What is said if nothing is asked for. -/
def noRequestMessage : Bytes := "missing build request".utf8

end TensorLang.Build

namespace TensorLang

open Build in
/-- Builds files. There is no answer if the build breaks down. -/
def Workspace.buildWith (write : Build.Writer) (w : Workspace) (q : Build.Request) :
    Option (Workspace × Build.Report) :=
  if q.out.isEmpty then some (w, { failure := some noOutDirMessage })
  else
    let (w, b) := w.runFiles q.files q.isCancelled q.runOptions
    q.conclude (q.writeAll write) b.phases w b

/-- Builds files and writes the outputs into the tree. -/
def Workspace.build (w : Workspace) (q : Build.Request) : Option (Workspace × Build.Report) :=
  w.buildWith Build.writeOutput q

open Build in
/-- Builds files that run by a schedule. There is no answer if the schedule stops before all files
have run, or if the build breaks down. -/
def Workspace.buildBy (w : Workspace) (q : Build.Request) (schedule : List (Option Nat))
    (write : Nat → Build.Writer) : Option (Workspace × Build.Report) :=
  if q.out.isEmpty then some (w, { failure := some noOutDirMessage })
  else do
    let b ← w.runFilesBy q.files q.isCancelled q.runOptions schedule
    q.conclude (q.writeEach write) b.seen b.workspace b.batch

end TensorLang
