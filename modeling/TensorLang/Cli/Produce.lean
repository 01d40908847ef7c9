import TensorLang.Build.Build
import TensorLang.Cli.Inspect
import TensorLang.Text.Blank

/-!
# Emitting code

The commands that emit code, for one source or for a whole project, and the one that empties the
cache of results. A cache that cannot be used is no error: then nothing is cached.
-/

namespace TensorLang.Cli

open Storage (ResultCache)

/-! ### The cache -/

/-- Opens the cache, or tells why that is impossible. -/
def openCache : Action (Except Bytes ResultCache) := do
  let p ← get
  match p.surroundings.cacheDir with
  | .error message => pure (.error message)
  | .ok dir =>
    let cache : ResultCache := ⟨dir⟩
    match cache.create p.tree with
    | .ok tree => set { p with tree }; pure (.ok cache)
    | .error f => pure (.error f.message)

/-- The cache for a run, unless it is not wanted or cannot be used. -/
def cacheFor (s : Settings) : Action (Option ResultCache) := do
  if s.isOn "no-cache" then pure none
  else
    match ← openCache with
    | .ok cache => pure (some cache)
    | .error message =>
      warn ("warning: cache disabled: ".utf8 ++ message ++ "\n".utf8)
      pure none

/-- Empties the cache. -/
def cleanTask (s : Settings) : Action Unit := do
  match ← openCache with
  | .error message => fail ("failed to open cache: ".utf8 ++ message)
  | .ok cache =>
    match cache.clear (← get).tree with
    | .error f => fail ("failed to clean cache: ".utf8 ++ f.message)
    | .ok (tree, removed) =>
      modify fun p => { p with tree }
      if !s.isOn "quiet" then
        say ("removed ".utf8 ++ Decimal.ofNat removed ++ " cached results\n".utf8)

/-! ### One source -/

/-- Emits code for one source. Type errors are shown and do not keep code from being emitted. -/
def genTask (s : Settings) (path : Bytes) : Action Unit := do
  let project ← loadProject s
  let cache ← cacheFor s
  let tree := (← get).tree
  let result ← orFail (← inWorkspace cache fun w =>
    match w.runFile path false (project.options s .generate) with
    | .ok (w, r) => (w, .ok r)
    | .error message => (w, .error message))
  let files := (((FileSet.ofTree tree).load tree path).toOption.map Prod.fst).getD (.ofTree tree)
  let printer ← Printer.create s "pretty".utf8
  printer.display warn files result.bag
  let out := s.text "out" ""
  match result.output with
  | none => pure ()
  | some text =>
    if out.isEmpty then say text
    else
      match ← writeFile out text with
      | .ok () => pure ()
      | .error f => fail ("failed to write ".utf8 ++ out ++ ": ".utf8 ++ f.message)
  stopIf result.hasFailed

/-! ### Projects -/

/-- How a build can show its progress. -/
def progressModes : List String := ["", "auto", "on", "off"]

/-- Refuses a way of showing progress that does not exist. -/
def checkProgress (value : Bytes) : Action Unit :=
  if (progressModes.map String.utf8).contains (Text.trim (Text.lower value)) then pure ()
  else fail ("invalid --ui value ".utf8 ++ Quoted.string value ++ " (expected auto|on|off)".utf8)

/-- What has been done when a stage is over. -/
def stageVerb : Build.Stage → Bytes
  | .parse => "parsed".utf8
  | .check => "checked".utf8
  | .generate => "generated".utf8
  | .print => "printed".utf8
  | .write => "written".utf8
  | .other _ => []

/-- A line of timings. -/
def timingLine (label : Bytes) (d : Int) : Bytes :=
  Bytes.padLeft 9 label ++ " ".utf8 ++ Bytes.padLeft 8 (Timer.sign d ++ (Timer.millis d).fixed 1) ++
    " ms\n".utf8

/-- The durations of all stages that took place, and their sum. -/
def timingsText (t : Build.Timings) : Bytes :=
  ((Build.Stage.all.filter t.has).flatMap fun stage =>
    timingLine (stageVerb stage) (t.duration stage)) ++
    timingLine "total".utf8 t.total

/-- A directory as it is shown: from the working directory if it is below it. -/
def shownDir (cwd path : Bytes) : Bytes :=
  if path.isEmpty then path
  else
    match Path.rel? cwd path with
    | some r => if Bytes.startsWith r "..".utf8 then path else r
    | none => path

/-- What is said at the end of a build. -/
def summary (r : Build.Report) (dir : Bytes) : Bytes :=
  "built ".utf8 ++ Decimal.ofNat (r.files.countP fun f => !f.output.isEmpty) ++ " of ".utf8 ++
    Decimal.ofNat r.files.length ++ " file(s) into ".utf8 ++ dir ++ "\n".utf8

/-- Runs a build. -/
def runBuild (cache : Option ResultCache) (q : Build.Request) : Action Build.Report := do
  let report ← inWorkspace cache fun w =>
    match w.build q with
    | some (w, r) => (w, some r)
    | none => (w, none)
  match report with
  | none => throw .broken
  | some r =>
    match r.failure with
    | some message => fail message
    | none => pure r

/-- Emits code for all sources of a project. -/
def buildTask (s : Settings) (path : Option Bytes) : Action Unit := do
  checkProgress (s.text "ui" "auto")
  let project ← loadProject s
  let input := (path.or (project.manifest.map Manifest.root)).getD ".".utf8
  let inputs ← collectInputs input
  let cache ← cacheFor s
  let tree := (← get).tree
  let out := project.outDir (s.text "out" "")
  let report ← runBuild cache
    { files := inputs, base := project.baseDir tree input, out
      options := { project.options s .generate with timings := false } }
  let files := (Batch.loadAll tree (.ofTree tree) inputs).1
  let printer ← Printer.create s "pretty".utf8
  report.files.forM fun f =>
    if f.bag.items.isEmpty then pure () else printer.display warn files f.bag
  if s.isOn "timings" then say (timingsText report.timings)
  if !s.isOn "quiet" then say (summary report (shownDir tree.workingDir out))
  stopIf (0 < report.failed)

end TensorLang.Cli
