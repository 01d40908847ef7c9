import TensorLang.Cli.Settings
import TensorLang.Syntax.Outline

/-!
# Looking at sources

The commands that read sources and emit nothing: they show syntax trees, report diagnostics, or
bring sources into canonical form.

All of them show diagnostics before anything else and fail if there is an error among them.
-/

namespace TensorLang.Cli

/-- Runs the sources that an argument stands for, without a cache. -/
def runInputs (project : Project) (s : Settings) (path : Bytes) (goal : Goal) (problem : String) :
    Action Batch := do
  let files ← collectInputs path
  let b ← inWorkspace none fun w => w.runFiles files false (project.options s goal)
  match b.failure with
  | some message => fail (problem.utf8 ++ ": ".utf8 ++ message)
  | none => pure b

/-- Does a file of the batch have an error? -/
def anyFailed (b : Batch) : Bool := b.runs.any fun r => r.bag.hasErrors

/-- Stops if errors were found. -/
def stopIf (failed : Bool) : Action Unit := if failed then throw .foundErrors else pure ()

/-- The program of a file, if it could be parsed. -/
def programOf? (r : FileRun) : Option Program := r.result.bind RunResult.program

/-- Shows the diagnostics of a batch to people. -/
def showProblems (s : Settings) (b : Batch) : Action Unit := do
  let printer ← Printer.create s "pretty".utf8
  printer.showAll warn b

/-! ### Syntax trees -/

/-- The formats of syntax trees. -/
inductive TreeFormat where
  | pretty
  | tree
  | json
  deriving DecidableEq, Inhabited, Repr

/-- The format of the given name. -/
def TreeFormat.ofName? (name : Bytes) : Option TreeFormat :=
  [("pretty", pretty), ("tree", tree), ("json", json)].findSome? fun (n, f) =>
    if n.utf8 == name then some f else none

/-- The syntax trees of a batch. With more than one file, each has its path above it and an empty
line below it, unless `quiet`. -/
def treeText (format : TreeFormat) (quiet : Bool) (b : Batch) : Bytes :=
  let one (r : FileRun) : Bytes :=
    match programOf? r, format with
    | some p, .tree => Outline.drawing (some b.files) p
    | some p, _ => Outline.pretty (some b.files) p
    | none, _ => []
  if format == .json then
    (Printer.byPath (b.runs.map fun r =>
      (Printer.shownPath b.files r,
        ((programOf? r).map fun p => (Outline.ofProgram p).json).getD .null))).document
  else if quiet || b.runs.length ≤ 1 then b.runs.flatMap one
  else
    Bytes.joinWith "\n".utf8 (b.runs.map fun r =>
      "== ".utf8 ++ Printer.shownPath b.files r ++ " ==\n".utf8 ++ one r)

/-- Prints the syntax trees of sources. -/
def parseTask (s : Settings) (path : Bytes) : Action Unit := do
  let name := s.text "format" "pretty"
  match TreeFormat.ofName? name with
  | none => fail (unknownFormat name)
  | some format =>
    let project ← loadProject s
    let b ← runInputs project s path .parse "parsing failed"
    showProblems s b
    say (treeText format (s.isOn "quiet") b)
    stopIf (anyFailed b)

/-! ### Diagnostics -/

/-- The batch without warnings. -/
def withoutWarnings (b : Batch) : Batch :=
  { b with runs := b.runs.map fun r =>
    { r with bag := r.bag.filter fun d => d.severity != .warning } }

/-- Reports the diagnostics of sources. -/
def checkTask (s : Settings) (path : Bytes) : Action Unit := do
  let printer ← Printer.create s (s.text "format" "pretty")
  let project ← loadProject s
  let b ← runInputs project s path .check "check failed"
  let b := if s.isOn "no-warnings" then withoutWarnings b else b
  match b.runs with
  | [r] => printer.display say b.files r.bag
  | _ => printer.showAll say b
  stopIf (anyFailed b)

/-! ### Canonical form -/

/-- What is done with a source that is not in canonical form, and with the canonical form. -/
inductive FormatMode where
  /-- Prints the canonical form. -/
  | print
  /-- Names the sources that differ from it. -/
  | check
  /-- Brings sources into it. -/
  | write
  deriving DecidableEq, Inhabited, Repr

/-- Handles one source and answers whether it fails. A program whose canonical form reads back as
another program is refused. -/
def formatOne (mode : FormatMode) (files : FileSet) (r : FileRun) (result : RunResult)
    (p : Program) : Action Bool := do
  let trip := Program.checkRoundTrip (some p)
  if !trip.isSame then fail (r.path ++ ": ".utf8 ++ trip.message)
  let changed := p.changed result.file.content
  match mode with
  | .print => say p.format; pure false
  | .check =>
    if changed then say (Printer.shownPath files r ++ "\n".utf8)
    pure changed
  | .write =>
    if changed then
      match ← writeFile r.path p.format with
      | .ok () => pure ()
      | .error f => fail ("failed to write ".utf8 ++ r.path ++ ": ".utf8 ++ f.message)
    pure false

/-- Handles sources one after the other and answers whether one fails. -/
def formatAll (mode : FormatMode) (files : FileSet) (runs : List FileRun) : Action Bool :=
  runs.foldlM (fun failed r =>
    match r.result with
    | some result =>
      match result.program with
      | some p => do pure ((← formatOne mode files r result p) || failed)
      | none => pure failed
    | none => pure failed) false

/-- Brings sources into canonical form. -/
def fmtTask (s : Settings) (path : Bytes) : Action Unit := do
  if s.isOn "write" && s.isOn "check" then fail "--write and --check cannot be used together".utf8
  let mode : FormatMode :=
    if s.isOn "check" then .check else if s.isOn "write" then .write else .print
  let project ← loadProject s
  let b ← runInputs project s path .parse "parsing failed"
  showProblems s b
  let failed ← formatAll mode b.files b.runs
  stopIf (failed || anyFailed b)

end TensorLang.Cli
