import TensorLang.Cli.Process
import TensorLang.Diagnostic.Document
import TensorLang.Diagnostic.Lines
import TensorLang.Diagnostic.Snippet
import TensorLang.Project.Manifest

/-!
# Settings of a run

What the manifest and the command line say together. A flag that is given wins over the manifest.

* `loadProject` finds the manifest.
* `Project.options` are the options of the pipeline.
* `Printer` shows diagnostics in the format that is asked for.
-/

namespace TensorLang.Cli

/-! ### The project -/

/-- The project in which the program runs, with or without a manifest. -/
structure Project where
  manifest : Option Manifest := none

/-- Reads the manifest that the command line names, or the nearest one above the working
directory. -/
def loadProject (s : Settings) : Action Project := do
  let tree := (← get).tree
  let load (path : Bytes) : Action Project := do
    pure ⟨some (← orFail ((Manifest.load tree path).mapError ManifestError.message))⟩
  let named := s.text "config" ""
  if !named.isEmpty then load named
  else
    match ← orFail ((Manifest.find? tree tree.workingDir).mapError ManifestError.message) with
    | some path => load path
    | none => pure {}

namespace Project

/-- The settings of the manifest, or the standard ones. -/
def config (p : Project) : Config := (p.manifest.map Manifest.config).getD {}

/-- The options of the pipeline. -/
def options (p : Project) (s : Settings) (goal : Goal) : RunOptions where
  goal
  maxDiagnostics :=
    if s.has "max-diagnostics" then s.number "max-diagnostics" 100 else p.config.maxDiagnostics
  target := p.config.target
  warningsAsErrors :=
    if s.has "warnings-as-errors" then s.isOn "warnings-as-errors" else p.config.warningsAsErrors
  timings := s.isOn "timings"

/-- The directory for outputs: the one that is asked for, or the one of the manifest, or the
standard one in the working directory. -/
def outDir (p : Project) (asked : Bytes) : Bytes :=
  if !asked.isEmpty then asked else (p.manifest.map Manifest.outDir).getD p.config.outDir

/-- The directory below which outputs keep the places of their sources. -/
def baseDir (p : Project) (tree : Storage.Tree) (input : Bytes) : Bytes :=
  if tree.isDir input then input else (p.manifest.map Manifest.root).getD []

end Project

/-- The sources that an argument stands for. -/
def collectInputs (path : Bytes) : Action (List Bytes) := do
  match listSources (← get).tree path with
  | .error f => fail ("failed to stat path: ".utf8 ++ f.message)
  | .ok [] => fail ("no ".utf8 ++ sourceEnding ++ " files found in ".utf8 ++ path)
  | .ok files => pure files

/-! ### Diagnostics -/

/-- The format of diagnostics. -/
inductive DiagnosticFormat where
  | pretty
  | json
  | short
  deriving DecidableEq, Inhabited, Repr

/-- What is said about a format that does not exist. -/
def unknownFormat (name : Bytes) : Bytes := "unknown format: ".utf8 ++ name

/-- The format of the given name. -/
def DiagnosticFormat.ofName? (name : Bytes) : Option DiagnosticFormat :=
  [("pretty", pretty), ("json", json), ("short", short)].findSome? fun (n, f) =>
    if n.utf8 == name then some f else none

/-- How diagnostics are shown. -/
structure Printer where
  format : DiagnosticFormat := .pretty
  style : PathStyle := .auto
  notes : Bool := false
  color : Bool := false
  deriving DecidableEq, Inhabited, Repr

/-- Does the command line ask for colours? No output is a terminal. -/
def usesColor (s : Settings) : Bool := s.text "color" "auto" == "on".utf8

namespace Printer

/-- The printer that the command line asks for. Notes hold the durations of passes, so they are
shown with timings. -/
def create (s : Settings) (format : Bytes) : Action Printer := do
  match DiagnosticFormat.ofName? format with
  | none => fail (unknownFormat format)
  | some format =>
    let style ← orFail (PathStyle.parse (s.text "path-mode" "auto"))
    pure ⟨format, style, s.isOn "with-notes" || s.isOn "timings", usesColor s⟩

/-- What a JSON document holds. -/
def documentOptions (p : Printer) : DocumentOptions := ⟨true, p.style, 0, p.notes⟩

/-- The text of diagnostics. There is none if they cannot be shown. -/
def text? (p : Printer) (fs : FileSet) (bag : Bag) : Option Bytes :=
  match p.format with
  | .json => some (p.documentOptions.build fs bag.items).document
  | .short => some (Diagnostic.short bag.items fs p.style p.notes)
  | .pretty => SnippetOptions.render ⟨p.color, 2, p.style, 0, p.notes⟩ fs bag.items

/-- Shows diagnostics. -/
def display (p : Printer) (put : Bytes → Action Unit) (fs : FileSet) (bag : Bag) : Action Unit :=
  match p.text? fs bag with
  | some text => put text
  | none => throw .broken

/-- The path of a file of a batch as it is shown. -/
def shownPath (fs : FileSet) (r : FileRun) : Bytes :=
  match r.result with
  | some result => fs.pathOf result.file .auto
  | none => r.path

/-- Drops entries whose path comes again later. -/
def lastByPath : List (Bytes × Json) → List (Bytes × Json)
  | [] => []
  | e :: rest =>
    if rest.any fun later => later.1 == e.1 then lastByPath rest else e :: lastByPath rest

/-- A JSON object with one entry a path, in the order of paths. Of files that are shown under the
same path the last one counts. -/
def byPath (entries : List (Bytes × Json)) : Json :=
  .object ((lastByPath entries).mergeSort fun a b => Bytes.le a.1 b.1)

/-- Shows the diagnostics of many files: one JSON object, or one text after the other. -/
def showAll (p : Printer) (put : Bytes → Action Unit) (b : Batch) : Action Unit :=
  if p.format == .json then
    put (byPath (b.runs.map fun r =>
      (shownPath b.files r, p.documentOptions.build b.files r.bag.items))).document
  else b.runs.forM fun r => if r.bag.items.isEmpty then pure () else p.display put b.files r.bag

end Printer

end TensorLang.Cli
