import TensorLang.Emit.Wrapper
import TensorLang.Storage.Tree
import TensorLang.Text.LetterCase
import TensorLang.Toml.Document

/-!
# Manifests

A manifest is a TOML file with the settings of a project: the target, how many diagnostics are
shown, and where outputs go. What it does not mention keeps its standard value.

* `Manifest.load` reads the manifest at a path. A setting that nobody knows is an error, and so is a
  target that cannot work.
* `Manifest.find?` looks for the nearest manifest above a directory.
-/

namespace TensorLang

open Storage (Tree)
open Toml (Value Table Key)

/-- The settings of a project. -/
structure Config where
  target : Target := .standard
  maxDiagnostics : Int := 100
  warningsAsErrors : Bool := false
  /-- Where outputs go; if it is relative, it is meant in the directory of the manifest. -/
  outDir : Bytes := "gen".utf8
  /-- How many files may be worked on at the same time; zero means as many as the machine likes. -/
  jobs : Int := 0
  deriving DecidableEq, Inhabited, Repr

namespace Config

/-- A text of a target: the name of its setting, the text, and how to change it. -/
structure TargetText where
  name : String
  get : Target → Bytes
  set : Target → Bytes → Target

/-- The texts of a target. -/
def targetTexts : List TargetText :=
  [⟨"package", Target.package, fun t s => { t with package := s }⟩,
    ⟨"alias", Target.givenAlias, fun t s => { t with givenAlias := s }⟩,
    ⟨"backend_package", Target.backendPackage, fun t s => { t with backendPackage := s }⟩,
    ⟨"device", Target.device, fun t s => { t with device := s }⟩,
    ⟨"device_var", Target.deviceVar, fun t s => { t with deviceVar := s }⟩,
    ⟨"zeros", Target.zeros, fun t s => { t with zeros := s }⟩,
    ⟨"ones", Target.ones, fun t s => { t with ones := s }⟩,
    ⟨"full", Target.full, fun t s => { t with full := s }⟩,
    ⟨"arange", Target.arange, fun t s => { t with arange := s }⟩,
    ⟨"arange_step", Target.arangeStep, fun t s => { t with arangeStep := s }⟩,
    ⟨"operators", Target.operators, fun t s => { t with operators := s }⟩]

/-- Takes the names of methods; anything but a table names none. -/
def readMethods? (t : Target) : Value → Option Target
  | .table entries => entries.foldlM (fun t e =>
      match e.2 with
      | .text name => some (t.setMethod e.1 name)
      | _ => none) t
  | _ => some t

/-- A setting: its name, and what its value does to the settings. A value of the wrong kind is
refused. -/
abbrev Setting := String × (Config → Value → Option Config)

/-- The settings of a target. An empty text keeps the standard one. -/
def targetSettings : List Setting :=
  targetTexts.map (fun text => (text.name, fun c v =>
    match v with
    | .text s => some (if s.isEmpty then c else { c with target := text.set c.target s })
    | _ => none)) ++
  [("methods", fun c v => (readMethods? c.target v).map fun target => { c with target })]

/-- The settings for diagnostics. -/
def checkSettings : List Setting :=
  [("max_diagnostics", fun c v =>
      match v with
      | .integer n => some { c with maxDiagnostics := n }
      | _ => none),
    ("warnings_as_errors", fun c v =>
      match v with
      | .boolean b => some { c with warningsAsErrors := b }
      | _ => none)]

/-- The settings for builds. -/
def buildSettings : List Setting :=
  [("out_dir", fun c v =>
      match v with
      | .text s => some { c with outDir := s }
      | _ => none),
    ("jobs", fun c v =>
      match v with
      | .integer n => some { c with jobs := n }
      | _ => none)]

/-- The tables of a manifest and their settings. -/
def sections : List (String × List Setting) :=
  [("target", targetSettings), ("check", checkSettings), ("build", buildSettings)]

/-- Finds what a name means: exactly this name, or else the same name in another case. -/
def find? {α : Type} (names : List (String × α)) (name : Bytes) : Option α :=
  ((names.find? fun n => n.1.utf8 == name).or
    (names.find? fun n => Text.equalFold name n.1.utf8)).map Prod.snd

/-- Takes the settings of one table. Names that mean nothing are left alone. -/
def readTable? (settings : List Setting) (c : Config) (t : Table) : Option Config :=
  t.foldlM (fun c e =>
    match find? settings e.1 with
    | some read => read c e.2
    | none => some c) c

/-- Takes the settings of a whole document. -/
def ofTable? (root : Table) : Option Config :=
  root.foldlM (fun c e =>
    match find? sections e.1, e.2 with
    | some settings, .table t => readTable? settings c t
    | some _, _ => none
    | none, _ => some c) {}

/-- Does a key of the document mean something? The names in the table of methods all do. -/
def knows (root : Table) : Key → Bool
  | [area] => (find? sections area).isSome
  | [area, name] => ((find? sections area).bind fun settings => find? settings name).isSome
  | [area, name, _] =>
    Text.equalFold area "target".utf8 && Text.equalFold name "methods".utf8 &&
      match (root.at? [area]).bind fun t => t.get? name with
      | some (.table _) => true
      | _ => false
  | _ => false

end Config

/-- Why there is no manifest. -/
inductive ManifestError where
  /-- The file cannot be read, is malformed, or a setting has a value of the wrong kind. -/
  | malformed (path : Bytes)
  | unknownKeys (path : Bytes) (keys : List Key)
  | negativeLimit (path : Bytes)
  | negativeJobs (path : Bytes)
  | target (path : Bytes) (problem : Target.Problem)
  /-- It cannot be told whether there is a file. -/
  | unknownFile (failure : Storage.Failure)

namespace ManifestError

/-- What stands for the words about a malformed file. -/
def detail : Bytes := "<toml>".utf8

/-- What is said about an error. -/
def message : ManifestError → Bytes
  | malformed path => path ++ ": failed to parse TOML: ".utf8 ++ detail
  | unknownKeys path keys =>
    path ++ ": unknown keys: ".utf8 ++ Bytes.joinWith ", ".utf8 (keys.map Toml.keyText)
  | negativeLimit path => path ++ ": [check].max_diagnostics must not be negative".utf8
  | negativeJobs path => path ++ ": [build].jobs must not be negative".utf8
  | target path problem => path ++ ": [target]: ".utf8 ++ problem.message
  | unknownFile f => "failed to stat ".utf8 ++ Quoted.string f.path ++ ": ".utf8 ++ f.message

end ManifestError

/-- A manifest: where it is and what it says. -/
structure Manifest where
  path : Bytes
  config : Config
  deriving DecidableEq, Inhabited, Repr

namespace Manifest

/-- The name of manifests. -/
def fileName : Bytes := "tensa.toml".utf8

/-- The directory of the manifest. -/
def root (m : Manifest) : Bytes := Path.dir m.path

/-- The directory for outputs. -/
def outDir (m : Manifest) : Bytes :=
  if Path.isAbs m.config.outDir then m.config.outDir else Path.join [m.root, m.config.outDir]

/-- The settings that a text gives. -/
def read (path text : Bytes) : Except ManifestError Config :=
  match Toml.Document.ofText? text with
  | none => .error (.malformed path)
  | some doc =>
    match Config.ofTable? doc.root with
    | none => .error (.malformed path)
    | some config =>
      match doc.keys.filter fun key => !Config.knows doc.root key with
      | [] =>
        if config.maxDiagnostics < 0 then .error (.negativeLimit path)
        else if config.jobs < 0 then .error (.negativeJobs path)
        else
          match config.target.problem? with
          | some problem => .error (.target path problem)
          | none => .ok config
      | keys => .error (.unknownKeys path keys)

/-- Reads the manifest at a path. -/
def load (t : Tree) (path : Bytes) : Except ManifestError Manifest :=
  match t.read path with
  | .error _ => .error (.malformed path)
  | .ok text => (read path text).map fun config => ⟨Path.abs t.workingDir path, config⟩

/-- The first of some paths at which there is something. -/
def firstPath? (t : Tree) : List Bytes → Except ManifestError (Option Bytes)
  | [] => .ok none
  | path :: rest =>
    match t.stat path with
    | .ok _ => .ok (some path)
    | .error f => if f.fault == .missing then firstPath? t rest else .error (.unknownFile f)

/-- The places of a manifest in a directory and above it, the nearest first. -/
def candidates (cwd dir : Bytes) : List Bytes :=
  let parts := Path.parts (Path.abs cwd dir)
  (List.range (parts.length + 1)).map fun n =>
    Path.join [Path.ofParts true (parts.take (parts.length - n)), fileName]

/-- The path of the nearest manifest above a directory. -/
def find? (t : Tree) (dir : Bytes) : Except ManifestError (Option Bytes) :=
  firstPath? t (candidates t.workingDir (if dir.isEmpty then ".".utf8 else dir))

/-- The directory of the nearest manifest. -/
def findRoot? (t : Tree) (dir : Bytes) : Except ManifestError (Option Bytes) :=
  (find? t dir).map fun path => path.map Path.dir

end Manifest

end TensorLang
