import TensorLang.Diagnostic.Reporter
import TensorLang.Emit.Wrapper
import TensorLang.Observe.Timer
import TensorLang.Pipeline.Payload
import TensorLang.Source.FileSet
import TensorLang.Syntax.Parser
import TensorLang.Trace.Tracer
import TensorLang.Typing.Infer

/-!
# Runs

A run takes one file through the passes: it is parsed, checked, emitted and laid out. Findings of
all passes are collected in one bag.

`compileFile` is the run itself; it answers what was made and which passes took place, each with a
note and the points that it tells. Everything else about a run is derived from its passes: what an
observer sees (`Step.phases`), the timings (`Step.timer`) and the trace (`Session.tellSteps`).

* A program with type errors is still emitted.
* A program without statements has no fragments, and then there is nothing to lay out.
* `executeRun` adds the stored results: a run whose result is stored has no passes at all.
-/

namespace TensorLang

/-- How far a run goes. -/
inductive Goal where
  | parse
  | check
  | generate
  deriving DecidableEq, Inhabited, Repr

/-- The goal with the given name; no name means the last one. -/
def Goal.ofName (name : Bytes) : Goal :=
  if name == "parse".utf8 then .parse
  else if name.isEmpty || name == "generate".utf8 then .generate else .check

/-- What a run is asked for. -/
structure RunOptions where
  goal : Goal := .generate
  /-- The most diagnostics to keep; without limit if not positive. -/
  maxDiagnostics : Int := 0
  target : Target := Target.standard
  warningsAsErrors : Bool := false
  timings : Bool := false
  deriving DecidableEq, Inhabited, Repr

/-- A pass over a file. -/
inductive Pass where
  | parse
  | check
  | generate
  | print
  deriving DecidableEq, Inhabited, Repr

/-- The name of a pass. -/
def Pass.name : Pass → Bytes
  | parse => "parse".utf8
  | check => "check".utf8
  | generate => "generate".utf8
  | print => "print".utf8

/-- A pass that took place, a note on how it went, and the points it tells, each a name and a
detail. -/
structure Step where
  pass : Pass
  note : Bytes
  points : List (Bytes × Bytes) := []
  deriving DecidableEq, Inhabited, Repr

/-- What the passes made of a file. -/
structure Outcome where
  program : Option Program := none
  checked : Option Checked := none
  output : Option Bytes := none
  bag : Bag
  steps : List Step := []
  deriving Repr

namespace Outcome

/-- The diagnostic for a syntax error: a bad literal has its own message, and a mismatch names what
was found. -/
def syntaxDiagnostic (e : SyntaxError) : Diagnostic :=
  if e.problem.isEmpty then
    (Diagnostic.ofError Code.unexpectedInput e.span e.describe).withLabel
      ("unexpected ".utf8 ++ e.found)
  else Diagnostic.ofError Code.invalidLiteral e.span e.problem

/-- A count as a note. -/
def countNote (what : String) (n : Nat) : Bytes := what.utf8 ++ "=".utf8 ++ Decimal.ofNat n

/-- The note on a pass that failed. -/
def failedNote : Bytes := "failed".utf8

/-- The points that checking tells. A type error tells its diagnostic as well, unless an equal one
was reported before. -/
def checkPoints (seen : List DedupKey) : List Finding → List (Bytes × Bytes)
  | [] => []
  | f@(.error e) :: rest =>
    let key := DedupKey.ofDiagnostic e.diagnostic
    if seen.contains key then f.tracePoint :: checkPoints seen rest
    else ("diagnostic".utf8, e.diagnostic.code.id ++ " ".utf8 ++ e.diagnostic.message) ::
      f.tracePoint :: checkPoints (key :: seen) rest
  | f :: rest => f.tracePoint :: checkPoints seen rest

/-- A bag with reported diagnostics, of which repetitions are dropped. -/
def report (bag : Bag) (ds : List Diagnostic) : Bag :=
  match (ds.foldl Reporter.report (Reporter.dedup [.bag bag])).sinks with
  | [.bag b] => b
  | _ => bag

/-- Parses a file. -/
def parse (file : File) (limit : Int) : Outcome :=
  match Program.parse file.id file.content with
  | .ok p =>
    { program := some p, bag := Bag.empty limit
      steps := [{ pass := .parse, note := countNote "stmts" p.stmts.length }] }
  | .error e =>
    { bag := (e.errors.map syntaxDiagnostic).foldl Bag.push (Bag.empty limit)
      steps := [{ pass := .parse, note := failedNote }] }

/-- Checks a program. -/
def check (o : Outcome) (p : Program) : Outcome :=
  let c := Program.check (some p)
  { o with
    checked := some c
    bag := report o.bag c.diagnostics
    steps := o.steps ++
      [⟨.check, countNote "errors" c.errors.length, checkPoints [] c.findings⟩] }

/-- The diagnostic for a program that cannot be emitted. -/
def emitDiagnostic (p : Program) (e : EmitError) : Diagnostic :=
  e.diagnostic?.getD (Diagnostic.ofError Code.malformedOutput p.span e.message)

/-- Lays out fragments. -/
def print (o : Outcome) (t : Target) (fs : List Fragment) : Outcome :=
  match t.print fs with
  | .ok text =>
    { o with
      output := some text
      steps := o.steps ++ [{ pass := .print, note := countNote "bytes" text.length }] }
  | .error m =>
    { o with
      bag := o.bag.push m.diagnostic
      steps := o.steps ++ [{ pass := .print, note := failedNote }] }

/-- Emits a program, and lays out what it becomes unless that is nothing. -/
def generate (o : Outcome) (t : Target) (p : Program) : Outcome :=
  match p.fragments t with
  | .error e =>
    { o with
      bag := o.bag.push (emitDiagnostic p e)
      steps := o.steps ++ [{ pass := .generate, note := failedNote }] }
  | .ok fs =>
    let o := { o with
      steps := o.steps ++ [{ pass := .generate, note := countNote "fragments" fs.length }] }
    if fs.isEmpty then o else o.print t fs

/-- Turns warnings into errors. -/
def promote (d : Diagnostic) : Diagnostic :=
  if d.severity == .warning then { d with severity := .error } else d

/-- Sorts what was found, and promotes warnings if that is asked for. -/
def settle (o : Outcome) (warningsAsErrors : Bool) : Outcome :=
  { o with bag := if warningsAsErrors then o.bag.sort.transform promote else o.bag.sort }

end Outcome

/-- Takes a file through the passes. -/
def compileFile (file : File) (o : RunOptions) : Outcome :=
  let parsed := Outcome.parse file o.maxDiagnostics
  let made := match parsed.program with
    | none => parsed
    | some p =>
      match o.goal with
      | .parse => parsed
      | .check => parsed.check p
      | .generate => (parsed.check p).generate o.target p
  made.settle o.warningsAsErrors

namespace Step

/-- What an observer sees: each pass begins (`false`) and ends (`true`). -/
def phases (steps : List Step) : List (Pass × Bool) :=
  steps.flatMap fun s => [(s.pass, false), (s.pass, true)]

/-- The timer of a run, in which time does not pass. -/
def timer (steps : List Step) : Timer :=
  ⟨steps.map fun s => { name := s.pass.name, started := 0, note := s.note }⟩

end Step

namespace Trace.Session

/-- Tells of the passes of a run under a span. The points of a pass hang on the same span as the
pass itself. -/
def tellSteps (s : Session) (parent : Nat) (steps : List Step) : Session :=
  steps.foldl (fun s step =>
    let (s, span) := s.begin .pass step.pass.name parent
    let s := step.points.foldl (fun s p => s.point .node p.1 p.2 parent) s
    s.finish span step.note) s

end Trace.Session

/-- What a run gave. -/
structure RunResult where
  file : File
  program : Option Program := none
  checked : Option Checked := none
  output : Option Bytes := none
  bag : Bag
  timer : Option Timer := none
  isCached : Bool := false
  steps : List Step := []
  deriving Repr

namespace RunResult

/-- Was an error found? -/
def hasFailed (r : RunResult) : Bool := r.bag.hasErrors

/-- Adds the timings to a bag, even if it is full. -/
def addTimings (bag : Bag) (t : Timer) (file : File) : Bag :=
  let d := t.diagnostic ⟨file.id, 0, 0⟩
  let entry := { d with message := d.message ++ " - ".utf8 ++ file.path }
  match bag.add entry with
  | (bag, true) => bag
  | (bag, false) => bag.merge ((Bag.empty (bag.items.length + 1 : Nat)).push entry)

/-- The result of the passes over a file. -/
def ofOutcome (file : File) (o : RunOptions) (made : Outcome) : RunResult :=
  let timer := Step.timer made.steps
  { file, program := made.program, checked := made.checked, output := made.output
    steps := made.steps
    bag := if o.timings then addTimings made.bag timer file else made.bag
    timer := if o.timings then some timer else none }

/-- The result that is stored in a payload. -/
def ofPayload (file : File) (o : RunOptions) (p : Payload) : RunResult :=
  { file, output := p.output, isCached := true
    bag := (p.diagnosticsIn file.id).foldl Bag.push (Bag.empty o.maxDiagnostics) }

end RunResult

/-- Does the run look for a stored result? Only whole runs without timings do. -/
def RunOptions.usesStore (o : RunOptions) : Bool := o.goal == .generate && !o.timings

/-- The key of a result: it depends on the content, the target and the options that change the
stored diagnostics. -/
def RunOptions.key (o : RunOptions) (file : File) : Bytes :=
  let settings := "max=".utf8 ++ Decimal.ofInt o.maxDiagnostics ++ " wae=".utf8 ++
    (if o.warningsAsErrors then "true".utf8 else "false".utf8)
  combineDigests [file.hash, o.target.digest, Sha256.hash settings]

/-- Stored results by key, as bytes, and why nothing more can be stored, if that is so. -/
structure ResultStore where
  get? : Bytes → Option Bytes
  failure : Option Bytes := none

/-- The stored result of a run, if there is one that fits. -/
def RunOptions.stored? (o : RunOptions) (store : ResultStore) (file : File) : Option Payload := do
  let p ← Payload.decode? (← store.get? (o.key file))
  if o.usesStore && p.isFor file.hash o.target.digest then some p else none

/-- What is stored of a run. -/
def RunOptions.payload (o : RunOptions) (file : File) : Payload :=
  Payload.ofResult file.hash o.target.digest (compileFile file o).bag (compileFile file o).output

/-- A run with its trace, and what it stores, if anything, as a key and bytes. -/
structure Execution where
  result : RunResult
  session : Trace.Session
  stores : Option (Bytes × Bytes) := none

/-- Runs a file under the span `around`, zero for none. -/
def executeRun (session : Trace.Session) (around : Nat) (store : Option ResultStore) (file : File)
    (o : RunOptions) : Execution :=
  let (session, span) := session.begin .file file.path around
  let parent := if span.isInert then around else span.id
  let finish (s : Trace.Session) (r : RunResult) : Trace.Session :=
    s.finish (span.withField "diags".utf8 (Decimal.ofNat r.bag.items.length)) []
  match store.bind fun store => o.stored? store file with
  | some p =>
    let r := RunResult.ofPayload file o p
    ⟨r, finish (session.point .pass "cache hit".utf8 file.path parent) r, none⟩
  | none =>
    let made := compileFile file o
    let r := RunResult.ofOutcome file o made
    let told := session.tellSteps parent made.steps
    match store.filter fun _ => o.usesStore with
    | none => ⟨r, finish told r, none⟩
    | some ⟨_, none⟩ => ⟨r, finish told r, some (o.key file, (o.payload file).encode)⟩
    | some ⟨_, some failure⟩ =>
      ⟨r, finish (told.point .pass "cache write failed".utf8 failure parent) r, none⟩

end TensorLang
