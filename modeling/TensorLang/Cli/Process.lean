import TensorLang.Cli.Command
import TensorLang.Pipeline.Batch

/-!
# Processes

A run of the program, as seen from outside: what it prints, what it leaves in the file tree, and how
it ends. Commands are actions on this state that may stop early.

* `Stop` lists the ways to stop. A command that found errors in sources stops without another word,
  since it has shown them already.
* `inWorkspace` runs files and writes what the tracer told about it.
-/

namespace TensorLang.Cli

open Storage (Tree ResultCache)

/-- Where trace lines go. -/
inductive TraceOutput where
  | errors
  | file (path : Bytes)
  deriving DecidableEq, Inhabited, Repr

/-- The directories that the surroundings name: the one for caches and the one of the user. An empty
name stands for none. -/
structure Surroundings where
  cacheHome : Bytes := []
  home : Bytes := []
  deriving DecidableEq, Inhabited, Repr

/-- The directory for cached results, or why there is none. -/
def Surroundings.cacheDir (s : Surroundings) : Except Bytes Bytes :=
  if s.cacheHome.isEmpty then
    if s.home.isEmpty then .error "neither $XDG_CACHE_HOME nor $HOME are defined".utf8
    else .ok (Path.join [s.home, ".cache".utf8, Command.programName.utf8])
  else if Path.isAbs s.cacheHome then .ok (Path.join [s.cacheHome, Command.programName.utf8])
  else .error "path in $XDG_CACHE_HOME is relative".utf8

/-- The state of a run. -/
structure Process where
  tree : Tree
  surroundings : Surroundings := {}
  session : Trace.Session := { tracer := .silent }
  traceOutput : TraceOutput := .errors
  /-- The file for the memory profile, empty for none. -/
  memoryProfile : Bytes := []
  stdout : Bytes := []
  stderr : Bytes := []

/-- Why a command stops. -/
inductive Stop where
  /-- It tells why. -/
  | failed (message : Bytes)
  /-- Diagnostics that were shown are reason enough. -/
  | foundErrors
  /-- The program itself breaks down. -/
  | broken
  deriving DecidableEq, Inhabited, Repr

/-- An action of a command. -/
abbrev Action := ExceptT Stop (StateM Process)

/-- Stops with a message. -/
def fail {α : Type} (message : Bytes) : Action α := throw (.failed message)

/-- Goes on with a value or stops with a message. -/
def orFail {α : Type} : Except Bytes α → Action α
  | .ok a => pure a
  | .error message => fail message

/-- Prints to the standard output. -/
def say (text : Bytes) : Action Unit := modify fun p => { p with stdout := p.stdout ++ text }

/-- Prints to the standard error output. -/
def warn (text : Bytes) : Action Unit := modify fun p => { p with stderr := p.stderr ++ text }

/-- Writes a file. -/
def writeFile (path text : Bytes) : Action (Except Storage.Failure Unit) := do
  match (← get).tree.write path text with
  | .ok tree => modify fun p => { p with tree }; pure (.ok ())
  | .error f => pure (.error f)

/-- The state after the tracer told more: the new lines are written. -/
def Process.withSession (p : Process) (session : Trace.Session) : Process :=
  let written := session.tracer.written
  let fresh := written.drop p.session.tracer.written.length
  match p.traceOutput with
  | .errors => { p with session, stderr := p.stderr ++ fresh }
  | .file path => { p with session, tree := (p.tree.write path written).toOption.getD p.tree }

/-- Runs files. -/
def inWorkspace {α : Type} (cache : Option ResultCache) (f : Workspace → Workspace × α) :
    Action α := do
  let p ← get
  let (w, a) := f ⟨p.tree, cache, p.session⟩
  set ({ p with tree := w.tree }.withSession w.session)
  pure a

/-- What a run leaves behind. -/
structure Ending where
  status : Nat
  stdout : Bytes
  stderr : Bytes
  tree : Tree

end TensorLang.Cli
