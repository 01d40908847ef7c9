import TensorLang.Pipeline.Batch
import TensorLang.Schedule

/-!
# Files that run at the same time

The files of a batch may run at the same time, each in a worker of its own. The workers share the
tree with the cache, the trace and the observer (`Workshop`). Between any two of their actions the
others may act: a span is numbered, its event is numbered and the event is handed to the tracer in
three actions, so that events may come in another order than their numbers.

* `Batch.worker` is the worker of one file. It looks twice whether the batch was cancelled, and once
  it runs it goes on to the end.
* `Workspace.runFilesBy` runs a batch by a schedule, in which the batch may be cancelled at any
  time. How many workers may be under way is left open: a limit only rules out schedules.
-/

namespace TensorLang

open Trace (OpenSpan Scope Session Tracer)

/-- What the workers of a batch share: the workspace, what the observer has seen, and whether the
batch was cancelled. -/
structure Workshop where
  workspace : Workspace
  seen : List (Bytes × Pass × Bool) := []
  isCancelled : Bool := false

namespace Workshop

/-- The trace. -/
def session (s : Workshop) : Session := s.workspace.session

/-- Another state of the trace. -/
def withSession (s : Workshop) (session : Session) : Workshop :=
  { s with workspace := { s.workspace with session } }

/-- The observer has seen more. -/
def shown (s : Workshop) (phases : List (Bytes × Pass × Bool)) : Workshop :=
  { s with seen := s.seen ++ phases }

/-- The batch is cancelled. -/
def cancel (s : Workshop) : Workshop := { s with isCancelled := true }

end Workshop

/-! ### Telling -/

namespace Worker

/-- Draws the number of a span. -/
def drawSpan : Thread Workshop Nat :=
  .act (fun s => s.withSession { s.session with lastSpan := s.session.lastSpan + 1 })
    fun s => .done (s.session.lastSpan + 1)

/-- Draws the number of an event. -/
def drawSeq : Thread Workshop Nat :=
  .act (fun s => s.withSession { s.session with lastSeq := s.session.lastSeq + 1 })
    fun s => .done (s.session.lastSeq + 1)

/-- Hands an event to the tracer. -/
def hand (e : Trace.Event) : Thread Workshop Unit :=
  .act (fun s => s.withSession
      { s.session with tracer := s.session.tracer.emit e, told := s.session.told ++ [e] })
    fun _ => .done ()

/-- Numbers an event and hands it to the tracer. -/
def tell (e : Trace.Event) : Thread Workshop Unit := do
  let seq ← drawSeq
  hand { e with seq }

/-- Begins a span. Only the level of the tracer is looked at, and it never changes. -/
def begin (t : Tracer) (scope : Scope) (name : Bytes) (parent : Nat) : Thread Workshop OpenSpan :=
  if t.isActive scope then do
    let id ← drawSpan
    tell { kind := .spanBegin, scope, id, parent, name }
    pure { id, parent, scope, name }
  else pure {}

/-- Ends a span. -/
def finish (span : OpenSpan) (detail : Bytes) : Thread Workshop Unit :=
  if span.isInert then pure ()
  else
    tell
      { kind := .spanEnd, scope := span.scope, id := span.id, parent := span.parent
        name := span.name, detail, fields := span.fields }

/-- Tells of a point. -/
def point (t : Tracer) (scope : Scope) (name detail : Bytes) (parent : Nat) :
    Thread Workshop Unit :=
  if t.isActive scope then tell { kind := .point, scope, parent, name, detail } else pure ()

/-- Shows the observer that a pass begins or ends. -/
def observe (path : Bytes) (pass : Pass) (isEnd : Bool) : Thread Workshop Unit :=
  .act (fun s => s.shown [(path, pass, isEnd)]) fun _ => .done ()

/-! ### Running a file -/

/-- Tells of the points of a pass. -/
def points (t : Tracer) (parent : Nat) : List (Bytes × Bytes) → Thread Workshop Unit
  | [] => pure ()
  | p :: rest => do
    point t .node p.1 p.2 parent
    points t parent rest

/-- Takes one pass. -/
def pass (t : Tracer) (path : Bytes) (parent : Nat) (step : Step) : Thread Workshop Unit := do
  let span ← begin t .pass step.pass.name parent
  observe path step.pass false
  points t parent step.points
  finish span step.note
  observe path step.pass true

/-- Takes the passes one after the other. -/
def passes (t : Tracer) (path : Bytes) (parent : Nat) : List Step → Thread Workshop Unit
  | [] => pure ()
  | step :: rest => do
    pass t path parent step
    passes t path parent rest

end Worker

/-- Stores what the passes made of a file, if that is asked for, or says why that cannot be. -/
def Workspace.save (w : Workspace) (file : File) (o : RunOptions) : Workspace × Option Bytes :=
  match w.cache.filter fun _ => o.usesStore with
  | none => (w, none)
  | some c =>
    match c.writeFailure? w.tree with
    | none => ({ w with tree := c.put w.tree (o.key file) (o.payload file).encode }, none)
    | some f => (w, some f.message)

namespace Worker

/-- Looks for a stored result. -/
def lookUp (file : File) (o : RunOptions) : Thread Workshop (Option Payload) :=
  .look fun s => s.workspace.cache.bind fun c => o.stored? (.ofCache c s.workspace.tree) file

/-- Stores a result, or tells why that is not possible. -/
def save (t : Tracer) (parent : Nat) (file : File) (o : RunOptions) : Thread Workshop Unit :=
  .act (fun s => { s with workspace := (s.workspace.save file o).1 }) fun s =>
    match (s.workspace.save file o).2 with
    | none => .done ()
    | some failure => point t .pass "cache write failed".utf8 failure parent

/-- Takes the result of a file from the cache or makes it. -/
def body (t : Tracer) (path : Bytes) (parent : Nat) (file : File) (o : RunOptions) :
    Thread Workshop RunResult := do
  match ← lookUp file o with
  | some p =>
    point t .pass "cache hit".utf8 file.path parent
    pure (.ofPayload file o p)
  | none =>
    passes t path parent (compileFile file o).steps
    save t parent file o
    pure (.ofOutcome file o (compileFile file o))

/-- Runs a file under the span `around`. -/
def runFile (t : Tracer) (path : Bytes) (around : Nat) (file : File) (o : RunOptions) :
    Thread Workshop RunResult := do
  let span ← begin t .file file.path around
  let r ← body t path (if span.isInert then around else span.id) file o
  finish (span.withField "diags".utf8 (Decimal.ofNat r.bag.items.length)) []
  pure r

end Worker

/-- The worker of one file of a batch. There is no answer if the batch was cancelled before the file
ran. -/
def Batch.worker (t : Tracer) (around : Nat) (fs : FileSet) (o : RunOptions) (path : Bytes)
    (loaded : Except Storage.Failure Nat) : Thread Workshop (Option FileRun) := do
  if ← .look Workshop.isCancelled then pure none
  else
    match loaded with
    | .error f =>
      pure (some ⟨path, 0, none, (Bag.empty o.maxDiagnostics).push (loadDiagnostic path f)⟩)
    | .ok id =>
      match fs.get? id with
      | none => pure (some ⟨path, id, none, Bag.empty o.maxDiagnostics⟩)
      | some file =>
        if ← .look Workshop.isCancelled then pure none
        else
          let r ← Worker.runFile t path around file o
          pure (some ⟨path, id, some r, r.bag⟩)

/-! ### Batches by a schedule -/

/-- A batch that was run by a schedule: the workspace after it, what became of each file, what the
observer has seen, and everything that happened between the beginning and the end of the batch. -/
structure ScheduledBatch where
  workspace : Workspace
  files : FileSet
  answers : List (Option FileRun)
  seen : List (Bytes × Pass × Bool)
  past : List (Option Nat × Workshop × Workshop)

/-- The batch as such: it fails if one of its files did not run. -/
def ScheduledBatch.batch (b : ScheduledBatch) : Batch :=
  match b.answers.mapM id with
  | some runs => { files := b.files, runs }
  | none => { files := b.files, failure := some cancelledMessage }

namespace Workspace

variable (w : Workspace) (paths : List Bytes) (isCancelled : Bool) (o : RunOptions)

/-- The span of a batch, and the trace after its beginning. -/
def beginBatch : Session × OpenSpan := w.session.begin .driver "run files".utf8 0

/-- The files of a batch, as far as they can be read. -/
def loadBatch : FileSet × List (Except Storage.Failure Nat) :=
  Batch.loadAll w.tree (FileSet.ofTree w.tree) paths

/-- The workers of a batch before the first of them acts. -/
def crew : Crew Workshop (Option FileRun) where
  state := { workspace := { w with session := w.beginBatch.1 }, isCancelled }
  threads := (paths.zip (w.loadBatch paths).2).map fun item =>
    Batch.worker w.session.tracer w.beginBatch.2.id (w.loadBatch paths).1 o item.1 item.2

/-- Ends the span of a batch. -/
def finishBatch (after : Workspace) : Workspace :=
  { after with session :=
      after.session.finish (w.beginBatch.2.withField "files".utf8 (Decimal.ofNat paths.length)) [] }

/-- Runs a batch by a schedule, in which `none` cancels the batch. There is no answer if the
schedule stops before all workers are done. -/
def runFilesBy (schedule : List (Option Nat)) : Option ScheduledBatch :=
  let after := (w.crew paths isCancelled o).run Workshop.cancel schedule
  after.answers?.map fun answers =>
    { workspace := w.finishBatch paths after.state.workspace
      files := (w.loadBatch paths).1, answers, seen := after.state.seen, past := after.past }

end Workspace

end TensorLang
