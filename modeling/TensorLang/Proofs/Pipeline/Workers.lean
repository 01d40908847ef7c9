import TensorLang.Pipeline.Workers
import TensorLang.Proofs.Pipeline.Attribution
import TensorLang.Proofs.Schedule.Threads

/-!
# Workers one after the other

Files that run at the same time do what files do that run one after the other, if the schedule lets
each worker go on to its end.

* `Worker.run_runFile`: a worker that nobody disturbs does what `Workspace.run` does, and
  `Workspace.runFilesBy_inOrder`: workers one after the other do what `Workspace.runFiles` does.
* `Workspace.exists_runFilesBy`: every schedule can be gone on with until the batch ends.
-/

namespace TensorLang

open Trace (OpenSpan Scope Session Tracer)

namespace Workshop

@[simp]
theorem session_withSession (s : Workshop) (session : Session) :
    (s.withSession session).session = session := rfl

@[simp]
theorem withSession_withSession (s : Workshop) (first second : Session) :
    (s.withSession first).withSession second = s.withSession second := rfl

@[simp]
theorem withSession_session (s : Workshop) : s.withSession s.session = s := rfl

@[simp]
theorem session_shown (s : Workshop) (phases : List (Bytes × Pass × Bool)) :
    (s.shown phases).session = s.session := rfl

@[simp]
theorem withSession_shown (s : Workshop) (phases : List (Bytes × Pass × Bool))
    (session : Session) :
    (s.shown phases).withSession session = (s.withSession session).shown phases := rfl

@[simp]
theorem shown_nil (s : Workshop) : s.shown [] = s := by
  simp [shown]

@[simp]
theorem shown_shown (s : Workshop) (first second : List (Bytes × Pass × Bool)) :
    (s.shown first).shown second = s.shown (first ++ second) := by
  simp [shown]

end Workshop

/-! ### A worker that nobody disturbs -/

namespace Trace.Session

@[simp]
theorem level_begin (s : Session) (scope : Scope) (name : Bytes) (parent : Nat) :
    (s.begin scope name parent).1.tracer.level = s.tracer.level := by
  unfold begin
  split <;> rfl

@[simp]
theorem level_finish (s : Session) (span : OpenSpan) (detail : Bytes) :
    (s.finish span detail).tracer.level = s.tracer.level := by
  unfold finish
  split <;> rfl

@[simp]
theorem level_point (s : Session) (scope : Scope) (name detail : Bytes) (parent : Nat) :
    (s.point scope name detail parent).tracer.level = s.tracer.level := by
  unfold point
  split <;> rfl

@[simp]
theorem level_points (s : Session) (parent : Nat) (ps : List (Bytes × Bytes)) :
    (ps.foldl (fun s p => s.point .node p.1 p.2 parent) s).tracer.level = s.tracer.level := by
  induction ps generalizing s with
  | nil => rfl
  | cons p rest ih => exact (ih _).trans (level_point ..)

@[simp]
theorem level_tellSteps (s : Session) (parent : Nat) (steps : List Step) :
    (s.tellSteps parent steps).tracer.level = s.tracer.level := by
  induction steps generalizing s with
  | nil => rfl
  | cons step rest ih =>
    refine (ih _).trans ?_
    simp

end Trace.Session

/-- Whether a scope is told depends on the level only. -/
theorem Trace.Tracer.isActive_congr {t t' : Tracer} (h : t.level = t'.level) (scope : Scope) :
    t.isActive scope = t'.isActive scope := by
  rw [isActive, isActive, isEnabled, isEnabled, h]

namespace Worker

variable {t : Tracer} {s : Workshop}

theorem run_begin (h : s.session.tracer.level = t.level) (scope : Scope) (name : Bytes)
    (parent : Nat) :
    (begin t scope name parent).run s =
      (s.withSession (s.session.begin scope name parent).1,
        (s.session.begin scope name parent).2) := by
  unfold begin Session.begin
  rw [Tracer.isActive_congr h]
  split <;> rfl

theorem run_finish (span : OpenSpan) (detail : Bytes) (s : Workshop) :
    (finish span detail).run s = (s.withSession (s.session.finish span detail), ()) := by
  unfold finish Session.finish
  split <;> rfl

theorem run_point (h : s.session.tracer.level = t.level) (scope : Scope) (name detail : Bytes)
    (parent : Nat) :
    (point t scope name detail parent).run s =
      (s.withSession (s.session.point scope name detail parent), ()) := by
  unfold point Session.point
  rw [Tracer.isActive_congr h]
  split <;> rfl

theorem run_points (h : s.session.tracer.level = t.level) (parent : Nat)
    (ps : List (Bytes × Bytes)) :
    (points t parent ps).run s =
      (s.withSession (ps.foldl (fun s p => s.point .node p.1 p.2 parent) s.session), ()) := by
  induction ps generalizing s with
  | nil => rfl
  | cons p rest ih =>
    rw [points, Thread.run_bind, run_point h, ih (by simpa using h)]
    rfl

/-- What the observer sees of the passes over a file. -/
def phasesOf (path : Bytes) (steps : List Step) : List (Bytes × Pass × Bool) :=
  (Step.phases steps).map fun p => (path, p.1, p.2)

theorem run_observe (path : Bytes) (pass : Pass) (isEnd : Bool) (s : Workshop) :
    (observe path pass isEnd).run s = (s.shown [(path, pass, isEnd)], ()) := rfl

theorem run_pass (h : s.session.tracer.level = t.level) (path : Bytes) (parent : Nat)
    (step : Step) :
    (pass t path parent step).run s =
      ((s.withSession (s.session.tellSteps parent [step])).shown (phasesOf path [step]), ()) := by
  have hlevel : (s.session.begin .pass step.pass.name parent).1.tracer.level = t.level := by
    rw [Session.level_begin, h]
  simp only [pass, Thread.run_bind, run_begin h, run_observe]
  rw [run_points (by simpa using hlevel), run_finish]
  simp [phasesOf, Step.phases, Session.tellSteps]

theorem run_passes (h : s.session.tracer.level = t.level) (path : Bytes) (parent : Nat)
    (steps : List Step) :
    (passes t path parent steps).run s =
      ((s.withSession (s.session.tellSteps parent steps)).shown (phasesOf path steps), ()) := by
  induction steps generalizing s with
  | nil => simp [passes, phasesOf, Step.phases, Session.tellSteps]
  | cons step rest ih =>
    rw [passes, Thread.run_bind, run_pass h, ih (by simpa using h)]
    simp [phasesOf, Step.phases, Session.tellSteps]

end Worker

namespace Workspace

/-- Stores a result, or tells why that is not possible. -/
def saveAndTell (w : Workspace) (parent : Nat) (file : File) (o : RunOptions) : Workspace :=
  match w.save file o with
  | (w, none) => w
  | (w, some failure) =>
    { w with session := w.session.point .pass "cache write failed".utf8 failure parent }

/-- What a run does between the beginning and the end of the span of its file. -/
def runInside (w : Workspace) (parent : Nat) (file : File) (o : RunOptions) :
    Workspace × RunResult :=
  match w.cache.bind fun c => o.stored? (.ofCache c w.tree) file with
  | some p =>
    let told := w.session.point .pass "cache hit".utf8 file.path parent
    ({ w with session := told }, .ofPayload file o p)
  | none =>
    let told := w.session.tellSteps parent (compileFile file o).steps
    ({ w with session := told }.saveAndTell parent file o,
      .ofOutcome file o (compileFile file o))

theorem run_eq (w : Workspace) (around : Nat) (file : File) (o : RunOptions) :
    w.run around file o =
      let begun := w.session.begin .file file.path around
      let inside := { w with session := begun.1 }.runInside
        (if begun.2.isInert then around else begun.2.id) file o
      let span := begun.2.withField "diags".utf8 (Decimal.ofNat inside.2.bag.items.length)
      ({ inside.1 with session := inside.1.session.finish span [] }, inside.2) := by
  obtain ⟨tree, cache, session⟩ := w
  cases cache with
  | none => rfl
  | some c =>
    unfold run executeRun runInside saveAndTell save
    simp only [Option.map_some, Option.bind_some]
    cases o.stored? (.ofCache c tree) file with
    | some p => rfl
    | none =>
      cases huses : o.usesStore with
      | false => simp [Option.filter]
      | true =>
        cases hfailure : c.writeFailure? tree with
        | none => simp [Option.filter, ResultStore.ofCache, hfailure, RunOptions.payload]
        | some f => simp [Option.filter, ResultStore.ofCache, hfailure]

@[simp]
theorem session_save (w : Workspace) (file : File) (o : RunOptions) :
    (w.save file o).1.session = w.session := by
  unfold save
  split
  · rfl
  · split <;> rfl

end Workspace

namespace Worker

variable {t : Tracer} {s : Workshop}

theorem run_save (h : s.session.tracer.level = t.level) (parent : Nat) (file : File)
    (o : RunOptions) :
    (save t parent file o).run s =
      ({ s with workspace := s.workspace.saveAndTell parent file o }, ()) := by
  have hlevel : (s.workspace.save file o).1.session.tracer.level = t.level := by
    rw [Workspace.session_save]
    exact h
  unfold save Workspace.saveAndTell
  rw [Thread.run]
  generalize s.workspace.save file o = saved at hlevel
  obtain ⟨w, _ | failure⟩ := saved
  · rfl
  · exact run_point (by exact hlevel) ..

theorem run_body (h : s.session.tracer.level = t.level) (path : Bytes) (parent : Nat)
    (file : File) (o : RunOptions) :
    (body t path parent file o).run s =
      ({ s with workspace := (s.workspace.runInside parent file o).1 }.shown
          (phasesOf path (s.workspace.runInside parent file o).2.steps),
        (s.workspace.runInside parent file o).2) := by
  simp only [body, lookUp, Thread.run_bind, Thread.run_look, Workspace.runInside]
  cases s.workspace.cache.bind fun c => o.stored? (.ofCache c s.workspace.tree) file with
  | some p =>
    have hsteps : phasesOf path (RunResult.ofPayload file o p).steps = [] := rfl
    simp only [Thread.run_bind, run_point h, Thread.run_pure, hsteps, Workshop.shown_nil]
    rfl
  | none =>
    simp only [Thread.run_bind, run_passes h]
    rw [run_save (by simpa using h)]
    rfl

/-- **A worker that nobody disturbs** runs its file. -/
theorem run_runFile (h : s.session.tracer.level = t.level) (path : Bytes) (around : Nat)
    (file : File) (o : RunOptions) :
    (runFile t path around file o).run s =
      ({ s with workspace := (s.workspace.run around file o).1 }.shown
          (phasesOf path (s.workspace.run around file o).2.steps),
        (s.workspace.run around file o).2) := by
  have hbegun : (s.session.begin .file file.path around).1.tracer.level = t.level := by
    rw [Session.level_begin, h]
  simp only [runFile, Thread.run_bind, run_begin h, Workspace.run_eq]
  rw [run_body (by exact hbegun), run_finish]
  rfl

end Worker

/-- What the observer sees of a file of a batch. -/
def FileRun.phases (r : FileRun) : List (Bytes × Pass × Bool) :=
  match r.result with
  | some result => Worker.phasesOf r.path result.steps
  | none => []

/-! ### Workers one after the other -/

theorem Workspace.level_saveAndTell (w : Workspace) (parent : Nat) (file : File)
    (o : RunOptions) :
    (w.saveAndTell parent file o).session.tracer.level = w.session.tracer.level := by
  have hsession := w.session_save file o
  unfold saveAndTell
  generalize w.save file o = saved at hsession
  obtain ⟨w', _ | failure⟩ := saved
  · exact congrArg (fun s => s.tracer.level) hsession
  · exact (Session.level_point ..).trans (congrArg (fun s => s.tracer.level) hsession)

theorem Workspace.level_run (w : Workspace) (around : Nat) (file : File) (o : RunOptions) :
    (w.run around file o).1.session.tracer.level = w.session.tracer.level := by
  rw [run_eq]
  simp only [Session.level_finish]
  unfold runInside
  split
  · simp
  · simp [level_saveAndTell]

namespace Batch

variable {t : Tracer} {s : Workshop} (around : Nat) (fs : FileSet) (o : RunOptions)

theorem level_runOne (w : Workspace) (path : Bytes) (loaded : Except Storage.Failure Nat) :
    (runOne w around fs o path loaded).1.session.tracer.level = w.session.tracer.level := by
  unfold runOne
  split
  · rfl
  · split
    · rfl
    · exact w.level_run ..

theorem run_worker (h : s.session.tracer.level = t.level) (hgo : s.isCancelled = false)
    (path : Bytes) (loaded : Except Storage.Failure Nat) :
    (worker t around fs o path loaded).run s =
      ({ s with workspace := (runOne s.workspace around fs o path loaded).1 }.shown
          (runOne s.workspace around fs o path loaded).2.phases,
        some (runOne s.workspace around fs o path loaded).2) := by
  obtain ⟨w, seen, isCancelled⟩ := s
  obtain rfl : isCancelled = false := hgo
  simp only [worker, Thread.run_bind, Thread.run_look, Bool.false_eq_true, if_false]
  unfold runOne
  cases loaded with
  | error f => simp only [FileRun.phases, Workshop.shown_nil, Thread.run_pure]
  | ok id =>
    cases hfile : fs.get? id with
    | none => simp only [hfile, FileRun.phases, Workshop.shown_nil, Thread.run_pure]
    | some file =>
      simp only [hfile, Thread.run_bind, Thread.run_look, Bool.false_eq_true, if_false,
        Worker.run_runFile h]
      rfl

theorem run_worker_cancelled (hstop : s.isCancelled = true) (path : Bytes)
    (loaded : Except Storage.Failure Nat) :
    (worker t around fs o path loaded).run s = (s, none) := by
  simp [worker, hstop]

/-- Workers one after the other run the files one after the other. -/
theorem inOrder_workers (h : s.session.tracer.level = t.level) (hgo : s.isCancelled = false)
    (items : List (Bytes × Except Storage.Failure Nat)) :
    Crew.inOrder (items.map fun item => worker t around fs o item.1 item.2) s =
      ({ s with workspace := (runAll s.workspace around fs o items).1 }.shown
          ((runAll s.workspace around fs o items).2.flatMap FileRun.phases),
        (runAll s.workspace around fs o items).2.map some) := by
  induction items generalizing s with
  | nil => simp [Crew.inOrder, runAll]
  | cons item rest ih =>
    obtain ⟨path, loaded⟩ := item
    have hlevel := (level_runOne around fs o s.workspace path loaded).trans h
    rw [List.map_cons, Crew.inOrder, run_worker around fs o h hgo,
      ih (by exact hlevel) (by exact hgo)]
    simp only [runAll, List.flatMap_cons, List.map_cons, Workshop.shown, List.append_assoc]

theorem inOrder_workers_cancelled (t : Tracer) (hstop : s.isCancelled = true)
    (items : List (Bytes × Except Storage.Failure Nat)) :
    Crew.inOrder (items.map fun item => worker t around fs o item.1 item.2) s =
      (s, items.map fun _ => none) := by
  induction items with
  | nil => rfl
  | cons item rest ih =>
    rw [List.map_cons, Crew.inOrder, run_worker_cancelled around fs o hstop, ih]
    rfl

end Batch

namespace ScheduledBatch

theorem mapM_id_eq_some {answers : List (Option FileRun)} {runs : List FileRun} :
    answers.mapM id = some runs ↔ answers = runs.map some := by
  induction answers generalizing runs with
  | nil => cases runs <;> simp
  | cons a rest ih =>
    rw [List.mapM_cons]
    cases a with
    | none => cases runs <;> simp
    | some r => cases runs <;> simp [Option.bind_eq_some_iff, ih, and_comm]

/-- A batch has all its runs, or it was cancelled before one of its files ran. -/
theorem batch_cases (b : ScheduledBatch) :
    (∃ runs, b.answers = runs.map some ∧ b.batch = { files := b.files, runs }) ∨
      none ∈ b.answers ∧ b.batch = { files := b.files, failure := some cancelledMessage } := by
  unfold batch
  cases hall : b.answers.mapM id with
  | some runs => exact .inl ⟨runs, mapM_id_eq_some.mp hall, rfl⟩
  | none =>
    refine .inr ⟨?_, rfl⟩
    by_contra hnone
    have hsome : b.answers = (b.answers.filterMap id).map some := by
      rw [List.map_filterMap_some_eq_filter_map_isSome, List.map_id, List.filter_eq_self.mpr]
      intro a ha
      exact Option.isSome_iff_ne_none.mpr fun h => hnone (h ▸ ha)
    rw [mapM_id_eq_some.mpr hsome] at hall
    cases hall

theorem batch_of_none {b : ScheduledBatch} (h : none ∈ b.answers) :
    b.batch = { files := b.files, failure := some cancelledMessage } := by
  rcases b.batch_cases with ⟨runs, hruns, -⟩ | ⟨-, hbatch⟩
  · rw [hruns] at h
    simp at h
  · exact hbatch

end ScheduledBatch

namespace Workspace

variable (w : Workspace) (paths : List Bytes) (isCancelled : Bool) (o : RunOptions)

theorem runFilesBy_eq {schedule : List (Option Nat)} {s : Workshop}
    {answers : List (Option FileRun)} {past : List (Option Nat × Workshop × Workshop)}
    (h : (w.crew paths isCancelled o).run Workshop.cancel schedule =
      ⟨s, answers.map .done, past⟩) :
    w.runFilesBy paths isCancelled o schedule =
      some ⟨w.finishBatch paths s.workspace, (w.loadBatch paths).1, answers, s.seen, past⟩ := by
  have hdone := Crew.answers?_eq_some.mpr (congrArg Crew.threads h)
  rw [runFilesBy, hdone, h]
  rfl

/-- Every schedule can be gone on with until all workers are done. -/
theorem exists_runFilesBy (schedule : List (Option Nat)) :
    ∃ more b, w.runFilesBy paths isCancelled o (schedule ++ more) = some b := by
  obtain ⟨more, answers, hdone⟩ :=
    (w.crew paths isCancelled o).exists_finish Workshop.cancel schedule
  exact ⟨more, _, congrArg (Option.map _) hdone⟩

/-- **Workers one after the other** do what a batch does that runs its files one after the other. -/
theorem runFilesBy_inOrder :
    ∃ schedule b, w.runFilesBy paths isCancelled o schedule = some b ∧
      (b.workspace, b.batch) = w.runFiles paths isCancelled o ∧ b.seen = b.batch.phases := by
  obtain ⟨schedule, past, hrun⟩ := Crew.exists_inOrder Workshop.cancel []
    (w.crew paths isCancelled o).threads (w.crew paths isCancelled o).state []
  refine ⟨schedule, _, w.runFilesBy_eq paths isCancelled o hrun, ?_⟩
  have hlevel : (w.crew paths isCancelled o).state.session.tracer.level =
      w.session.tracer.level := Session.level_begin ..
  cases isCancelled with
  | false =>
    have horder : Crew.inOrder (w.crew paths false o).threads (w.crew paths false o).state = _ :=
      Batch.inOrder_workers w.beginBatch.2.id (w.loadBatch paths).1 o hlevel rfl
        (paths.zip (w.loadBatch paths).2)
    rw [horder, ScheduledBatch.batch, ScheduledBatch.mapM_id_eq_some.mpr rfl]
    exact ⟨rfl, List.nil_append _⟩
  | true =>
    have horder : Crew.inOrder (w.crew paths true o).threads (w.crew paths true o).state = _ :=
      Batch.inOrder_workers_cancelled w.beginBatch.2.id (w.loadBatch paths).1 o w.session.tracer rfl
        (paths.zip (w.loadBatch paths).2)
    rw [horder]
    cases paths with
    | nil => exact ⟨rfl, rfl⟩
    | cons path rest =>
      have hloaded := Batch.length_loadAll w.tree (FileSet.ofTree w.tree) (path :: rest)
      obtain ⟨first, more, hsome⟩ : ∃ first more, (w.loadBatch (path :: rest)).2 = first :: more :=
        List.exists_cons_of_length_eq_add_one hloaded
      -- there is a file, and it did not run
      have hnone : none ∈ ((path :: rest).zip (w.loadBatch (path :: rest)).2).map
          fun _ => (none : Option FileRun) := by
        simp [hsome]
      rw [ScheduledBatch.batch_of_none (by exact hnone)]
      exact ⟨rfl, rfl⟩

end Workspace

end TensorLang
