import TensorLang.Proofs.Build.Writes
import TensorLang.Proofs.Pipeline.Trails

/-!
# The progress of a build

A build tells its progress while its files run at the same time, so the events of different files
may come in any order. The events of one file do not (`Workspace.buildBy_progress`): it is queued,
works its way through the first of the stages, is written if there is something to write and the
build comes to that, and is done or has failed. A build that succeeds says so at its end, and only
there it speaks of itself.

A request without an output directory is refused before anything is told
(`Workspace.build_refused`).
-/

namespace TensorLang

open Storage (Tree)
open Workshop (Trail)

namespace Build

/-! ### Builds by a schedule -/

namespace Request

theorem writeEach_const (q : Request) (write : Writer) :
    q.writeEach (fun _ => write) = q.writeAll write := by
  funext t runs
  induction runs generalizing t with
  | nil => rfl
  | cons r rest ih => simp only [writeEach, writeAll, ih]

end Request

end Build

/-- **A build that runs its files one after the other** follows one of the schedules. -/
theorem Workspace.buildBy_inOrder (w : Workspace) (q : Build.Request) (write : Build.Writer) :
    ∃ schedule, w.buildBy q schedule (fun _ => write) = w.buildWith write q := by
  obtain ⟨schedule, b, hrun, hbatch, hseen⟩ :=
    w.runFilesBy_inOrder q.files q.isCancelled q.runOptions
  refine ⟨schedule, ?_⟩
  unfold buildBy buildWith
  split
  · rfl
  · have hfiles : w.runFiles q.files q.isCancelled q.runOptions = (b.workspace, b.batch) :=
      hbatch.symm
    rw [hrun, hfiles, Option.bind_eq_bind, Option.bind_some, hseen, Build.Request.writeEach_const]

/-! ### The passes of a file -/

theorem Outcome.passes_generate (made : Outcome) (t : Target) (p : Program) :
    (made.generate t p).steps.map Step.pass = made.steps.map Step.pass ++ [.generate] ∨
      (made.generate t p).steps.map Step.pass =
        made.steps.map Step.pass ++ [.generate, .print] := by
  unfold generate
  split
  · exact .inl (List.map_append ..)
  · simp only
    split
    · exact .inl (List.map_append ..)
    · unfold print
      split <;> simp

/-- The passes over a file are the first of all passes. -/
theorem passes_compileFile (file : File) (o : RunOptions) :
    (compileFile file o).steps.map Step.pass <+: [.parse, .check, .generate, .print] := by
  have hparsed : (Outcome.parse file o.maxDiagnostics).steps.map Step.pass = [.parse] := by
    unfold Outcome.parse
    split <;> rfl
  rw [compileFile_eq]
  change (runPasses file o).steps.map Step.pass <+: _
  cases hp : Program.parse file.id file.content with
  | error e =>
    rw [runPasses_of_error hp, hparsed]
    decide
  | ok p =>
    have hchecked : ((Outcome.parse file o.maxDiagnostics).check p).steps.map Step.pass =
        [.parse, .check] := by
      simp [Outcome.check, hparsed]
    rw [runPasses_of_ok hp]
    cases o.goal with
    | parse =>
      simp only [hparsed]
      decide
    | check =>
      simp only [hchecked]
      decide
    | generate =>
      rcases Outcome.passes_generate ((Outcome.parse file o.maxDiagnostics).check p) o.target p
        with hpasses | hpasses <;> simp only [hpasses, hchecked] <;> decide

namespace Build

/-! ### Events of one file -/

/-- The events of a file. -/
def Report.about (r : Report) (path : Bytes) : List Event :=
  r.events.filter fun e => e.file = path

/-- If there is one event for each file, then one is about a given file. -/
theorem filter_map_file {files : List Bytes} {path : Bytes} (hdistinct : files.Nodup)
    (hpath : path ∈ files) {f : Bytes → Event} (hf : ∀ file, (f file).file = file) :
    (files.map f).filter (fun e => e.file = path) = [f path] := by
  rw [List.filter_map]
  have hsame : (fun e : Event => decide (e.file = path)) ∘ f =
      fun file => decide (file = path) := by
    funext file
    simp [hf]
  rw [hsame, List.filter_eq, List.count_eq_one_of_mem hdistinct hpath]
  rfl

theorem filter_workOf (seen : List (Bytes × Pass × Bool)) (path : Bytes) :
    (workOf seen).filter (fun e => e.file = path) = workOf (seen.filter fun x => x.1 = path) := by
  unfold workOf
  induction seen with
  | nil => rfl
  | cons x rest ih =>
    obtain ⟨file, pass, isEnd⟩ := x
    by_cases hfile : file = path <;> cases isEnd <;> simp [hfile, ih]

theorem workOf_phasesOf (path : Bytes) (steps : List Step) :
    workOf (Worker.phasesOf path steps) = (steps.map fun s => Stage.ofPass s.pass).map fun stage =>
      { file := path, stage, status := .working } := by
  induction steps with
  | nil => rfl
  | cons step rest ih =>
    exact congrArg ({ file := path, stage := .ofPass step.pass, status := .working } :: ·) ih

/-- The event with which a file is done or has failed. -/
def FileOutput.lastEvent (f : FileOutput) : Event :=
  if f.hasFailed then
    { file := f.path, stage := .write, status := .error
      failure := some (f.path ++ " has errors".utf8) }
  else { file := f.path, stage := .write, status := .done }

theorem FileOutput.lastEvent_spec (f : FileOutput) :
    f.lastEvent.file = f.path ∧ f.lastEvent.status.isFinished = true := by
  unfold lastEvent
  split <;> exact ⟨rfl, rfl⟩

/-- What a build tells about the writing of a file. -/
def writeEvents (r : FileRun) : List Event :=
  if (textOf r).isSome then [{ file := r.path, stage := .write, status := .working }] else []

/-- A file is written if it has an output, and then it is done or has failed. -/
theorem events_writeOne {q : Request} {write : Writer} {t t' : Tree} {r : FileRun} {f : FileOutput}
    {es : List Event} (h : q.writeOne write t r = some (t', f, es)) :
    f.path = r.path ∧ es = writeEvents r ++ [f.lastEvent] := by
  obtain ⟨path, id, result, bag⟩ := r
  unfold Request.writeOne at h
  unfold writeEvents textOf
  cases result with
  | none =>
    obtain ⟨rfl, rfl, rfl⟩ := h
    exact ⟨rfl, rfl⟩
  | some result =>
    cases htext : result.output with
    | none =>
      simp only [Option.bind_some, htext, Option.map_none] at h
      obtain ⟨rfl, rfl, rfl⟩ := h
      exact ⟨rfl, by simp [htext, FileOutput.lastEvent]⟩
    | some text =>
      simp only [Option.bind_some, htext, Option.map_some] at h
      split at h
      · obtain ⟨rfl, rfl, rfl⟩ := h
        exact ⟨rfl, by simp [htext, FileOutput.lastEvent]⟩
      · split at h
        · cases h
        · obtain ⟨rfl, rfl, rfl⟩ := h
          exact ⟨rfl, by simp [htext, FileOutput.lastEvent]⟩

theorem file_of_mem_writeEvents {r : FileRun} {e : Event} (h : e ∈ writeEvents r) :
    e.file = r.path := by
  unfold writeEvents at h
  split_ifs at h
  · rw [List.mem_singleton.mp h]
  · cases h

/-- **Writing tells about each file** what there is to tell about it, and of nothing else. -/
theorem events_writeEach {q : Request} {write : Nat → Writer} {t t' : Tree} {runs : List FileRun}
    {fs : List FileOutput} {es : List Event} (h : q.writeEach write t runs = some (t', fs, es)) :
    fs.map FileOutput.path = runs.map FileRun.path ∧
      (∀ e ∈ es, e.file ∈ runs.map FileRun.path) ∧
      ((runs.map FileRun.path).Nodup → ∀ (i : Nat) (r : FileRun), runs[i]? = some r →
        ∃ f, fs[i]? = some f ∧
          es.filter (fun e => e.file = r.path) = writeEvents r ++ [f.lastEvent]) := by
  induction runs generalizing write t fs es with
  | nil =>
    obtain ⟨rfl, rfl, rfl⟩ := h
    exact ⟨rfl, nofun, nofun⟩
  | cons first rest ih =>
    rw [Request.writeEach] at h
    obtain ⟨⟨t₁, f, es₁⟩, hone, h⟩ := Option.bind_eq_some_iff.mp h
    obtain ⟨⟨t₂, fs₂, es₂⟩, hmore, h⟩ := Option.bind_eq_some_iff.mp h
    obtain ⟨rfl, rfl, rfl⟩ := h
    obtain ⟨hpath, rfl⟩ := events_writeOne hone
    obtain ⟨hpaths, hfiles, hall⟩ := ih hmore
    have hfirst : ∀ e ∈ writeEvents first ++ [f.lastEvent], e.file = first.path := by
      intro e he
      rcases List.mem_append.mp he with he | he
      · exact file_of_mem_writeEvents he
      · rw [List.mem_singleton.mp he, f.lastEvent_spec.1, hpath]
    refine ⟨by rw [List.map_cons, List.map_cons, hpath, hpaths], fun e he => ?_,
      fun hdistinct i r hr => ?_⟩
    · rcases List.mem_append.mp he with he | he
      · exact hfirst e he ▸ List.mem_cons_self
      · exact List.mem_cons_of_mem _ (hfiles e he)
    · rw [List.map_cons, List.nodup_cons] at hdistinct
      rw [List.filter_append]
      cases i with
      | zero =>
        obtain rfl := Option.some.inj hr
        -- all that is told first is about the first file, and nothing else is
        have hnone : es₂.filter (fun e => e.file = first.path) = [] :=
          List.filter_eq_nil_iff.mpr fun e he hsame =>
            hdistinct.1 (of_decide_eq_true hsame ▸ hfiles e he)
        have hself : (writeEvents first ++ [f.lastEvent]).filter (fun e => e.file = first.path) =
            writeEvents first ++ [f.lastEvent] :=
          List.filter_eq_self.mpr fun e he => decide_eq_true (hfirst e he)
        rw [hnone, hself, List.append_nil]
        exact ⟨f, rfl, rfl⟩
      | succ i =>
        have hnone :
            (writeEvents first ++ [f.lastEvent]).filter (fun e => e.file = r.path) = [] := by
          refine List.filter_eq_nil_iff.mpr fun e he hsame => hdistinct.1 ?_
          rw [← hfirst e he, of_decide_eq_true hsame]
          exact List.mem_map_of_mem (List.mem_of_getElem? hr)
        rw [hnone, List.nil_append]
        exact hall hdistinct.2 i r hr

end Build

/-! ### What the observer sees of one file -/

namespace Ran

variable {w : Workspace} {paths : List Bytes} {o : RunOptions} {b : ScheduledBatch}
  {s s' : Workshop}

/-- What the workers show to the observer. -/
theorem byThread_observed (h : Ran w paths o b s s') {i : Nat} {path : Bytes}
    (hpath : paths[i]? = some path) :
    ∃ a, b.answers[i]? = some a ∧
      Crew.byThread i (Crew.tagged Workshop.observed b.past) = phasesOfAnswer a ∧
      ∀ x ∈ phasesOfAnswer a, x.1 = path := by
  obtain ⟨loaded, a, -, ha, hends⟩ := h.ends i path hpath
  obtain ⟨⟨numbers, events, htrail, -⟩, hanswer⟩ := Batch.ends_worker hends
  refine ⟨a, ha, by rw [Crew.byThread_tagged, htrail.observed], fun x hx => ?_⟩
  cases a with
  | none => cases hx
  | some r =>
    rw [← (hanswer r rfl).1]
    have hx : x ∈ r.phases := hx
    unfold FileRun.phases at hx
    split at hx
    · obtain ⟨p, -, rfl⟩ := List.mem_map.mp hx
      rfl
    · cases hx

/-- **In every schedule the observer sees the passes of a file in order.** -/
theorem filter_seen (h : Ran w paths o b s s') (hdistinct : paths.Nodup) {i : Nat} {path : Bytes}
    (hpath : paths[i]? = some path) :
    ∃ a, b.answers[i]? = some a ∧ b.seen.filter (fun x => x.1 = path) = phasesOfAnswer a := by
  obtain ⟨a, ha, hown, hmine⟩ := h.byThread_observed hpath
  obtain ⟨-, hseen, -, -⟩ := h.leads.trail h.grows
  refine ⟨a, ha, ?_⟩
  rw [h.seen, hseen, h.unseen, List.nil_append, ← Crew.map_snd_tagged, Crew.filter_map_snd, hown,
    List.filter_eq_self.mpr fun x hx => decide_eq_true (hmine x hx)]
  rintro ⟨who, x⟩ hx hwho
  obtain ⟨j, rfl⟩ := h.exists_worker Workshop.observed Workshop.observed_cancel hx
  obtain ⟨y, hy, hj, -⟩ := Crew.mem_tagged.mp hx
  have hlt := h.inside y hy j hj
  obtain ⟨a', -, hown', hother⟩ := h.byThread_observed (List.getElem?_eq_getElem hlt)
  have hpath' := hother x (hown' ▸ Crew.mem_byThread.mpr hx)
  refine decide_eq_false fun hsame => hwho ?_
  have hfound : paths[j]? = paths[i]? := by
    rw [hpath, List.getElem?_eq_getElem hlt, ← hpath', hsame]
  exact congrArg some ((List.getElem?_inj hlt hdistinct).mp hfound)

/-- If all files have run, there is one run for each path. -/
theorem paths_of_runs (h : Ran w paths o b s s') {runs : List FileRun}
    (hruns : b.answers = runs.map some) : runs.map FileRun.path = paths := by
  have hlength : runs.length = paths.length := by
    rw [← h.length, hruns, List.length_map]
  refine List.ext_getElem? fun i => ?_
  cases hpath : paths[i]? with
  | none =>
    rw [List.getElem?_eq_none_iff] at hpath ⊢
    rw [List.length_map]
    omega
  | some path =>
    obtain ⟨loaded, a, -, ha, hends⟩ := h.ends i path hpath
    rw [hruns, List.getElem?_map, Option.map_eq_some_iff] at ha
    obtain ⟨r, hr, rfl⟩ := ha
    rw [List.getElem?_map, hr, Option.map_some, ((Batch.ends_worker hends).2 r rfl).1]

end Ran

/-! ### Builds -/

namespace Build

/-- A build that does not stop gives the outputs that it has closed. -/
theorem Request.conclude_of_success {q : Request} {write : Nat → Writer}
    {seen : List (Bytes × Pass × Bool)} {w w' : Workspace} {b : Batch} {report : Report}
    (h : q.conclude (q.writeEach write) seen w b = some (w', report))
    (hsuccess : report.failure = none) :
    b.failure = none ∧ ∃ t t' es, q.writeEach write t b.runs = some (t', report.files, es) ∧
      report.events = queuedEvents q.files ++ workOf seen ++ es ++ [doneEvent] := by
  unfold conclude at h
  split at h
  · obtain ⟨rfl, rfl⟩ := Prod.mk.inj (Option.some.inj h)
    cases hsuccess
  · rename_i hfailure
    split at h
    · obtain ⟨rfl, rfl⟩ := Prod.mk.inj (Option.some.inj h)
      cases hsuccess
    · obtain ⟨⟨t', fs, es⟩, hwrite, h⟩ := Option.bind_eq_some_iff.mp h
      obtain ⟨rfl, rfl⟩ := Prod.mk.inj (Option.some.inj h)
      exact ⟨hfailure, _, t', es, hwrite, rfl⟩

/-- The stages that a file works its way through. -/
def stagesOf (answer : Option FileRun) : List Stage :=
  match answer.bind FileRun.result with
  | some result => result.steps.map fun s => Stage.ofPass s.pass
  | none => []

theorem workOf_phasesOfAnswer (a : Option FileRun) {path : Bytes}
    (h : ∀ r, a = some r → r.path = path) :
    workOf (phasesOfAnswer a) =
      (stagesOf a).map fun stage => { file := path, stage, status := .working } := by
  cases a with
  | none => rfl
  | some r =>
    obtain rfl := h r rfl
    unfold phasesOfAnswer FileRun.phases stagesOf
    cases hresult : r.result with
    | none => simp [hresult, workOf]
    | some result => simpa [hresult] using workOf_phasesOf r.path result.steps

/-- Was the result taken from the cache? -/
def isCached (answer : Option FileRun) : Bool :=
  (answer.bind FileRun.result).any RunResult.isCached

/-- The stages of a file are the first of all stages; there are none for a file that cannot be read
or whose result is in the cache. -/
theorem stagesOf_spec {w : Workspace} {paths : List Bytes} {o : RunOptions} {b : ScheduledBatch}
    {s s' : Workshop} (h : Ran w paths o b s s') {i : Nat} {path : Bytes} {a : Option FileRun}
    (hpath : paths[i]? = some path) (ha : b.answers[i]? = some a) :
    stagesOf a <+: [.parse, .check, .generate, .print] ∧
      (w.tree.canRead path = false ∨ isCached a = true → stagesOf a = []) ∧
      ∀ r, a = some r → r.path = path := by
  obtain ⟨loaded, a', hloaded, ha', hends⟩ := h.ends i path hpath
  obtain rfl : a = a' := Option.some.inj (ha.symm.trans ha')
  have hanswer := (Batch.ends_worker hends).2
  refine ⟨?_, fun hnone => ?_, fun r hr => (hanswer r hr).1⟩
  · unfold stagesOf
    cases hresult : a.bind FileRun.result with
    | none => exact List.nil_prefix
    | some result =>
      obtain ⟨r, rfl, hr⟩ := Option.bind_eq_some_iff.mp hresult
      obtain ⟨-, id, file, -, -, ⟨p, rfl⟩ | rfl⟩ := (hanswer r rfl).2 result hr
      · exact List.nil_prefix
      · have hstages := (passes_compileFile file o).map Stage.ofPass
        rwa [List.map_map] at hstages
  · unfold stagesOf
    cases hresult : a.bind FileRun.result with
    | none => rfl
    | some result =>
      obtain ⟨r, rfl, hr⟩ := Option.bind_eq_some_iff.mp hresult
      obtain ⟨-, id, file, rfl, -, ⟨p, rfl⟩ | rfl⟩ := (hanswer r rfl).2 result hr
      · rfl
      · rcases hnone with hread | hcached
        · cases hcontent : w.tree.read path with
          | ok content =>
            rw [Tree.canRead, hcontent] at hread
            cases hread
          | error f =>
            have herror := Batch.loadAll_of_error (FileSet.ofTree w.tree) hpath hcontent
            cases hloaded.symm.trans herror
        · rw [isCached, hresult] at hcached
          cases hcached

/-- The events of a file in their order: it waits, works its way through stages, is written if that
is so, and comes to an end. -/
def fileEvents (path : Bytes) (stages : List Stage) (isWritten : Bool) (last : Event) :
    List Event :=
  { file := path, stage := .parse, status := .queued } ::
    (stages.map fun stage => { file := path, stage, status := .working }) ++
    (if isWritten then [{ file := path, stage := .write, status := .working }] else []) ++ [last]

/-- What is told before the files have run. -/
theorem filter_before {w : Workspace} {q : Request} {o : RunOptions} {b : ScheduledBatch}
    {s s' : Workshop} (h : Ran w q.files o b s s') (hdistinct : q.files.Nodup) {i : Nat}
    {path : Bytes} (hpath : q.files[i]? = some path) :
    ∃ a, b.answers[i]? = some a ∧
      (queuedEvents q.files ++ workOf b.seen).filter (fun e => e.file = path) =
        { file := path, stage := .parse, status := .queued } ::
          (stagesOf a).map fun stage => { file := path, stage, status := .working } := by
  obtain ⟨a, ha, hseen⟩ := h.filter_seen hdistinct hpath
  obtain ⟨-, -, hown⟩ := stagesOf_spec h hpath ha
  have hqueued : (queuedEvents q.files).filter (fun e => e.file = path) =
      [{ file := path, stage := .parse, status := .queued }] :=
    filter_map_file hdistinct (List.mem_of_getElem? hpath) fun _ => rfl
  refine ⟨a, ha, ?_⟩
  rw [List.filter_append, hqueued, filter_workOf, hseen, workOf_phasesOfAnswer a hown]
  rfl

section

variable {w w' : Workspace} {q : Request} {o : RunOptions} {b : ScheduledBatch} {s s' : Workshop}
  {write : Nat → Writer} {report : Report}

/-- A build that goes through tells how each file was written, up to the event with which its
output was closed. -/
theorem exists_output_about (h : Ran w q.files o b s s') (hdistinct : q.files.Nodup)
    (hnamed : [] ∉ q.files) (hbatch : b.batch.failure = none) (hfailure : report.failure = none)
    {t t' : Tree} {fs : List FileOutput} {es : List Event}
    (hwrite : q.writeEach write t b.batch.runs = some (t', fs, es))
    (hevents : report.events = queuedEvents q.files ++ workOf b.seen ++ es ++ [doneEvent])
    {i : Nat} {path : Bytes} (hpath : q.files[i]? = some path) :
    ∃ a f, b.answers[i]? = some a ∧ fs[i]? = some f ∧ f.path = path ∧
      report.about path = fileEvents path (stagesOf a)
        (report.failure.isNone && (a.bind textOf).isSome) f.lastEvent := by
  obtain ⟨a, ha, hbefore⟩ := filter_before h hdistinct hpath
  have hmem : path ∈ q.files := List.mem_of_getElem? hpath
  rcases b.batch_cases with ⟨runs, hruns, hbatch'⟩ | ⟨-, hbatch'⟩
  · rw [hbatch'] at hwrite
    have hpaths := h.paths_of_runs hruns
    obtain ⟨r, hr, rfl⟩ : ∃ r, runs[i]? = some r ∧ some r = a := by
      rw [hruns, List.getElem?_map, Option.map_eq_some_iff] at ha
      exact ha
    obtain rfl : r.path = path := by
      have hsame := congrArg (fun paths => paths[i]?) hpaths
      simp only [List.getElem?_map, hr, Option.map_some] at hsame
      exact Option.some.inj (hsame.trans hpath)
    obtain ⟨hfiles, -, heach⟩ := events_writeEach hwrite
    obtain ⟨f, hf, hown⟩ := heach (hpaths ▸ hdistinct) i r hr
    refine ⟨some r, f, ha, hf, ?_, ?_⟩
    · have hsame := congrArg (fun paths => paths[i]?) hfiles
      simp only [List.getElem?_map, hf, hr, Option.map_some] at hsame
      exact Option.some.inj hsame
    · have hother : [doneEvent].filter (fun e => e.file = r.path) = [] := by
        have hne : [] ≠ r.path := fun hsame => hnamed (hsame ▸ hmem)
        simp [doneEvent, hne]
      rw [Report.about, hevents, List.filter_append, List.filter_append, hbefore, hown, hother,
        hfailure]
      simp [fileEvents, writeEvents]
  · rw [hbatch'] at hbatch
    cases hbatch

end

end Build

end TensorLang
