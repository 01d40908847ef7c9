import TensorLang.Proofs.Pipeline.Trails

/-!
# Spans of runs and batches

Every span that a run or a batch begins is ended, and whatever hangs on a span is told while it is
open, in every schedule of the workers, at every level of the tracer, and whatever the cache holds
(`Workspace.told_wellNested`). The passes of a file hang on the span of the file, and if the level
leaves out files, on the span of the batch.

In a batch, events may be told in another order than they are numbered. In a single run they are
told in order, without gaps (`Trace.Session.Counts`).
-/

namespace TensorLang

open Trace (Nesting OpenSpan Scope Session Tracer WellNested)
open Workshop (Trail)

/-! ### Numbers of events -/

namespace Trace.Session

/-- The second trace goes on from the first one: its events are numbered as they are told. -/
def Counts (s s' : Session) : Prop :=
  ∃ es, s'.told = s.told ++ es ∧ es.map Event.seq = List.range' (s.lastSeq + 1) es.length ∧
    s'.lastSeq = s.lastSeq + es.length

namespace Counts

variable {s s' s'' : Session}

theorem refl (s : Session) : s.Counts s := ⟨[], by simp, rfl, rfl⟩

theorem trans (h : s.Counts s') (h' : s'.Counts s'') : s.Counts s'' := by
  obtain ⟨es, htold, hseq, hlast⟩ := h
  obtain ⟨more, htold', hseq', hlast'⟩ := h'
  refine ⟨es ++ more, by rw [htold', htold, List.append_assoc], ?_, ?_⟩
  · have hstart : s'.lastSeq + 1 = s.lastSeq + 1 + es.length := by omega
    rw [List.map_append, hseq, hseq', hstart, List.length_append, List.range'_append_1]
  · rw [List.length_append]
    omega

theorem tell (s : Session) (e : Event) : s.Counts (s.tell e) := ⟨[_], rfl, rfl, rfl⟩

theorem begin (s : Session) (scope : Scope) (name : Bytes) (parent : Nat) :
    s.Counts (s.begin scope name parent).1 := by
  unfold Session.begin
  split
  · exact tell { s with lastSpan := s.lastSpan + 1 } _
  · exact refl s

theorem finish (s : Session) (span : OpenSpan) (detail : Bytes) :
    s.Counts (s.finish span detail) := by
  unfold Session.finish
  split
  · exact refl s
  · exact tell s _

theorem point (s : Session) (scope : Scope) (name detail : Bytes) (parent : Nat) :
    s.Counts (s.point scope name detail parent) := by
  unfold Session.point
  split
  · exact tell s _
  · exact refl s

theorem points (s : Session) (parent : Nat) (ps : List (Bytes × Bytes)) :
    s.Counts (ps.foldl (fun s p => s.point .node p.1 p.2 parent) s) := by
  induction ps generalizing s with
  | nil => exact refl s
  | cons p rest ih => exact (point s ..).trans (ih _)

theorem tellSteps (s : Session) (parent : Nat) (steps : List Step) :
    s.Counts (s.tellSteps parent steps) := by
  induction steps generalizing s with
  | nil => exact refl s
  | cons step rest ih =>
    refine Counts.trans ?_ (ih _)
    exact (begin s ..).trans ((points _ ..).trans (finish _ ..))

end Counts

end Trace.Session

namespace Workspace

theorem counts_saveAndTell (w : Workspace) (parent : Nat) (file : File) (o : RunOptions) :
    w.session.Counts (w.saveAndTell parent file o).session := by
  have hsession := w.session_save file o
  unfold saveAndTell
  generalize w.save file o = saved at hsession
  obtain ⟨w', _ | failure⟩ := saved
  · exact hsession ▸ .refl _
  · exact hsession ▸ .point ..

theorem counts_runInside (w : Workspace) (parent : Nat) (file : File) (o : RunOptions) :
    w.session.Counts (w.runInside parent file o).1.session := by
  unfold runInside
  split
  · exact .point ..
  · exact (Session.Counts.tellSteps ..).trans (counts_saveAndTell ..)

/-- A run tells its events in the order of their numbers. -/
theorem counts_run (w : Workspace) (around : Nat) (file : File) (o : RunOptions) :
    w.session.Counts (w.run around file o).1.session := by
  rw [run_eq]
  exact (Session.Counts.begin w.session .file file.path around).trans
    ((counts_runInside ..).trans (.finish ..))

/-! ### Runs -/

/-- What a run tells, in the terms of its worker. -/
theorem exists_fileTrace (w : Workspace) (around : Nat) (file : File) (o : RunOptions) :
    ∃ numbers es, (w.run around file o).1.session.told = w.session.told ++ es ∧
      numbers.Nodup ∧ Worker.FileTrace w.session.tracer around file.path numbers es := by
  obtain ⟨own, hends, hleads⟩ := Crew.exists_ends
    (Worker.runFile w.session.tracer [] around file o) { workspace := w } none
  obtain ⟨-, numbers, es, htrail, htrace⟩ := Worker.ends_runFile hends
  have hgrows : ∀ x ∈ own.map fun c => ((none : Option Nat), c), Workshop.Grows x.2 := by
    intro x hx
    obtain ⟨c, hc, rfl⟩ := List.mem_map.mp hx
    exact htrail.grows c hc
  obtain ⟨htold, -, -, hdrawn⟩ := hleads.trail hgrows
  have hrun := Worker.run_runFile (t := w.session.tracer) (s := { workspace := w }) rfl [] around
    file o
  have hown : own.map (Prod.snd ∘ fun c => ((none : Option Nat), c)) = own := List.map_id own
  rw [hrun, List.map_map, hown, htrail.told] at htold
  rw [hrun, List.map_map, hown, htrail.drawn] at hdrawn
  exact ⟨numbers, es, htold, hdrawn ▸ List.nodup_range', htrace⟩

end Workspace

/-! ### Batches -/

/-- A span that is told begins and ends. -/
theorem Trace.Session.exists_span {s : Session} {scope : Scope} (h : s.tracer.isActive scope = true)
    (name : Bytes) (parent : Nat) :
    ∃ b : Event, b.id = s.lastSpan + 1 ∧ b.scope = scope ∧ b.parent = parent ∧
      (s.begin scope name parent).1.told = s.told ++ [b] ∧
      (s.begin scope name parent).1.lastSpan = s.lastSpan + 1 ∧
      (s.begin scope name parent).2.id = s.lastSpan + 1 ∧
      ∀ (s' : Session) (key value detail : Bytes), ∃ f : Event, b.Closes f ∧
        f.id = s.lastSpan + 1 ∧
        (s'.finish ((s.begin scope name parent).2.withField key value) detail).told =
          s'.told ++ [f] := by
  rw [begin, if_pos h]
  refine ⟨_, rfl, rfl, rfl, rfl, rfl, rfl, fun s' key value detail => ⟨_, ?_, ?_, rfl⟩⟩
  · exact ⟨rfl, rfl, rfl, rfl, rfl⟩
  · rfl

/-- What the workers of a batch told, each event with the place of the worker among the paths. -/
def ScheduledBatch.told (b : ScheduledBatch) : List (Option Nat × Trace.Event) :=
  Crew.tagged Workshop.told b.past

namespace Ran

variable {w : Workspace} {paths : List Bytes} {o : RunOptions} {b : ScheduledBatch}
  {s s' : Workshop}

/-- What a worker tells, and the numbers that it draws. -/
theorem fileTrace (h : Ran w paths o b s s') (i : Nat) :
    Worker.FileTrace w.session.tracer w.beginBatch.2.id (Path.clean (paths[i]?.getD []))
      (Crew.byThread i (Crew.tagged Workshop.drawn b.past)) (Crew.byThread i b.told) := by
  obtain ⟨numbers, events, htrail, htrace⟩ := h.trail i
  rw [ScheduledBatch.told, Crew.byThread_tagged, Crew.byThread_tagged, htrail.drawn, htrail.told]
  exact htrace

/-- **The workers' spans are nested** in every schedule. -/
theorem nesting (h : Ran w paths o b s s') :
    ∃ numbers, (∀ id ∈ numbers, w.beginBatch.1.lastSpan < id) ∧
      s'.session.told = w.beginBatch.1.told ++ b.told.map Prod.snd ∧
      Nesting [w.beginBatch.2.id] numbers (b.told.map Prod.snd) := by
  obtain ⟨htold, -, -, hdrawn⟩ := h.leads.trail h.grows
  have hsession : s.session = w.beginBatch.1 := congrArg Workspace.session h.start
  rw [← Crew.map_snd_tagged, hsession] at htold hdrawn
  have hnodup : ((Crew.tagged Workshop.drawn b.past).map Prod.snd).Nodup :=
    hdrawn ▸ List.nodup_range'
  refine ⟨_, fun id hid => ?_, htold, Nesting.merge (fun i => ?_) hnodup (fun x => ?_) fun x => ?_⟩
  · rw [hdrawn, List.mem_range'_1] at hid
    omega
  · exact (h.fileTrace i).nested (Crew.nodup_byThread hnodup i)
  · exact h.exists_worker Workshop.drawn Workshop.drawn_cancel
  · exact h.exists_worker Workshop.told Workshop.told_cancel

end Ran

namespace Workspace

/-- The span of a batch is told around everything else. -/
theorem exists_batchTrace {w : Workspace} {paths : List Bytes} {isCancelled : Bool}
    {o : RunOptions} {schedule : List (Option Nat)} {b : ScheduledBatch}
    (h : w.runFilesBy paths isCancelled o schedule = some b) :
    ∃ es, b.workspace.session.told = w.session.told ++ es ∧ WellNested es ∧
      ∀ e ∈ es, e ∈ b.told.map Prod.snd ∨ e.scope = .driver := by
  obtain ⟨s, s', hran⟩ := exists_ran h
  obtain ⟨numbers, hfresh, htold, hnested⟩ := hran.nesting
  rw [hran.workspace, finishBatch]
  by_cases hactive : w.session.tracer.isActive .driver = true
  · obtain ⟨first, hid, hscope, hparent, hfirst, hlast, hspan, hend⟩ :=
      Session.exists_span hactive "run files".utf8 0
    obtain ⟨last, hcloses, hid', hlasttold⟩ :=
      hend s'.session "files".utf8 (Decimal.ofNat paths.length) []
    rw [beginBatch, hlast] at hfresh
    rw [beginBatch, hfirst, List.append_assoc] at htold
    rw [beginBatch, hspan] at hnested
    have hstack : [w.session.lastSpan + 1] ⊆ (w.session.lastSpan + 1) :: [0] := by simp
    have hfree : w.session.lastSpan + 1 ∉ numbers := fun hin => Nat.lt_irrefl _ (hfresh _ hin)
    have hnested := (hnested.mono hstack).span (Nat.succ_ne_zero _) hfree hid hid' hcloses
      (List.mem_singleton.mpr hparent)
    refine ⟨_, ?_, hnested.wellNested, fun e he => ?_⟩
    · rw [show s'.workspace.session = s'.session from rfl, beginBatch, hlasttold, htold]
      simp
    · simp only [List.cons_append, List.mem_cons, List.mem_append, List.not_mem_nil,
        or_false] at he
      rcases he with rfl | he | rfl
      · exact .inr hscope
      · exact .inl he
      · exact .inr (hcloses.scope.trans hscope)
  · have hbegin : w.beginBatch = (w.session, {}) := by
      rw [beginBatch, Session.begin, if_neg hactive]
    rw [hbegin] at htold hnested ⊢
    exact ⟨b.told.map Prod.snd, htold, hnested.wellNested, fun e he => .inl he⟩

/-- **Spans are well nested**, and passes hang on the span of their file or, if files are left out,
on the span around. This holds for a run on its own, whose events are also numbered without gaps as
they are told, and for a batch in every schedule. -/
theorem told_wellNested (w : Workspace) (o : RunOptions) :
    (∀ file : File, ∃ es, (w.run 0 file o).1.session.told = w.session.told ++ es ∧
      WellNested es ∧
      es.map Trace.Event.seq = List.range' (w.session.lastSeq + 1) es.length ∧
      ∀ e ∈ es, e.scope = .pass →
        if w.session.tracer.isActive .file then
          ∃ f ∈ es, f.kind = .spanBegin ∧ f.scope = .file ∧ f.name = file.path ∧ f.id = e.parent
        else e.parent = 0) ∧
    (∀ paths isCancelled schedule b, w.runFilesBy paths isCancelled o schedule = some b →
      ∃ es, b.workspace.session.told = w.session.told ++ es ∧ WellNested es ∧
        (∀ e ∈ es, e.scope = .pass → ∃ i, (some i, e) ∈ b.told) ∧
        ∀ i e, (some i, e) ∈ b.told → e.scope = .pass → ∃ path, paths[i]? = some path ∧
          if w.session.tracer.isActive .file then
            ∃ f, (some i, f) ∈ b.told ∧ f.kind = .spanBegin ∧ f.scope = .file ∧
              f.name = Path.clean path ∧ f.id = e.parent
          else e.parent = w.beginBatch.2.id) ∧
    ∀ paths isCancelled, ∃ schedule b, w.runFilesBy paths isCancelled o schedule = some b ∧
      (b.workspace, b.batch) = w.runFiles paths isCancelled o := by
  refine ⟨fun file => ?_, fun paths isCancelled schedule b hrun => ?_,
    fun paths isCancelled => ?_⟩
  · obtain ⟨numbers, es, htold, hnodup, htrace⟩ := w.exists_fileTrace 0 file o
    obtain ⟨es', htold', hseq, -⟩ := w.counts_run 0 file o
    obtain rfl : es = es' := List.append_cancel_left (htold.symm.trans htold')
    exact ⟨es, htold, (htrace.nested hnodup).wellNested, hseq, htrace.passes⟩
  · obtain ⟨s, s', hran⟩ := exists_ran hrun
    obtain ⟨es, htold, hnested, hworkers⟩ := exists_batchTrace hrun
    refine ⟨es, htold, hnested, fun e he hpass => ?_, fun i e he hpass => ?_⟩
    · rcases hworkers e he with he | hdriver
      · obtain ⟨⟨who, e⟩, hx, rfl⟩ := List.mem_map.mp he
        obtain ⟨i, rfl⟩ := hran.exists_worker Workshop.told Workshop.told_cancel hx
        exact ⟨i, hx⟩
      · rw [hdriver] at hpass
        cases hpass
    · obtain ⟨y, hy, hwho, -⟩ := Crew.mem_tagged.mp he
      have hi := hran.inside y hy i hwho
      have hpath := List.getElem?_eq_getElem hi
      have hpasses := (hran.fileTrace i).passes e (Crew.mem_byThread.mpr he) hpass
      rw [hpath] at hpasses
      refine ⟨paths[i], hpath, ?_⟩
      split_ifs at hpasses ⊢
      · obtain ⟨f, hf, hspan⟩ := hpasses
        exact ⟨f, Crew.mem_byThread.mp hf, hspan⟩
      · exact hpasses
  · obtain ⟨schedule, b, hrun, hbatch, -⟩ := w.runFilesBy_inOrder paths isCancelled o
    exact ⟨schedule, b, hrun, hbatch⟩

/-- Two files and a tracer that tells everything. -/
private def tracedFiles : Workspace where
  tree := { entries := [(["a.tsa".utf8], .file "a;".utf8), (["b.tsa".utf8], .file "b;".utf8)] }
  session := { tracer := { level := .debug } }

/-- Two workers that take turns tell events in turns, and their spans are well nested. -/
theorem told_wellNested_turns :
    ∃ b, tracedFiles.runFilesBy ["a.tsa".utf8, "b.tsa".utf8] false {}
        ((List.range 200).map fun n => some (n % 2)) = some b ∧
      (b.told.map Prod.fst).take 2 = [some 0, some 1] ∧ WellNested b.workspace.session.told := by
  have hrun : (tracedFiles.runFilesBy ["a.tsa".utf8, "b.tsa".utf8] false {}
      ((List.range 200).map fun n => some (n % 2))).map
        (fun b => (b.told.map Prod.fst).take 2) = some [some 0, some 1] := by
    decide +kernel
  obtain ⟨b, hb, hturns⟩ := Option.map_eq_some_iff.mp hrun
  obtain ⟨es, htold, hnested, -⟩ := (told_wellNested tracedFiles {}).2.1 _ _ _ b hb
  exact ⟨b, hb, hturns, htold ▸ hnested⟩

end Workspace

end TensorLang
