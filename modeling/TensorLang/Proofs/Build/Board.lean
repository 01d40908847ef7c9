import Mathlib.Algebra.Order.BigOperators.Group.List
import Mathlib.Algebra.Order.Field.Basic
import Mathlib.Algebra.Order.Field.Rat
import TensorLang.Build.Board
import TensorLang.Proofs.Build.Progress

/-!
# What the board shows of a build

A board that is made for the files of a build and takes in its events never goes back, and once the
build has succeeded it is full (`Workspace.buildBy_board`). That holds for every schedule of the
files, and for any other order of the events in which those of each file stay in order.

The row of a file is what the last event about it says (`Board.rows_foldl_apply`), so the share of
a file depends on its own events only. They go forward (`Build.pairwise_fileEvents`): a file is
queued, enters one stage behind the other, and ends.
-/

namespace TensorLang

namespace Build

/-! ### Rows -/

/-- The row that an event leaves behind. -/
def Event.row (e : Event) : Row := ⟨e.file, e.stage, e.status, e.failure⟩

/-- The row of a file after an event, which may be about another file. -/
def Row.take (r : Row) (e : Event) : Row := if e.file = r.path then e.row else r

@[simp]
theorem Row.path_take (r : Row) (e : Event) : (r.take e).path = r.path := by
  unfold take
  split_ifs with h
  · exact h
  · rfl

theorem Row.path_foldl_take (r : Row) (es : List Event) : (es.foldl take r).path = r.path := by
  induction es generalizing r with
  | nil => rfl
  | cons e rest ih => rw [List.foldl_cons, ih, path_take]

/-- A row is what the last event about its file says. -/
theorem Row.foldl_take (r : Row) (es : List Event) :
    es.foldl take r =
      (((es.filter fun e => e.file = r.path).getLast?).map Event.row).getD r := by
  induction es using List.reverseRecOn with
  | nil => rfl
  | append_singleton es e ih =>
    rw [List.foldl_append, List.foldl_cons, List.foldl_nil, take, path_foldl_take,
      List.filter_append]
    split_ifs with h
    · simp [h]
    · simp [h, ih]

namespace Board

/-- Every row is found by its path. -/
structure IsKeyed (b : Board) : Prop where
  distinct : (b.rows.map Row.path).Nodup
  named : [] ∉ b.rows.map Row.path

theorem isKeyed_ofFiles {files : List Bytes} (title : Bytes) (hdistinct : files.Nodup)
    (hnamed : [] ∉ files) : (ofFiles title files).IsKeyed := by
  have hpaths : (ofFiles title files).rows.map Row.path = files := by
    simp [ofFiles, Function.comp_def]
  exact ⟨by rwa [hpaths], by rwa [hpaths]⟩

theorem path_of_indexOf? {b : Board} {file : Bytes} {i : Nat} (h : b.indexOf? file = some i) :
    ∃ r, b.rows[i]? = some r ∧ r.path = file := by
  obtain ⟨⟨r, j⟩, hlast, rfl⟩ := Option.map_eq_some_iff.mp h
  obtain ⟨hmem, hpath⟩ := List.mem_filter.mp (List.mem_of_getLast? hlast)
  exact ⟨r, List.mem_zipIdx_iff_getElem?.mp hmem, beq_iff_eq.mp hpath⟩

theorem path_ne_of_indexOf? {b : Board} {file : Bytes} (h : b.indexOf? file = none) :
    ∀ r ∈ b.rows, r.path ≠ file := by
  rw [indexOf?, Option.map_eq_none_iff, List.getLast?_eq_none_iff, List.filter_eq_nil_iff] at h
  intro r hr hpath
  obtain ⟨i, hi⟩ := List.mem_iff_getElem?.mp hr
  exact h (r, i) (List.mem_zipIdx_iff_getElem?.mpr hi) (beq_iff_eq.mpr hpath)

/-- **An event changes the row of its file** and no other one. -/
theorem rows_apply {b : Board} (h : b.IsKeyed) (e : Event) :
    (b.apply e).rows = b.rows.map fun r => r.take e := by
  have hkeep : (∀ r ∈ b.rows, r.path ≠ e.file) → b.rows = b.rows.map fun r => r.take e := by
    intro hne
    refine (List.map_id _).symm.trans (List.map_congr_left fun r hr => ?_)
    exact (if_neg fun hpath => hne r hr hpath.symm).symm
  unfold apply
  split_ifs with hfile
  · refine hkeep fun r hr hpath => h.named ?_
    rw [← List.isEmpty_iff.mp hfile, ← hpath]
    exact List.mem_map_of_mem hr
  · cases hindex : b.indexOf? e.file with
    | none => exact hkeep (path_ne_of_indexOf? hindex)
    | some i =>
      obtain ⟨r, hr, hpath⟩ := path_of_indexOf? hindex
      refine List.ext_getElem? fun j => ?_
      obtain ⟨hi, -⟩ := List.getElem?_eq_some_iff.mp hr
      rw [List.getElem?_map]
      rcases eq_or_ne i j with rfl | hij
      · rw [List.getElem?_set_self hi, hr, Option.map_some, Row.take, if_pos hpath.symm]
        rfl
      · rw [List.getElem?_set_ne hij]
        cases hs : b.rows[j]? with
        | none => rfl
        | some s =>
          -- the row of another file has another path
          have hother : e.file ≠ s.path := by
            intro hsame
            have hsame : (b.rows.map Row.path)[i]? = (b.rows.map Row.path)[j]? := by
              rw [List.getElem?_map, List.getElem?_map, hr, hs, Option.map_some, Option.map_some,
                hpath, hsame]
            exact hij ((List.getElem?_inj (by rwa [List.length_map]) h.distinct).mp hsame)
          rw [Option.map_some, Row.take, if_neg hother]

theorem IsKeyed.apply {b : Board} (h : b.IsKeyed) (e : Event) : (b.apply e).IsKeyed := by
  have hpaths : (b.apply e).rows.map Row.path = b.rows.map Row.path := by
    rw [rows_apply h, List.map_map]
    exact List.map_congr_left fun r _ => r.path_take e
  exact ⟨by rw [hpaths]; exact h.distinct, by rw [hpaths]; exact h.named⟩

/-- **Events change the row of each file** by what they say about it. -/
theorem rows_foldl_apply {b : Board} (h : b.IsKeyed) (es : List Event) :
    (es.foldl apply b).rows = b.rows.map fun r => es.foldl Row.take r := by
  induction es generalizing b with
  | nil => exact (List.map_id _).symm
  | cons e rest ih =>
    rw [List.foldl_cons, ih (h.apply e), rows_apply h, List.map_map]
    rfl

/-! ### Shares -/

theorem rowSixths_le (r : Row) : rowSixths r ≤ 6 := by
  unfold rowSixths
  split_ifs
  · exact Nat.le_refl 6
  · cases r.stage <;> simp [Stage.sixths]
  · exact Nat.zero_le 6

theorem sixths_eq_sum (b : Board) : b.sixths = (b.rows.map rowSixths).sum := rfl

theorem sixths_le (b : Board) : b.sixths ≤ 6 * b.rows.length := by
  have hle : (b.rows.map rowSixths).sum ≤ (b.rows.map rowSixths).length • 6 := by
    refine List.sum_le_card_nsmul _ 6 fun n hn => ?_
    obtain ⟨r, -, rfl⟩ := List.mem_map.mp hn
    exact rowSixths_le r
  rwa [List.length_map, nsmul_eq_mul, Nat.mul_comm] at hle

theorem fraction_of_rows {b : Board} (h : b.rows ≠ []) :
    b.fraction = (b.sixths : ℚ) / (6 * b.rows.length : ℕ) :=
  if_neg (by rwa [List.isEmpty_iff])

/-- **The share of a board is a share**, whatever has been told. -/
theorem fraction_mem (b : Board) : 0 ≤ b.fraction ∧ b.fraction ≤ 1 := by
  by_cases h : b.rows = []
  · have hone : b.fraction = 1 := if_pos (List.isEmpty_iff.mpr h)
    rw [hone]
    exact ⟨zero_le_one, le_rfl⟩
  · have hpos : 0 < 6 * b.rows.length := Nat.mul_pos (by decide) (List.length_pos_iff.mpr h)
    rw [fraction_of_rows h]
    refine ⟨div_nonneg (Nat.cast_nonneg _) (Nat.cast_nonneg _),
      (div_le_one (Nat.cast_pos.mpr hpos)).mpr ?_⟩
    exact Nat.cast_le.mpr (sixths_le b)

/-- With as many rows as before, more work done is a greater share. -/
theorem fraction_le_fraction {b b' : Board} (hrows : b.rows.length = b'.rows.length)
    (h : b.sixths ≤ b'.sixths) : b.fraction ≤ b'.fraction := by
  by_cases hnil : b.rows = []
  · have hnil' : b'.rows = [] := by
      rw [← List.length_eq_zero_iff, ← hrows, hnil, List.length_nil]
    rw [fraction, fraction, hnil, hnil']
    exact le_rfl
  · have hne' : b'.rows ≠ [] := by
      rw [← List.length_pos_iff, ← hrows]
      exact List.length_pos_iff.mpr hnil
    rw [fraction_of_rows hnil, fraction_of_rows hne', hrows]
    exact div_le_div_of_nonneg_right (Nat.cast_le.mpr h) (Nat.cast_nonneg _)

end Board

/-! ### Events of one file -/

/-- The sixths of its work that lie behind a file after an event. -/
def Event.sixths (e : Event) : Nat := Board.rowSixths e.row

/-- The sixths of its work that lie behind a file after the events about it. -/
def lastSixths (es : List Event) : Nat := (es.getLast?.map Event.sixths).getD 0

theorem rowSixths_foldl_take (path : Bytes) (es : List Event) :
    Board.rowSixths (es.foldl Row.take { path }) =
      lastSixths (es.filter fun e => e.file = path) := by
  rw [Row.foldl_take, lastSixths]
  cases (es.filter fun e => e.file = path).getLast? <;> rfl

/-- If no event takes anything back, then more events leave no less behind. -/
theorem lastSixths_mono {es more : List Event}
    (h : (es ++ more).Pairwise fun d e => d.sixths ≤ e.sixths) :
    lastSixths es ≤ lastSixths (es ++ more) := by
  rcases List.eq_nil_or_concat' more with rfl | ⟨init, last, rfl⟩
  · rw [List.append_nil]
  · have hlast : lastSixths (es ++ (init ++ [last])) = last.sixths := by
      rw [lastSixths, ← List.append_assoc, List.getLast?_concat]
      rfl
    rw [hlast, lastSixths]
    cases hes : es.getLast? with
    | none => exact Nat.zero_le _
    | some e =>
      exact (List.pairwise_append.mp h).2.2 e (List.mem_of_getLast? hes) last (by simp)

theorem map_sixths_fileEvents {path : Bytes} {stages : List Stage} {isWritten : Bool}
    {last : Event} (hlast : last.status.isFinished = true) :
    (fileEvents path stages isWritten last).map Event.sixths =
      0 :: stages.map Stage.sixths ++ (if isWritten then [5] else []) ++ [6] := by
  have hend : last.sixths = 6 := if_pos hlast
  have hstages : (stages.map fun stage =>
      ({ file := path, stage, status := .working } : Event)).map Event.sixths =
        stages.map Stage.sixths := by
    rw [List.map_map]
    rfl
  rw [fileEvents, List.map_append, List.map_append, List.map_cons, hstages, List.map_singleton,
    hend]
  cases isWritten <;> rfl

/-- **A file goes forward** from stage to stage until it ends. -/
theorem pairwise_fileEvents {path : Bytes} {stages : List Stage} {isWritten : Bool} {last : Event}
    (hstages : stages <+: [.parse, .check, .generate, .print])
    (hlast : last.status.isFinished = true) :
    (fileEvents path stages isWritten last).Pairwise fun d e => d.sixths ≤ e.sixths := by
  have hstages : (stages.map Stage.sixths).Sublist [1, 2, 3, 4] :=
    (hstages.map Stage.sixths).sublist
  have hwritten : (if isWritten then [5] else []).Sublist [5] := by
    cases isWritten <;> decide
  have hsixths : ((fileEvents path stages isWritten last).map Event.sixths).Sublist
      [0, 1, 2, 3, 4, 5, 6] := by
    rw [map_sixths_fileEvents hlast]
    exact ((hstages.cons_cons 0).append hwritten).append (List.Sublist.refl [6])
  exact List.pairwise_map.mp (List.Pairwise.sublist hsixths (by decide))

/-! ### Boards of builds -/

namespace Board

/-- The board of files after events. -/
def after (title : Bytes) (files : List Bytes) (es : List Event) : Board :=
  es.foldl apply (ofFiles title files)

section

variable {files : List Bytes} (title : Bytes) (hdistinct : files.Nodup) (hnamed : [] ∉ files)
include hdistinct hnamed

theorem rows_after (es : List Event) :
    (after title files es).rows = files.map fun path => es.foldl Row.take { path } := by
  rw [after, rows_foldl_apply (isKeyed_ofFiles title hdistinct hnamed), ofFiles, List.map_map]
  rfl

theorem length_rows_after (es : List Event) :
    (after title files es).rows.length = files.length := by
  rw [rows_after title hdistinct hnamed, List.length_map]

theorem sixths_after (es : List Event) :
    (after title files es).sixths =
      (files.map fun path => lastSixths (es.filter fun e => e.file = path)).sum := by
  rw [sixths_eq_sum, rows_after title hdistinct hnamed, List.map_map]
  exact congrArg List.sum (List.map_congr_left fun path _ => rowSixths_foldl_take path es)

/-- **The board never goes back**, if no file does. -/
theorem fraction_after_mono {es : List Event}
    (hforward : ∀ path ∈ files,
      (es.filter fun e => e.file = path).Pairwise fun d e => d.sixths ≤ e.sixths) (n : Nat) :
    (after title files (es.take n)).fraction ≤ (after title files (es.take (n + 1))).fraction := by
  refine fraction_le_fraction ?_ ?_
  · rw [length_rows_after title hdistinct hnamed, length_rows_after title hdistinct hnamed]
  · rw [sixths_after title hdistinct hnamed, sixths_after title hdistinct hnamed]
    refine List.sum_le_sum fun path hpath => ?_
    -- one event more is more about the file, or nothing more
    have hmore : es.take (n + 1) = es.take n ++ es[n]?.toList := List.take_add_one
    rw [hmore, List.filter_append]
    refine lastSixths_mono ((hforward path hpath).sublist ?_)
    rw [← List.filter_append, ← hmore]
    exact (List.take_sublist (n + 1) es).filter _

/-- If the last event about each file is the one with which its output was closed, the rows show the
outputs. -/
theorem rows_after_of_last {es : List Event} {fs : List FileOutput}
    (hpaths : fs.map FileOutput.path = files)
    (hlast : ∀ f ∈ fs, (es.filter fun e => e.file = f.path).getLast? = some f.lastEvent) :
    (after title files es).rows = fs.map fun f => f.lastEvent.row := by
  rw [rows_after title hdistinct hnamed, ← hpaths, List.map_map]
  refine List.map_congr_left fun f hf => ?_
  rw [Function.comp_apply, Row.foldl_take, hlast f hf]
  rfl

end

/-- **A board that shows all outputs is full**, and it counts the files that failed. -/
theorem full_of_rows {b : Board} {fs : List FileOutput}
    (h : b.rows = fs.map fun f => f.lastEvent.row) :
    b.counts = (fs.length, fs.countP FileOutput.hasFailed) ∧ b.fraction = 1 := by
  have hfinished : ∀ f : FileOutput, f.lastEvent.row.status.isFinished = true := fun f =>
    f.lastEvent_spec.2
  have hfailed : ∀ f : FileOutput, (f.lastEvent.row.status == .error) = f.hasFailed := by
    intro f
    unfold FileOutput.lastEvent
    cases f.hasFailed <;> rfl
  have hsixths : b.sixths = 6 * b.rows.length := by
    have hrows : b.rows.map rowSixths = fs.map fun _ => 6 := by
      rw [h, List.map_map]
      exact List.map_congr_left fun f _ => if_pos (hfinished f)
    rw [sixths_eq_sum, hrows, h, List.map_const', List.sum_replicate, nsmul_eq_mul,
      List.length_map, Nat.mul_comm]
    rfl
  refine ⟨Prod.ext ?_ ?_, ?_⟩
  · change b.rows.countP _ = fs.length
    rw [h, List.countP_map]
    exact List.countP_eq_length.mpr fun f _ => hfinished f
  · change b.rows.countP _ = fs.countP FileOutput.hasFailed
    rw [h, List.countP_map]
    exact List.countP_congr fun f _ => by rw [Function.comp_apply, hfailed]
  · by_cases hnil : b.rows = []
    · exact if_pos (List.isEmpty_iff.mpr hnil)
    · have hpos : 0 < 6 * b.rows.length :=
        Nat.mul_pos (by decide) (List.length_pos_iff.mpr hnil)
      rw [fraction_of_rows hnil, hsixths]
      exact div_self (Nat.cast_ne_zero.mpr hpos.ne')

end Board

/-- The events of a build in another order, in which those about each file stay in order. -/
def Report.Interleaves (report : Report) (es : List Event) : Prop :=
  ∀ path, es.filter (fun e => e.file = path) = report.about path

/-- **A build that succeeds has an output for each file**, and closes it with the last of the events
about the file. -/
theorem outputs_of_success {w w' : Workspace} {q : Request} {schedule : List (Option Nat)}
    {write : Nat → Writer} {report : Report} (hdistinct : q.files.Nodup) (hnamed : [] ∉ q.files)
    (hbuild : w.buildBy q schedule write = some (w', report)) (hsuccess : report.failure = none) :
    report.files.map FileOutput.path = q.files ∧
      ∀ f ∈ report.files, ∃ stages isWritten,
        stages <+: [.parse, .check, .generate, .print] ∧
        report.about f.path = fileEvents f.path stages isWritten f.lastEvent := by
  unfold Workspace.buildBy at hbuild
  split_ifs at hbuild
  · obtain ⟨rfl, rfl⟩ := Prod.mk.inj (Option.some.inj hbuild)
    cases hsuccess
  · obtain ⟨b, hrun, hconclude⟩ := Option.bind_eq_some_iff.mp hbuild
    obtain ⟨s, s', hran⟩ := Workspace.exists_ran hrun
    obtain ⟨hbatch, t, t', es, hwrite, hevents⟩ :=
      Request.conclude_of_success hconclude hsuccess
    have hpaths : report.files.map FileOutput.path = q.files := by
      rcases b.batch_cases with ⟨runs, hruns, hbatch'⟩ | ⟨-, hbatch'⟩
      · rw [hbatch'] at hwrite
        rw [(events_writeEach hwrite).1]
        exact hran.paths_of_runs hruns
      · rw [hbatch'] at hbatch
        cases hbatch
    refine ⟨hpaths, fun f hf => ?_⟩
    obtain ⟨i, hi⟩ := List.mem_iff_getElem?.mp hf
    have hpath : q.files[i]? = some f.path := by
      rw [← hpaths, List.getElem?_map, hi, Option.map_some]
    obtain ⟨a, f', ha, hf', -, habout⟩ :=
      exists_output_about hran hdistinct hnamed hbatch hsuccess hwrite hevents hpath
    obtain rfl := Option.some.inj (hi.symm.trans hf')
    exact ⟨stagesOf a, _, (stagesOf_spec hran hpath ha).1, habout⟩

end Build

open Build in
/-- **The board of a build that succeeds never goes back and ends full.** For every schedule and
whatever becomes of the writes, also if the events come in another order in which those about each
file stay in order: the share of the board stays between zero and one and never falls from one event
to the next. After the last one all files are finished, as many have failed as in the report, and
the share is one. Building the files one after the other follows one of the schedules. -/
theorem Workspace.buildBy_board (w : Workspace) (q : Build.Request) (hdistinct : q.files.Nodup)
    (hnamed : [] ∉ q.files) :
    (∀ schedule write w' report, w.buildBy q schedule write = some (w', report) →
      report.failure = none → ∀ title es, report.Interleaves es →
        (∀ n, 0 ≤ (Board.after title q.files (es.take n)).fraction ∧
          (Board.after title q.files (es.take n)).fraction ≤ 1 ∧
          (Board.after title q.files (es.take n)).fraction ≤
            (Board.after title q.files (es.take (n + 1))).fraction) ∧
        (Board.after title q.files es).counts = (q.files.length, report.failed) ∧
        (Board.after title q.files es).fraction = 1) ∧
    ∀ write, ∃ schedule, w.buildBy q schedule (fun _ => write) = w.buildWith write q := by
  refine ⟨fun schedule write w' report hbuild hsuccess title es hes => ?_, w.buildBy_inOrder q⟩
  obtain ⟨hpaths, habout⟩ := outputs_of_success hdistinct hnamed hbuild hsuccess
  have hforward : ∀ path ∈ q.files,
      (es.filter fun e => e.file = path).Pairwise fun d e => d.sixths ≤ e.sixths := by
    intro path hpath
    rw [← hpaths] at hpath
    obtain ⟨f, hf, rfl⟩ := List.mem_map.mp hpath
    obtain ⟨stages, isWritten, hstages, hevents⟩ := habout f hf
    rw [hes, hevents]
    exact pairwise_fileEvents hstages f.lastEvent_spec.2
  have hlast : ∀ f ∈ report.files,
      (es.filter fun e => e.file = f.path).getLast? = some f.lastEvent := by
    intro f hf
    obtain ⟨stages, isWritten, -, hevents⟩ := habout f hf
    rw [hes, hevents]
    exact List.getLast?_concat ..
  obtain ⟨hcounts, hfull⟩ :=
    Board.full_of_rows (Board.rows_after_of_last title hdistinct hnamed hpaths hlast)
  refine ⟨fun n => ⟨(Board.fraction_mem _).1, (Board.fraction_mem _).2,
    Board.fraction_after_mono title hdistinct hnamed hforward n⟩, ?_, hfull⟩
  rw [hcounts, ← hpaths, List.length_map]
  rfl

/-- A working directory with one file. -/
private def loneSource : Workspace where
  tree := { entries := [(["a.tsa".utf8], .file "a;".utf8)] }
  session := { tracer := .silent }

open Build in
/-- Two files that run in turns and of which the second cannot be read. -/
theorem Workspace.buildBy_board_turns :
    ∃ w' report, loneSource.buildBy { files := ["a.tsa".utf8, "b.tsa".utf8], out := "out".utf8 }
        ((List.range 100).map fun n => some (n % 2)) (fun _ => writeOutput) = some (w', report) ∧
      report.failure = none ∧ report.Interleaves report.events ∧
      (Board.after [] ["a.tsa".utf8, "b.tsa".utf8] (report.events.take 3)).fraction ≤
        (Board.after [] ["a.tsa".utf8, "b.tsa".utf8] (report.events.take 4)).fraction ∧
      (Board.after [] ["a.tsa".utf8, "b.tsa".utf8] report.events).counts = (2, 1) ∧
      (Board.after [] ["a.tsa".utf8, "b.tsa".utf8] report.events).fraction = 1 := by
  have hbuild : (loneSource.buildBy { files := ["a.tsa".utf8, "b.tsa".utf8], out := "out".utf8 }
      ((List.range 100).map fun n => some (n % 2)) (fun _ => writeOutput)).map
        (fun x => (x.2.failure, x.2.failed)) = some (none, 1) := by
    decide +kernel
  obtain ⟨⟨w', report⟩, hsome, hanswer⟩ := Option.map_eq_some_iff.mp hbuild
  obtain ⟨hsuccess, hfailed⟩ := Prod.mk.inj hanswer
  have hboard := (loneSource.buildBy_board
    { files := ["a.tsa".utf8, "b.tsa".utf8], out := "out".utf8 } (by decide) (by decide)).1
    _ _ _ _ hsome hsuccess [] report.events (fun _ => rfl)
  obtain ⟨hnever, hcounts, hfull⟩ := hboard
  refine ⟨w', report, hsome, hsuccess, fun _ => rfl, (hnever 3).2.2, ?_, hfull⟩
  rw [hcounts, hfailed]
  rfl

end TensorLang
