import TensorLang.Build.Build
import TensorLang.Proofs.Pipeline.Attribution

/-!
# Writes that fail

A build runs all its files before it writes the first output, so whether an output can be written
decides about its own file alone: `Workspace.buildWith_of_faults` compares a build with any way to
write to one in which all writes succeed. Files that are written are the same in both. A file that
cannot be written has no output path, and the reason is pushed into its bag.

Two things go wrong. The reason is a diagnostic about the program, and a result from the cache has
none: then the build breaks down. And the bag of a file may be full without an error in it, which
happens if it may hold one diagnostic and the timings are that one: then the reason is dropped, and
the file does not count as failed (`Workspace.build_unnoticed_fault`).
-/

namespace TensorLang

open Storage (Tree ResultCache)

/-! ### Room for an error -/

/-- After an error was pushed there is one, unless the bag was full of other things. -/
theorem Bag.hasErrors_push (b : Bag) {d : Diagnostic} (hd : d.severity = .error) :
    (b.push d).hasErrors = (b.hasErrors || !b.isFull) := by
  unfold push add
  cases hfull : b.isFull with
  | true => simp
  | false => simp [hasErrors, any, hd]

namespace RunResult

/-- The passes report errors and nothing else. -/
theorem hasErrors_compileFile (file : File) (o : RunOptions) :
    (compileFile file o).bag.hasErrors = true ↔ 0 < (compileFile file o).bag.items.length := by
  have hseverity := fun d hd => (storable_compileFile file o d hd).severity
  rw [List.length_pos_iff_exists_mem]
  constructor
  · intro h
    obtain ⟨d, hd, -⟩ := List.any_eq_true.mp h
    exact ⟨d, hd⟩
  · rintro ⟨d, hd⟩
    refine List.any_eq_true.mpr ⟨d, hd, ?_⟩
    rw [hseverity d hd]
    rfl

/-- Timings are no error. -/
theorem hasErrors_addTimings (b : Bag) (t : Timer) (file : File) :
    (addTimings b t file).hasErrors = b.hasErrors := by
  rw [addTimings_eq, Bag.hasErrors, Bag.any, List.any_append]
  exact Bool.or_false _

/-- **When an error is lost**: only if there may be one diagnostic and the timings are that one. -/
theorem hasErrors_push_ofOutcome (file : File) (o : RunOptions) {d : Diagnostic}
    (hd : d.severity = .error) :
    ((ofOutcome file o (compileFile file o)).bag.push d).hasErrors = false ↔
      o.timings = true ∧ o.maxDiagnostics = 1 ∧
        (ofOutcome file o (compileFile file o)).hasFailed = false := by
  have herrors := hasErrors_compileFile file o
  have hlimit := (compileFile_bag file o).2
  rw [Bag.hasErrors_push _ hd, Bool.or_eq_false_iff, Bool.not_eq_false', hasFailed]
  cases htimings : o.timings with
  | false =>
    simp only [ofOutcome, htimings, Bool.false_eq_true, if_false, false_and, iff_false, not_and]
    intro hnone hfull
    simp only [Bag.isFull, Bool.and_eq_true, decide_eq_true_eq] at hfull
    have hsome := herrors.mpr (by omega)
    rw [hnone] at hsome
    cases hsome
  | true =>
    simp only [ofOutcome, htimings, if_true, hasErrors_addTimings, true_and]
    rw [and_comm]
    refine and_congr_left fun hnone => ?_
    have hempty : (compileFile file o).bag.items.length = 0 := by
      by_contra hsome
      rw [herrors.mpr (by omega)] at hnone
      cases hnone
    -- the timings are alone in the bag, which is full if it may hold one diagnostic
    simp only [addTimings_eq, Bag.isFull, hlimit, List.length_append, hempty,
      List.length_singleton, Bool.and_eq_true, decide_eq_true_eq]
    omega

end RunResult

/-! ### Results with a text -/

/-- Emitting a program does not change it. -/
theorem Outcome.program_generate (made : Outcome) (t : Target) (p : Program) :
    (made.generate t p).program = made.program := by
  unfold generate
  split
  · rfl
  · simp only
    split
    · rfl
    · unfold print
      split <;> rfl

/-- What was laid out was parsed. -/
theorem exists_program_of_output {file : File} {o : RunOptions} {text : Bytes}
    (h : (compileFile file o).output = some text) :
    ∃ p, (compileFile file o).program = some p := by
  rw [compileFile_eq] at h ⊢
  cases hp : Program.parse file.id file.content with
  | error e =>
    have hnone : (Outcome.parse file o.maxDiagnostics).output = none := by
      simp only [Outcome.parse, hp]
    rw [runPasses_of_error hp] at h
    cases hnone.symm.trans h
  | ok p =>
    have hparsed : (Outcome.parse file o.maxDiagnostics).program = some p := by
      simp only [Outcome.parse, hp]
    rw [runPasses_of_ok hp]
    refine ⟨p, ?_⟩
    cases o.goal with
    | parse => exact hparsed
    | check => exact hparsed
    | generate => exact (Outcome.program_generate _ o.target p).trans hparsed

/-- A result comes from the cache and then has no program, or it is what the passes make. -/
theorem Workspace.run_origin (w : Workspace) (around : Nat) (file : File) (o : RunOptions) :
    ((w.run around file o).2.isCached = true ∧ (w.run around file o).2.program = none) ∨
    ((w.run around file o).2.isCached = false ∧
      (w.run around file o).2 = .ofOutcome file o (compileFile file o)) := by
  obtain ⟨session, ⟨c, p, -, -, hrun⟩ | hrun | ⟨c, -, -, hrun⟩⟩ := w.run_cases ⟨around, file, o⟩
  · rw [hrun]
    exact .inl ⟨rfl, rfl⟩
  · rw [hrun]
    exact .inr ⟨rfl, rfl⟩
  · rw [hrun]
    exact .inr ⟨rfl, rfl⟩

namespace Build

/-- Every write succeeds. -/
def Writer.IsTotal (write : Writer) : Prop :=
  ∀ t path text, ∃ t', write t path text = .ok t'

/-! ### Writing one file -/

/-- The text that is to be written for a file. -/
def textOf (r : FileRun) : Option Bytes := r.result.bind RunResult.output

/-- What a file becomes if its output can be written. -/
def Request.written (q : Request) (r : FileRun) : FileOutput where
  path := r.path
  output := if (textOf r).isSome then outputPath q.out q.base r.path else []
  result := r.result
  bag := r.bag

/-- What the file becomes if its output cannot be written, unless that breaks the build. -/
def FileOutput.unwritten? (f : FileOutput) (message : Bytes) : Option FileOutput := do
  let result ← f.result
  let p ← result.program
  let bag := f.bag.push (Diagnostic.ofError Code.writeFile p.span message)
  some { f with output := [], bag, result := some { result with bag } }

/-- What a file becomes, given why its output cannot be written, if that is so. -/
def FileOutput.after (f : FileOutput) : Option Bytes → Option FileOutput
  | none => some f
  | some message => f.unwritten? message

namespace Request

/-- The tree after writing a file, and why that is not possible, if that is so. -/
def attempt (q : Request) (write : Writer) (t : Tree) (r : FileRun) : Tree × Option Bytes :=
  match textOf r with
  | none => (t, none)
  | some text =>
    match write t (outputPath q.out q.base r.path) text with
    | .ok t' => (t', none)
    | .error message => (t, some message)

/-- Why the output of each file cannot be written, if that is so. -/
def faults (q : Request) (write : Writer) (t : Tree) : List FileRun → List (Option Bytes)
  | [] => []
  | r :: rest =>
    (q.attempt write t r).2 :: q.faults write (q.attempt write t r).1 rest

/-- **One write decides about one file.** -/
theorem writeOne_eq (q : Request) (write : Writer) (t : Tree) (r : FileRun) :
    (q.writeOne write t r).map (fun x => (x.1, x.2.1)) =
      ((q.written r).after (q.attempt write t r).2).map fun f => ((q.attempt write t r).1, f) := by
  obtain ⟨path, id, result, bag⟩ := r
  unfold writeOne attempt written textOf
  cases result with
  | none => rfl
  | some result =>
    cases htext : result.output with
    | none => simp [htext, FileOutput.after]
    | some text =>
      simp only [Option.bind_some, htext, Option.map_some, Option.isSome_some, if_true]
      cases write t (outputPath q.out q.base path) text with
      | ok t' => rfl
      | error message =>
        cases hprogram : result.program with
        | none => simp [FileOutput.after, FileOutput.unwritten?, hprogram]
        | some p => simp [FileOutput.after, FileOutput.unwritten?, hprogram, htext]

/-! ### Writing all files -/

/-- What the files become one by one; one of them may break the build. -/
def outcomes (q : Request) (write : Writer) (t : Tree) (runs : List FileRun) :
    List (Option FileOutput) :=
  List.zipWith (fun r fault => (q.written r).after fault) runs (q.faults write t runs)

theorem length_faults (q : Request) (write : Writer) (t : Tree) (runs : List FileRun) :
    (q.faults write t runs).length = runs.length := by
  induction runs generalizing t with
  | nil => rfl
  | cons r rest ih => exact congrArg (· + 1) (ih _)

theorem writeAll_cons (q : Request) (write : Writer) (t : Tree) (r : FileRun)
    (rest : List FileRun) :
    q.writeAll write t (r :: rest) = (q.writeOne write t r).bind fun x =>
      (q.writeAll write x.1 rest).map fun y => (y.1, x.2.1 :: y.2.1, x.2.2 ++ y.2.2) := by
  rw [writeAll]
  cases q.writeOne write t r with
  | none => rfl
  | some x =>
    cases hrest : q.writeAll write x.1 rest <;> simp [hrest]

/-- **What writing all files gives**: what they become one by one, unless that breaks the build for
one of them. -/
theorem writeAll_cases (q : Request) (write : Writer) (t : Tree) (runs : List FileRun) :
    (q.writeAll write t runs = none ∧ none ∈ q.outcomes write t runs) ∨
      ∃ t' fs es, q.writeAll write t runs = some (t', fs, es) ∧
        q.outcomes write t runs = fs.map some := by
  induction runs generalizing t with
  | nil => exact .inr ⟨t, [], [], rfl, rfl⟩
  | cons r rest ih =>
    have hone := q.writeOne_eq write t r
    have houtcomes : q.outcomes write t (r :: rest) =
        (q.written r).after (q.attempt write t r).2 ::
          q.outcomes write (q.attempt write t r).1 rest := rfl
    rw [houtcomes, writeAll_cons]
    cases hafter : (q.written r).after (q.attempt write t r).2 with
    | none =>
      rw [hafter, Option.map_none, Option.map_eq_none_iff] at hone
      rw [hone]
      exact .inl ⟨rfl, List.mem_cons_self⟩
    | some f =>
      rw [hafter, Option.map_some, Option.map_eq_some_iff] at hone
      obtain ⟨⟨t', f', es⟩, hwrite, heq⟩ := hone
      obtain ⟨ht, rfl⟩ : t' = (q.attempt write t r).1 ∧ f' = f := Prod.mk.inj heq
      rw [hwrite, Option.bind_some, ← ht]
      rcases ih t' with ⟨hnone, hmem⟩ | ⟨t'', fs, es', hsome, hmap⟩
      · rw [hnone]
        exact .inl ⟨rfl, List.mem_cons_of_mem _ hmem⟩
      · rw [hsome, hmap]
        exact .inr ⟨t'', f' :: fs, es ++ es', rfl, rfl⟩

/-- Only a file with a text has a fault. -/
theorem exists_text_of_fault {q : Request} {write : Writer} {t : Tree} {runs : List FileRun}
    {i : Nat} {r : FileRun} {message : Bytes} (hr : runs[i]? = some r)
    (hfault : (q.faults write t runs)[i]? = some (some message)) :
    ∃ text, textOf r = some text := by
  induction runs generalizing t i with
  | nil => cases hr
  | cons first rest ih =>
    cases i with
    | succ i => exact ih hr hfault
    | zero =>
      obtain rfl : first = r := Option.some.inj hr
      have hattempt : (q.attempt write t first).2 = some message := Option.some.inj hfault
      cases htext : textOf first with
      | some text => exact ⟨text, rfl⟩
      | none =>
        rw [attempt, htext] at hattempt
        cases hattempt

/-- If nothing can go wrong, all files are written. -/
theorem outcomes_of_total {write : Writer} (htotal : write.IsTotal)
    (q : Request) (t : Tree) (runs : List FileRun) :
    q.outcomes write t runs = (runs.map q.written).map some := by
  induction runs generalizing t with
  | nil => rfl
  | cons r rest ih =>
    have hnone : (q.attempt write t r).2 = none := by
      unfold attempt
      cases textOf r with
      | none => rfl
      | some text =>
        obtain ⟨t', ht'⟩ := htotal t (outputPath q.out q.base r.path) text
        simp only [ht']
    have houtcomes : q.outcomes write t (r :: rest) =
        (q.written r).after (q.attempt write t r).2 ::
          q.outcomes write (q.attempt write t r).1 rest := rfl
    rw [houtcomes, hnone, ih]
    rfl

theorem writeAll_of_total {write : Writer} (htotal : write.IsTotal)
    (q : Request) (t : Tree) (runs : List FileRun) :
    ∃ t' es, q.writeAll write t runs = some (t', runs.map q.written, es) := by
  have houtcomes := q.outcomes_of_total htotal t runs
  rcases q.writeAll_cases write t runs with ⟨-, hmem⟩ | ⟨t', fs, es, hsome, hmap⟩
  · rw [houtcomes] at hmem
    simp at hmem
  · rw [houtcomes] at hmap
    have hfiles := (List.map_inj_right fun _ _ => Option.some.inj).mp hmap
    rw [hfiles]
    exact ⟨t', es, hsome⟩

end Request

/-! ### Files of a build -/

/-- Was the result of the file taken from the cache? -/
def FileOutput.isCached (f : FileOutput) : Bool := f.result.any RunResult.isCached

/-- The run of a file has the bag of its result, which a run with these options gave. -/
def IsRun (o : RunOptions) (r : FileRun) : Prop :=
  ∀ result, r.result = some result → r.bag = result.bag ∧
    ∃ (w : Workspace) (around : Nat) (file : File), result = (w.run around file o).2

theorem isRun_of_mem_runFiles {w : Workspace} {paths : List Bytes} {isCancelled : Bool}
    {o : RunOptions} {r : FileRun} (hr : r ∈ (w.runFiles paths isCancelled o).2.runs) :
    IsRun o r := by
  obtain ⟨w', around, -, hruns⟩ := Batch.runFiles_eq w paths isCancelled o
  obtain ⟨i, hi⟩ := List.getElem?_of_mem hr
  rw [hruns] at hi
  cases isCancelled with
  | true => cases hi
  | false =>
    obtain ⟨w'', path, loaded, -, rfl⟩ := Batch.exists_runOne hi
    unfold Batch.runOne
    intro result hresult
    split at hresult
    · cases hresult
    · split at hresult
      · cases hresult
      · rename_i file _
        cases hresult
        exact ⟨rfl, w'', around, file, rfl⟩

/-- What became of a file that would be `good` if its output could be written. -/
structure FileOutput.Unwritten (o : RunOptions) (good : FileOutput) (message : Bytes)
    (f : FileOutput) : Prop where
  path : f.path = good.path
  output : f.output = []
  bag : ∃ span, f.bag = good.bag.push (Diagnostic.ofError Code.writeFile span message)
  /-- The reason is lost if the timings take the only place in the bag. -/
  hasFailed : f.hasFailed = false ↔
    o.timings = true ∧ o.maxDiagnostics = 1 ∧ good.hasFailed = false

/-- A file with a fault breaks the build exactly if its result was taken from the cache. -/
theorem unwritten?_cases {q : Request} {r : FileRun} {o : RunOptions} (hr : IsRun o r)
    {text : Bytes} (htext : textOf r = some text) (message : Bytes) :
    ((q.written r).unwritten? message = none ↔ (q.written r).isCached = true) ∧
    ∀ f, (q.written r).unwritten? message = some f → (q.written r).Unwritten o message f := by
  obtain ⟨result, hresult, houtput⟩ := Option.bind_eq_some_iff.mp htext
  obtain ⟨hbag, w, around, file, hmade⟩ := hr result hresult
  simp only [Request.written, FileOutput.unwritten?, FileOutput.isCached, hresult, Option.any_some]
  rcases w.run_origin around file o with ⟨hcached, hprogram⟩ | ⟨hcached, hfresh⟩
  · rw [← hmade] at hcached hprogram
    simp [hcached, hprogram]
  · rw [← hmade] at hcached hfresh
    have hoccurs : (compileFile file o).output = some text := by
      rw [hfresh] at houtput
      exact houtput
    obtain ⟨p, hp⟩ := exists_program_of_output hoccurs
    have hprogram : result.program = some p := by
      rw [hfresh]
      exact hp
    have hlost := @RunResult.hasErrors_push_ofOutcome file o
      (Diagnostic.ofError Code.writeFile p.span message) rfl
    rw [← hfresh, RunResult.hasFailed, ← hbag] at hlost
    simp only [hcached, hprogram, Option.bind_eq_bind, Option.bind_some, reduceCtorEq,
      Bool.false_eq_true, true_and, Option.some.injEq, forall_eq']
    exact ⟨rfl, rfl, ⟨p.span, rfl⟩, hlost⟩

/-- **Writing all files, with the faults known.** It breaks down exactly if a file with a fault has
a result from the cache; otherwise each file is as its own fault says. -/
theorem Request.writeAll_of_faults {o : RunOptions} (q : Request) (write : Writer) (t : Tree)
    {runs : List FileRun} (hruns : ∀ r ∈ runs, IsRun o r) :
    (q.writeAll write t runs = none ↔
      ∃ (i : Nat) (r : FileRun) (message : Bytes), runs[i]? = some r ∧
        (q.faults write t runs)[i]? = some (some message) ∧ (q.written r).isCached = true) ∧
    ∀ t' fs es, q.writeAll write t runs = some (t', fs, es) →
      fs.length = runs.length ∧
      ∀ (i : Nat) (r : FileRun) (f : FileOutput), runs[i]? = some r → fs[i]? = some f →
        ((q.faults write t runs)[i]? = some none → f = q.written r) ∧
        ∀ message, (q.faults write t runs)[i]? = some (some message) →
          (q.written r).Unwritten o message f := by
  have hcases : ∀ {i : Nat} {r message}, runs[i]? = some r →
      (q.faults write t runs)[i]? = some (some message) →
      ((q.written r).unwritten? message = none ↔ (q.written r).isCached = true) ∧
      ∀ f, (q.written r).unwritten? message = some f → (q.written r).Unwritten o message f := by
    intro i r message hr hfault
    obtain ⟨text, htext⟩ := exists_text_of_fault hr hfault
    exact unwritten?_cases (hruns r (List.mem_of_getElem? hr)) htext message
  rcases q.writeAll_cases write t runs with ⟨hnone, hmem⟩ | ⟨t', fs, es, hsome, hmap⟩
  · refine ⟨⟨fun _ => ?_, fun _ => hnone⟩, fun t' fs es h => ?_⟩
    · obtain ⟨i, hi⟩ := List.getElem?_of_mem hmem
      obtain ⟨r, fault, hr, hfault, hafter⟩ := List.getElem?_zipWith_eq_some.mp hi
      cases fault with
      | none => cases hafter
      | some message => exact ⟨i, r, message, hr, hfault, (hcases hr hfault).1.mp hafter⟩
    · cases hnone.symm.trans h
  · have hfile : ∀ {i : Nat} {r fault}, runs[i]? = some r →
        (q.faults write t runs)[i]? = some fault →
        ∃ f, fs[i]? = some f ∧ (q.written r).after fault = some f := by
      intro i r fault hr hfault
      have hat : (q.outcomes write t runs)[i]? = some ((q.written r).after fault) :=
        List.getElem?_zipWith_eq_some.mpr ⟨r, fault, hr, hfault, rfl⟩
      rw [hmap, List.getElem?_map] at hat
      obtain ⟨f, hf, hafter⟩ := Option.map_eq_some_iff.mp hat
      exact ⟨f, hf, hafter.symm⟩
    constructor
    · constructor
      · intro h
        cases hsome.symm.trans h
      · rintro ⟨i, r, message, hr, hfault, hcached⟩
        obtain ⟨f, -, hafter⟩ := hfile hr hfault
        cases ((hcases hr hfault).1.mpr hcached).symm.trans hafter
    · intro t'' fs' es' h
      obtain ⟨rfl, rfl, rfl⟩ : t' = t'' ∧ fs = fs' ∧ es = es' := by
        simpa using hsome.symm.trans h
      have hlength := congrArg List.length hmap
      rw [outcomes, List.length_zipWith, length_faults, Nat.min_self, List.length_map] at hlength
      refine ⟨hlength.symm, fun i r f hr hf => ⟨fun hfault => ?_, fun message hfault => ?_⟩⟩
      · obtain ⟨f', hf', hafter⟩ := hfile hr hfault
        obtain rfl : f = f' := Option.some.inj (hf.symm.trans hf')
        exact (Option.some.inj hafter).symm
      · obtain ⟨f', hf', hafter⟩ := hfile hr hfault
        obtain rfl : f = f' := Option.some.inj (hf.symm.trans hf')
        exact (hcases hr hfault).2 f hafter

end Build

open Build in
/-- Why the output of each file of a build cannot be written, if that is so; no file comes so far if
the build stops before. -/
def Workspace.writeFaults (write : Writer) (w : Workspace) (q : Build.Request) :
    List (Option Bytes) :=
  if q.out.isEmpty then []
  else
    let (w, b) := w.runFiles q.files q.isCancelled q.runOptions
    match b.failure, w.tree.makeDir q.out with
    | none, .ok tree => q.faults write tree b.runs
    | _, _ => []

open Build in
/-- A build stops before the first write, or its report has the files as they are written. -/
theorem Workspace.buildWith_cases (w : Workspace) (q : Build.Request) :
    (∃ w₁ report, report.files = [] ∧ ∀ write, w.buildWith write q = some (w₁, report) ∧
      w.writeFaults write q = []) ∨
    ∃ (t : Tree) (runs : List FileRun)
      (finish : Tree × List FileOutput × List Event → Workspace × Report),
      (∀ r ∈ runs, IsRun q.runOptions r) ∧
      (∀ x, (finish x).2.files = x.2.1 ∧ (finish x).2.failure = none) ∧
      ∀ write, w.buildWith write q = (q.writeAll write t runs).map finish ∧
        w.writeFaults write q = q.faults write t runs := by
  unfold buildWith writeFaults
  cases hout : q.out.isEmpty with
  | true => exact .inl ⟨w, _, rfl, fun write => ⟨rfl, rfl⟩⟩
  | false =>
    have hruns := @isRun_of_mem_runFiles w q.files q.isCancelled q.runOptions
    generalize w.runFiles q.files q.isCancelled q.runOptions = ran at hruns ⊢
    obtain ⟨w', b⟩ := ran
    simp only [Bool.false_eq_true, if_false, Request.conclude]
    cases b.failure with
    | some message => exact .inl ⟨w', _, rfl, fun write => ⟨rfl, rfl⟩⟩
    | none =>
      cases w'.tree.makeDir q.out with
      | error f => exact .inl ⟨w', _, rfl, fun write => ⟨rfl, rfl⟩⟩
      | ok t =>
        refine .inr ⟨t, b.runs, fun x => ({ w' with tree := x.1 },
          { files := x.2.1, timings := (timingsOf b.phases).add .write 0
            events := queuedEvents q.files ++ workOf b.phases ++ x.2.2 ++ [doneEvent] }),
          fun r hr => hruns hr, fun x => ⟨rfl, rfl⟩,
          fun write => ⟨Option.map_eq_bind.symm, rfl⟩⟩

open Build in
/-- **What failed writes do to a build.** A build in which all writes succeed always gives a report.
With writes that fail, the build breaks down exactly if one of them is for a file whose result was
taken from the cache. Otherwise the files that are written are the same, and a file that cannot be
written has no output path and an error in its bag, the reason if there is room for it; the one
exception is a file without errors if the timings take the only place in the bag. -/
theorem Workspace.buildWith_of_faults (write ideal : Writer)
    (hideal : ideal.IsTotal) (w : Workspace) (q : Build.Request) :
    ∃ (w₁ : Workspace) (good : Report), w.buildWith ideal q = some (w₁, good) ∧
      (w.writeFaults write q).length = good.files.length ∧
      (w.buildWith write q = none ↔
        ∃ (i : Nat) (g : FileOutput) (message : Bytes), good.files[i]? = some g ∧
          (w.writeFaults write q)[i]? = some (some message) ∧ g.isCached = true) ∧
      ∀ (w₂ : Workspace) (report : Report), w.buildWith write q = some (w₂, report) →
        report.failure = good.failure ∧ report.files.length = good.files.length ∧
        ∀ (i : Nat) (f g : FileOutput), report.files[i]? = some f → good.files[i]? = some g →
          ((w.writeFaults write q)[i]? = some none → f = g) ∧
          ∀ message, (w.writeFaults write q)[i]? = some (some message) →
            g.Unwritten q.options message f := by
  rcases w.buildWith_cases q with
    ⟨w₁, good, hfiles, hsame⟩ | ⟨t, runs, finish, hruns, hfinish, hsame⟩
  · refine ⟨w₁, good, (hsame ideal).1, ?_, ?_, ?_⟩
    · rw [(hsame write).2, hfiles]
      rfl
    · simp [(hsame write).1, hfiles]
    · intro w₂ report hreport
      obtain ⟨-, rfl⟩ := Prod.mk.inj (Option.some.inj ((hsame write).1.symm.trans hreport))
      simp [hfiles]
  · obtain ⟨t₁, es, hgood⟩ := q.writeAll_of_total hideal t runs
    obtain ⟨hnone, hsome⟩ := q.writeAll_of_faults write t hruns
    refine ⟨(finish (t₁, runs.map q.written, es)).1, (finish (t₁, runs.map q.written, es)).2,
      ?_, ?_, ?_, ?_⟩
    · rw [(hsame ideal).1, hgood]
      rfl
    · rw [(hfinish _).1, (hsame write).2, q.length_faults, List.length_map]
    · rw [(hsame write).1, (hsame write).2, (hfinish _).1, Option.map_eq_none_iff, hnone]
      simp only [List.getElem?_map, Option.map_eq_some_iff]
      constructor
      · rintro ⟨i, r, message, hr, hfault, hcached⟩
        exact ⟨i, q.written r, message, ⟨r, hr, rfl⟩, hfault, hcached⟩
      · rintro ⟨i, g, message, ⟨r, hr, rfl⟩, hfault, hcached⟩
        exact ⟨i, r, message, hr, hfault, hcached⟩
    · intro w₂ report hreport
      rw [(hsame write).1] at hreport
      obtain ⟨⟨t₂, fs, es₂⟩, hwritten, hfinished⟩ := Option.map_eq_some_iff.mp hreport
      obtain ⟨hlength, heach⟩ := hsome t₂ fs es₂ hwritten
      obtain rfl : (finish (t₂, fs, es₂)).2 = report := congrArg Prod.snd hfinished
      rw [(hfinish _).1, (hfinish _).2, (hfinish _).1, (hfinish _).2, (hsame write).2]
      refine ⟨rfl, hlength.trans (List.length_map _).symm, fun i f g hf hg => ?_⟩
      obtain ⟨r, hr, rfl⟩ := Option.map_eq_some_iff.mp ((List.getElem?_map ..).symm.trans hg)
      obtain ⟨hkept, hfailed⟩ := heach i r f hr hf
      refine ⟨hkept, fun message hfault => ?_⟩
      have hunwritten := hfailed message hfault
      exact ⟨hunwritten.path, hunwritten.output, hunwritten.bag, hunwritten.hasFailed⟩

/-- Two files, and a directory where the output of the first one belongs. -/
private def blocked : Workspace where
  tree :=
    { entries := [(["a.tsa".utf8], .file "a;".utf8), (["b.tsa".utf8], .file "b;".utf8),
        (["out".utf8], .dir), (["out".utf8, "a.go".utf8], .dir)] }
  session := { tracer := .silent }

private def bothFiles : Build.Request where
  files := ["a.tsa".utf8, "b.tsa".utf8]
  out := "out".utf8

open Build in
/-- A fault in the first file is reported there, and the second file is written all the same. -/
theorem Workspace.buildWith_of_faults_directory :
    ∃ (w₁ w₂ : Workspace) (good report : Report),
      blocked.buildWith (fun t _ _ => .ok t) bothFiles = some (w₁, good) ∧
      blocked.build bothFiles = some (w₂, report) ∧ report.files.length = 2 ∧
      (∀ f g, report.files[0]? = some f → good.files[0]? = some g →
        f.path = g.path ∧ f.output = [] ∧ f.hasFailed = true) ∧
      ∀ f g, report.files[1]? = some f → good.files[1]? = some g → f = g := by
  have hfaults : blocked.writeFaults writeOutput bothFiles =
      [some "failed to write build output \"out/a.go\": open out/a.go: is a directory".utf8,
        none] := by
    decide +kernel
  have hbuild : (blocked.build bothFiles).isSome = true := by decide +kernel
  obtain ⟨⟨w₂, report⟩, hreport⟩ := Option.isSome_iff_exists.mp hbuild
  obtain ⟨w₁, good, hgood, hlength, -, hsome⟩ := Workspace.buildWith_of_faults writeOutput
    (fun t _ _ => .ok t) (fun t _ _ => ⟨t, rfl⟩) blocked bothFiles
  obtain ⟨-, hsame, heach⟩ := hsome w₂ report hreport
  rw [hfaults] at hlength heach
  refine ⟨w₁, w₂, good, report, hgood, hreport, hsame.trans hlength.symm, ?_, ?_⟩
  · intro f g hf hg
    have hunwritten := (heach 0 f g hf hg).2 _ rfl
    refine ⟨hunwritten.path, hunwritten.output, ?_⟩
    rw [← Bool.not_eq_false, hunwritten.hasFailed]
    rintro ⟨htimings, -⟩
    cases htimings
  · intro f g hf hg
    exact (heach 1 f g hf hg).1 rfl

/-- If the timings take the only place in the bag, a file that was not written looks fine. -/
theorem Workspace.build_unnoticed_fault :
    (blocked.build { bothFiles with
        options := { timings := true, maxDiagnostics := 1 } }).map
      (fun x => (x.2.failed, x.2.files.map Build.FileOutput.output)) =
      some (0, [[], "out/b.go".utf8]) := by
  decide +kernel

end TensorLang
