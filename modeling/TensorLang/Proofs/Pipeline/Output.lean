import TensorLang.Proofs.Emit.Lowered
import TensorLang.Proofs.Pipeline.Reports

/-!
# The output of a run

`Program.compile` emits a program and lays out what it becomes. A whole run does the same between
other passes, and it takes fragments that are missing for a sign that emitting failed. A program
becomes no fragments exactly if it has no statements (`Program.fragments_eq_nil_iff`), so the run
makes what `Program.compile` makes for all programs but those: it leaves them without output, and
the last pass does not take place (`executeRun_of_compile`).
-/

namespace TensorLang

/-! ### Programs that become nothing -/

namespace Target

variable {t : Target} {bound : List Bytes}

theorem emitStmts_eq_nil_iff {stmts : List Stmt} {fs : List Fragment}
    (h : t.emitStmts bound stmts = .ok fs) : fs = [] ↔ stmts = [] := by
  cases stmts with
  | nil => cases h; simp
  | cons s rest =>
    rw [emitStmts_cons] at h
    obtain ⟨here, hhere, h⟩ := Except.bind_eq_ok.mp h
    obtain ⟨more, -, h⟩ := Except.bind_eq_ok.mp h
    cases h
    -- the first statement becomes a command, and no command is without tokens
    obtain ⟨c, -, htokens⟩ := exists_command_of_emitStmt hhere
    have hne : here ≠ [] := by
      rintro rfl
      exact c.tokens_ne_nil t htokens.symm
    simp [hne]

end Target

namespace Program

variable {p : Program} {t : Target}

/-- A program becomes no fragments exactly if it has no statements. -/
theorem fragments_eq_nil_iff {fs : List Fragment} (h : p.fragments t = .ok fs) :
    fs = [] ↔ p.stmts = [] := by
  obtain ⟨body, hbody, h⟩ := Except.bind_eq_ok.mp h
  cases h
  rw [List.append_eq_nil_iff, Target.emitStmts_eq_nil_iff hbody, and_iff_left_iff_imp]
  intro hnone
  rw [hnone]
  rfl

theorem compile_eq_ok {out : Bytes} (h : p.compile t = .ok out) :
    ∃ fs, p.fragments t = .ok fs ∧ t.print fs = .ok out := by
  obtain ⟨fs, hfs, hprint⟩ := Except.bind_eq_ok.mp h
  cases hemit : p.fragments t with
  | error e => rw [hemit] at hfs; cases hfs
  | ok fs' =>
    rw [hemit] at hfs
    cases hfs
    refine ⟨fs, rfl, ?_⟩
    cases hout : t.print fs with
    | error m => rw [hout] at hprint; cases hprint
    | ok text => rw [hout] at hprint; cases hprint; rfl

end Program

/-! ### Runs -/

/-- What an observer sees of passes that take place one after the other: each of them begins and
ends once. -/
def Pass.observed (passes : List Pass) : List (Pass × Bool) :=
  passes.flatMap fun p => [(p, false), (p, true)]

theorem Step.phases_eq_observed (steps : List Step) :
    phases steps = Pass.observed (steps.map Step.pass) := by
  rw [phases, Pass.observed, List.flatMap_map]

/-- Without a store, a run answers what the passes make. -/
theorem executeRun_none (session : Trace.Session) (around : Nat) (file : File) (o : RunOptions) :
    (executeRun session around none file o).result =
      .ofOutcome file o (compileFile file o) := rfl

/-- The passes of a whole run, in order, over a program that can be emitted. -/
theorem Outcome.generate_of_ok (made : Outcome) {t : Target} {p : Program} {fs : List Fragment}
    {out : Bytes} (hfs : p.fragments t = .ok fs) (hout : t.print fs = .ok out) :
    (made.generate t p).output = (if fs = [] then made.output else some out) ∧
      (made.generate t p).steps.map Step.pass =
        made.steps.map Step.pass ++ (if fs = [] then [.generate] else [.generate, .print]) := by
  unfold generate
  rw [hfs]
  simp only [List.isEmpty_iff]
  split_ifs with hnil
  · simp
  · unfold Outcome.print
    rw [hout]
    simp

/-- **A run makes what the compiler makes**, and all four passes take place, for a program that has
statements. A program without statements can be compiled as well, but a run of it stops before the
last pass and has no output. -/
theorem executeRun_of_compile (session : Trace.Session) (around : Nat) (file : File)
    (o : RunOptions) (p : Program) (out : Bytes) (hgoal : o.goal = .generate)
    (hp : Program.parse file.id file.content = .ok p) (hout : p.compile o.target = .ok out) :
    (p.stmts ≠ [] →
      (executeRun session around none file o).result.output = some out ∧
      Step.phases (executeRun session around none file o).result.steps =
        Pass.observed [.parse, .check, .generate, .print]) ∧
    (p.stmts = [] →
      (executeRun session around none file o).result.output = none ∧
      Step.phases (executeRun session around none file o).result.steps =
        Pass.observed [.parse, .check, .generate]) := by
  obtain ⟨fs, hfs, hprint⟩ := Program.compile_eq_ok hout
  have hpasses : runPasses file o =
      ((Outcome.parse file o.maxDiagnostics).check p).generate o.target p := by
    rw [runPasses_of_ok hp, hgoal]
  have hbefore : ((Outcome.parse file o.maxDiagnostics).check p).output = none ∧
      ((Outcome.parse file o.maxDiagnostics).check p).steps.map Step.pass = [.parse, .check] := by
    simp [Outcome.check, Outcome.parse, hp]
  obtain ⟨houtput, hsteps⟩ :=
    ((Outcome.parse file o.maxDiagnostics).check p).generate_of_ok hfs hprint
  rw [hbefore.1] at houtput
  rw [hbefore.2] at hsteps
  simp only [executeRun_none, RunResult.ofOutcome, compileFile_eq, Outcome.settle, hpasses,
    Step.phases_eq_observed, houtput, hsteps, Program.fragments_eq_nil_iff hfs]
  exact ⟨fun hne => by simp [hne], fun hnil => by simp [hnil]⟩

/-- A file that is compiled for the target that nothing else is asked of. -/
private def fileOf (text : String) : File := ⟨0, "m.tsa".utf8, text.utf8, 0⟩

/-- The tree of `a;`. -/
private def reading : Program := ⟨[.eval ⟨0, 0, 2⟩ (.var ⟨0, 0, 1⟩ "a".utf8)], ⟨0, 0, 2⟩⟩

/-- A file with one statement, and the output of its run. -/
theorem executeRun_of_compile_reading :
    ∃ p out, Program.parse 0 "a;".utf8 = .ok p ∧ p.compile Target.standard = .ok out ∧
      (executeRun { tracer := .silent } 0 none (fileOf "a;") {}).result.output = some out ∧
      Step.phases (executeRun { tracer := .silent } 0 none (fileOf "a;") {}).result.steps =
        Pass.observed [.parse, .check, .generate, .print] := by
  have hp : Program.parse 0 "a;".utf8 = .ok reading := by decide +kernel
  have hok : (reading.compile Target.standard).isOk = true := by decide +kernel
  obtain ⟨out, hout⟩ := Except.exists_of_isOk hok
  have h := executeRun_of_compile { tracer := .silent } 0 (fileOf "a;") {} reading out rfl hp hout
  exact ⟨reading, out, hp, hout, h.1 (List.cons_ne_nil _ _)⟩

/-- An empty file can be compiled, but its run has no output and does not get to the last pass. -/
theorem executeRun_empty_file :
    ∃ p out, Program.parse 0 "".utf8 = .ok p ∧ p.compile Target.standard = .ok out ∧
      (executeRun { tracer := .silent } 0 none (fileOf "") {}).result.output ≠ some out ∧
      Step.phases (executeRun { tracer := .silent } 0 none (fileOf "") {}).result.steps ≠
        Pass.observed [.parse, .check, .generate, .print] := by
  have houtput : (executeRun { tracer := .silent } 0 none (fileOf "") {}).result.output = none := by
    decide +kernel
  have hok : (Program.compile ⟨[], ⟨0, 0, 0⟩⟩ Target.standard).isOk = true := by decide +kernel
  obtain ⟨out, hout⟩ := Except.exists_of_isOk hok
  refine ⟨⟨[], ⟨0, 0, 0⟩⟩, out, by decide +kernel, hout, ?_, by decide +kernel⟩
  rw [houtput]
  exact nofun

end TensorLang
