import TensorLang.Proofs.Pipeline.Output
import TensorLang.Proofs.Pipeline.Restore

/-!
# A limit only cuts off

What a run reports about a file does not depend on how much of it may be kept: `reports` lists it in
order, and the passes fill their bag from this list and otherwise do not look at the bag
(`runPasses_eq`). A bag with a limit keeps the beginning of what is pushed into it
(`Bag.items_foldl_push`), so a limit changes nothing about a run except how many of its diagnostics
are kept (`executeRun_truncates`). Since everything that is reported is an error, even one
diagnostic that is kept tells that the run has failed.
-/

namespace TensorLang

/-! ### Bags with a limit -/

/-- A bag with a limit keeps the first diagnostics, as many as there is room for. -/
theorem Bag.items_foldl_push (ds : List Diagnostic) (b : Bag) :
    (ds.foldl push b).items =
      b.items ++ if 0 < b.limit then ds.take (b.limit.toNat - b.items.length) else ds := by
  induction ds generalizing b with
  | nil => simp
  | cons d ds ih =>
    rw [List.foldl_cons, ih, push_limit]
    by_cases hfull : b.isFull = true
    · -- nothing is added any more
      have hpush : b.push d = b := by rw [push, add, if_pos hfull]
      simp only [isFull, Bool.and_eq_true, decide_eq_true_eq] at hfull
      have hroom : b.limit.toNat - b.items.length = 0 := by omega
      rw [hpush, if_pos hfull.1, if_pos hfull.1, hroom, List.take_zero, List.take_zero]
    · have hpush : (b.push d).items = b.items ++ [d] := by rw [push, add, if_neg hfull]
      rw [hpush, List.append_assoc, List.singleton_append]
      simp only [isFull, Bool.and_eq_true, decide_eq_true_eq, not_and, Int.not_le] at hfull
      by_cases hlimit : 0 < b.limit
      · have hroom : b.limit.toNat - b.items.length =
            (b.limit.toNat - (b.items ++ [d]).length) + 1 := by
          have := hfull hlimit
          rw [List.length_append, List.length_singleton]
          omega
        rw [if_pos hlimit, if_pos hlimit, hroom, List.take_succ_cons]
      · rw [if_neg hlimit, if_neg hlimit]

/-! ### Everything that is reported -/

/-- What is reported about the types of a program. -/
def typeReports (p : Program) : List Diagnostic :=
  DedupKey.firsts [] (Program.check (some p)).diagnostics

/-- What is reported when a program is emitted and laid out. -/
def emitReports (t : Target) (p : Program) : List Diagnostic :=
  match p.fragments t with
  | .error e => [Outcome.emitDiagnostic p e]
  | .ok fs =>
    if fs.isEmpty then []
    else
      match t.print fs with
      | .ok _ => []
      | .error m => [m.diagnostic]

/-- Everything that a run reports about a file, in this order. -/
def reports (file : File) (o : RunOptions) : List Diagnostic :=
  match Program.parse file.id file.content with
  | .error e => e.errors.map Outcome.syntaxDiagnostic
  | .ok p =>
    match o.goal with
    | .parse => []
    | .check => typeReports p
    | .generate => typeReports p ++ emitReports o.target p

namespace Outcome

/-- The limit of a run plays no part in parsing but for the bag. -/
theorem parse_eq (file : File) (limit other : Int) :
    parse file limit =
      { parse file other with
        bag := (match Program.parse file.id file.content with
          | .error e => e.errors.map syntaxDiagnostic
          | .ok _ => []).foldl Bag.push (Bag.empty limit) } := by
  unfold parse
  cases Program.parse file.id file.content <;> rfl

/-- Checking adds its reports to the bag, and nothing else depends on the bag. -/
theorem check_withBag (made : Outcome) (b : Bag) (p : Program) :
    { made with bag := b }.check p =
      { made.check p with bag := (typeReports p).foldl Bag.push b } := by
  rw [check, report_eq]
  rfl

/-- Emitting adds its reports to the bag, and nothing else depends on the bag. -/
theorem generate_withBag (made : Outcome) (b : Bag) (t : Target) (p : Program) :
    { made with bag := b }.generate t p =
      { made.generate t p with bag := (emitReports t p).foldl Bag.push b } := by
  unfold generate emitReports
  cases p.fragments t with
  | error e => rfl
  | ok fs =>
    cases hnone : fs.isEmpty with
    | true => simp [hnone]
    | false =>
      unfold print
      cases hprint : t.print fs <;> simp [hnone, hprint]

end Outcome

/-- **The passes fill their bag with the reports**; otherwise they do not depend on its limit. -/
theorem runPasses_eq (file : File) (o : RunOptions) (other : Int) :
    runPasses file o =
      { runPasses file { o with maxDiagnostics := other } with
        bag := (reports file o).foldl Bag.push (Bag.empty o.maxDiagnostics) } := by
  have hparse := Outcome.parse_eq file o.maxDiagnostics other
  cases hp : Program.parse file.id file.content with
  | error e =>
    rw [hp] at hparse
    rw [runPasses_of_error hp, runPasses_of_error hp, hparse, reports, hp]
  | ok p =>
    rw [hp] at hparse
    rw [runPasses_of_ok hp, runPasses_of_ok hp, reports, hp, hparse]
    cases o.goal with
    | parse => rfl
    | check => rw [Outcome.check_withBag]; rfl
    | generate =>
      rw [Outcome.check_withBag, Outcome.generate_withBag]
      simp only [List.foldl_append]
      rfl

/-- Everything that is reported is an error. -/
theorem severity_of_mem_reports {file : File} {o : RunOptions} {d : Diagnostic}
    (hd : d ∈ reports file o) : d.severity = .error := by
  unfold reports at hd
  split at hd
  · obtain ⟨e, -, rfl⟩ := List.mem_map.mp hd
    unfold Outcome.syntaxDiagnostic
    split <;> rfl
  · rename_i p _
    have htypes : ∀ d ∈ typeReports p, d.severity = .error := by
      intro d hd
      obtain ⟨e, -, rfl⟩ := List.mem_map.mp (DedupKey.mem_of_firsts hd)
      cases e <;> rfl
    have hemit : ∀ d ∈ emitReports o.target p, d.severity = .error := by
      intro d hd
      unfold emitReports at hd
      split at hd
      · rename_i e _
        rw [List.mem_singleton.mp hd]
        cases e <;> rfl
      · split at hd
        · cases hd
        · split at hd
          · cases hd
          · rw [List.mem_singleton.mp hd]
            rfl
    split at hd
    · cases hd
    · exact htypes d hd
    · exact (List.mem_append.mp hd).elim (htypes d) (hemit d)

/-! ### Runs with a limit -/

/-- Errors are left as they are when warnings are promoted. -/
theorem Bag.transform_promote {b : Bag} (h : ∀ d ∈ b.items, d.severity = .error) :
    b.transform Outcome.promote = b := by
  have hid : ∀ d ∈ b.items, Outcome.promote d = id d := by
    intro d hd
    rw [Outcome.promote, h d hd]
    rfl
  rw [transform, List.map_congr_left hid, List.map_id]

/-- A bag of errors tells of an error if anything is in it. -/
theorem Bag.hasErrors_eq_not_isEmpty {b : Bag} (h : ∀ d ∈ b.items, d.severity = .error) :
    b.hasErrors = !b.items.isEmpty := by
  obtain ⟨items, limit⟩ := b
  cases items with
  | nil => rfl
  | cons d ds =>
    have hd : d.severity = .error := h d List.mem_cons_self
    simp [hasErrors, any, hd]

/-- What is kept of the reports. -/
def kept (limit : Int) (ds : List Diagnostic) : List Diagnostic :=
  if 0 < limit then ds.take limit.toNat else ds

/-- The bag of a run: what is kept of the reports, sorted. -/
theorem compileFile_bag_eq (file : File) (o : RunOptions) :
    (compileFile file o).bag =
      (Bag.mk (kept o.maxDiagnostics (reports file o)) o.maxDiagnostics).sort := by
  have hitems : ((reports file o).foldl Bag.push (Bag.empty o.maxDiagnostics)).items =
      kept o.maxDiagnostics (reports file o) := by
    rw [Bag.items_foldl_push]
    rfl
  have hbag : (reports file o).foldl Bag.push (Bag.empty o.maxDiagnostics) =
      ⟨kept o.maxDiagnostics (reports file o), o.maxDiagnostics⟩ := by
    rw [← hitems]
    exact congrArg (Bag.mk _) (Bag.foldl_push_limit _ _)
  rw [compileFile_eq, runPasses_eq file o o.maxDiagnostics, Outcome.settle, hbag]
  cases o.warningsAsErrors with
  | false => rfl
  | true =>
    refine Bag.transform_promote fun d hd => ?_
    have hmem : d ∈ kept o.maxDiagnostics (reports file o) := Bag.mem_sort.mp hd
    unfold kept at hmem
    split at hmem
    · exact severity_of_mem_reports (List.mem_of_mem_take hmem)
    · exact severity_of_mem_reports hmem

/-- The bag of a run without a store and without timings. -/
theorem bag_executeRun_none (session : Trace.Session) (around : Nat) (file : File)
    (o : RunOptions) (htimings : o.timings = false) :
    (executeRun session around none file o).result.bag =
      (Bag.mk (kept o.maxDiagnostics (reports file o)) o.maxDiagnostics).sort := by
  rw [executeRun_none, RunResult.ofOutcome, ← compileFile_bag_eq]
  simp only [htimings, Bool.false_eq_true, if_false]

/-- **A limit only cuts off.** A run with a limit makes what the run without one makes, and fails if
that one fails. Its bag holds the first of the diagnostics that the other one reports, sorted. -/
theorem executeRun_truncates (session : Trace.Session) (around : Nat) (file : File)
    (o : RunOptions) (m n : Int) (hm : 0 < m) (hn : n ≤ 0) (htimings : o.timings = false) :
    let limited := (executeRun session around none file { o with maxDiagnostics := m }).result
    let free := (executeRun session around none file { o with maxDiagnostics := n }).result
    limited.program = free.program ∧ limited.checked = free.checked ∧
      limited.output = free.output ∧ Step.phases limited.steps = Step.phases free.steps ∧
      limited.hasFailed = free.hasFailed ∧
      (runPasses file { o with maxDiagnostics := n }).bag.items = reports file o ∧
      free.bag = (Bag.mk (reports file o) n).sort ∧
      limited.bag = (Bag.mk ((reports file o).take m.toNat) m).sort := by
  intro limited free
  have hpasses := runPasses_eq file { o with maxDiagnostics := m } n
  have hunsorted : (runPasses file { o with maxDiagnostics := n }).bag.items =
      reports file o := by
    rw [runPasses_eq file { o with maxDiagnostics := n } n, Bag.items_foldl_push]
    exact if_neg (Int.not_lt.mpr hn)
  have hfree : free.bag = (Bag.mk (reports file o) n).sort := by
    have hbag := bag_executeRun_none session around file { o with maxDiagnostics := n } htimings
    rw [kept, if_neg (Int.not_lt.mpr hn)] at hbag
    exact hbag
  have hlimited : limited.bag = (Bag.mk ((reports file o).take m.toNat) m).sort := by
    have hbag := bag_executeRun_none session around file { o with maxDiagnostics := m } htimings
    rw [kept, if_pos hm] at hbag
    exact hbag
  have hfailed : limited.hasFailed = free.hasFailed := by
    have herrors : ∀ d ∈ free.bag.items, d.severity = .error := by
      intro d hd
      rw [hfree] at hd
      exact severity_of_mem_reports (Bag.mem_sort.mp hd)
    have herrors' : ∀ d ∈ limited.bag.items, d.severity = .error := by
      intro d hd
      rw [hlimited] at hd
      exact severity_of_mem_reports (List.mem_of_mem_take (Bag.mem_sort.mp hd))
    rw [RunResult.hasFailed, RunResult.hasFailed, Bag.hasErrors_eq_not_isEmpty herrors,
      Bag.hasErrors_eq_not_isEmpty herrors', hfree, hlimited, Bool.not_inj_iff, Bool.eq_iff_iff,
      List.isEmpty_iff_length_eq_zero, List.isEmpty_iff_length_eq_zero, Bag.sort, Bag.sort,
      List.length_mergeSort, List.length_mergeSort, List.length_take]
    have hpos : 0 < m.toNat := by omega
    simp only
    omega
  -- everything but the bag is that of the passes, which the limit does not change
  refine ⟨?_, ?_, ?_, ?_, hfailed, hunsorted, hfree, hlimited⟩
  · exact (congrArg Outcome.program hpasses :)
  · exact (congrArg Outcome.checked hpasses :)
  · exact (congrArg Outcome.output hpasses :)
  · exact (congrArg (fun made : Outcome => Step.phases made.steps) hpasses :)

/-- The second error is about the value of `b`, which is written before the place of the first. -/
private def twoErrors : File := ⟨0, "m.tsa".utf8, "b=[0..3];[2;0]*[2;0];b*b;".utf8, 0⟩

/-- With room for one diagnostic, the one that is reported first is kept, and not the one that
stands first in the text. -/
theorem executeRun_truncates_two_errors :
    let run limit :=
      (executeRun { tracer := .silent } 0 none twoErrors { maxDiagnostics := limit }).result
    (run 1).hasFailed = (run 0).hasFailed ∧ (run 1).output = (run 0).output ∧
      (run 0).bag.items.length = 2 ∧
      (reports twoErrors {}).map Diagnostic.primary = [⟨0, 9, 14⟩, ⟨0, 2, 8⟩] ∧
      (run 1).bag.items.map Diagnostic.primary = [⟨0, 9, 14⟩] := by
  obtain ⟨-, -, houtput, -, hfailed, -, hfree, hlimited⟩ :=
    executeRun_truncates { tracer := .silent } 0 twoErrors {} 1 0 (by decide) (by decide) rfl
  have hreports : (reports twoErrors {}).map Diagnostic.primary = [⟨0, 9, 14⟩, ⟨0, 2, 8⟩] := by
    decide +kernel
  refine ⟨hfailed, houtput, ?_, hreports, ?_⟩
  · rw [hfree, Bag.sort, List.length_mergeSort, ← List.length_map Diagnostic.primary, hreports]
    rfl
  · rw [hlimited]
    decide +kernel

end TensorLang
