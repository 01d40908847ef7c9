import TensorLang.Proofs.Diagnostic.Respan
import TensorLang.Proofs.Pipeline.Reports

/-!
# Running a text as another file

A run of the same text as another file makes the same output, and reports the same diagnostics with
their spans moved over (`Relocation.compileFile_map`). All spans that are reported lie inside the
file (`Relocation.coversDiagnostic_compileFile`), which is the same statement for a file that is
moved to where it is already.
-/

namespace TensorLang

/-! ### Everything reported lies inside the file -/

/-- What does not change when it is moved consists of items that do not change. -/
private theorem fixed_of_map_eq {α : Type} {f : α → α} {xs : List α} (h : xs.map f = xs) :
    ∀ x ∈ xs, f x = x := by
  have hid : xs.map f = xs.map id := by rw [h, List.map_id]
  exact List.map_inj_left.mp hid

namespace File

/-- Moves spans of the file nowhere and cuts off all others. -/
def clamp (file : File) : Relocation := .clamp file.id file.content.length

variable {file : File} {p : Program} {t : Target}

theorem respan_clamp_program (hp : Program.parse file.id file.content = .ok p) :
    p.respan file.clamp.map = p := by
  have hmap := @Relocation.parse_map file.clamp file.content rfl
  change Program.parse file.id file.content =
    ((Program.parse file.id file.content).map _).mapError _ at hmap
  rw [hp] at hmap
  exact (Except.ok.inj hmap).symm

theorem respan_clamp_errors {e : ParseError}
    (he : Program.parse file.id file.content = .error e) : e.respan file.clamp.map = e := by
  have hmap := @Relocation.parse_map file.clamp file.content rfl
  change Program.parse file.id file.content =
    ((Program.parse file.id file.content).map _).mapError _ at hmap
  rw [he] at hmap
  exact (Except.error.inj hmap).symm

theorem respan_clamp_typeErrors (hp : Program.parse file.id file.content = .ok p) :
    ∀ e ∈ (Program.check (some p)).errors, e.respan file.clamp.map = e := by
  refine fixed_of_map_eq ?_
  rw [← Checked.errors_respan, ← Program.check_respan, respan_clamp_program hp]

theorem respan_clamp_fragments (hp : Program.parse file.id file.content = .ok p) :
    Emission.respan file.clamp.map (p.fragments t) = p.fragments t := by
  rw [← Program.fragments_respan, respan_clamp_program hp]

/-- No diagnostic of a run changes when spans are cut off at the end of its file. -/
theorem respan_clamp_reported (file : File) (t : Target) :
    ReportedAll (fun d => d.respan file.clamp.map = d) file t where
  syntaxErrors := by
    intro e he s hs
    have hfixed := respan_clamp_errors he
    have hs' : s.respan file.clamp.map = s := by
      refine fixed_of_map_eq (?_ : e.errors.map _ = e.errors) s hs
      exact congrArg ParseError.errors hfixed
    rw [← Outcome.syntaxDiagnostic_respan, hs']
  typeErrors := by
    intro p hp e he
    rw [← TypeError.diagnostic_respan, respan_clamp_typeErrors hp e he]
  emitErrors := by
    intro p hp e he
    have hfixed := respan_clamp_fragments (t := t) hp
    rw [he] at hfixed
    have he' : e.respan file.clamp.map = e := Except.error.inj hfixed
    rw [← Outcome.emitDiagnostic_respan, he', respan_clamp_program hp]
  printErrors := by
    intro p hp fs hfs hne m hm
    have hfixed := respan_clamp_fragments (t := t) hp
    rw [hfs] at hfixed
    have hfs' : fs.map (Fragment.respan file.clamp.map) = fs := Except.ok.inj hfixed
    have hprint := t.print_respan file.clamp.map hne
    rw [hfs', hm] at hprint
    have hm' : m.respan file.clamp.map = m := (Except.error.inj hprint).symm
    rw [← MalformedOutput.diagnostic_respan, hm']

end File

namespace Relocation

/-- The relocation is about the text of a file. -/
structure Fits (m : Relocation) (file : File) : Prop where
  source : file.id = m.source
  size : m.size = file.content.length

variable {m : Relocation} {file : File}

theorem Fits.covers (h : m.Fits file) {s : Span} (hs : file.clamp.map s = s) : m.Covers s :=
  covers_of_clamp hs h.source.symm h.size

theorem Fits.coversDiagnostic (h : m.Fits file) {d : Diagnostic}
    (hd : d.respan file.clamp.map = d) : m.CoversDiagnostic d where
  primary := h.covers (congrArg Diagnostic.primary hd)
  notes := by
    intro n hn
    have hnotes : d.notes.map (fun n => (⟨file.clamp.map n.span, n.message⟩ : Note)) = d.notes :=
      congrArg Diagnostic.notes hd
    exact h.covers (congrArg Note.span (fixed_of_map_eq hnotes n hn))

theorem Fits.coversTypeError (h : m.Fits file) {e : TypeError}
    (he : e.respan file.clamp.map = e) : m.CoversTypeError e := by
  cases e with
  | incompatibleDTypes | cannotMultiply =>
    simp only [TypeError.respan, TypeError.incompatibleDTypes.injEq,
      TypeError.cannotMultiply.injEq, true_and] at he
    exact ⟨h.covers he.1, h.covers he.2⟩
  | unsupportedOperator =>
    simp only [TypeError.respan, TypeError.unsupportedOperator.injEq, true_and] at he
    exact h.covers he

/-- **All spans that a run reports lie inside its file.** -/
theorem coversDiagnostic_compileFile (h : m.Fits file) (o : RunOptions) :
    ∀ d ∈ (compileFile file o).bag.items, m.CoversDiagnostic d := by
  have hfixed := forall_mem_compileFile (file.respan_clamp_reported o.target) (o := o)
    (fun d hd => by rw [← Outcome.promote_respan, hd])
  exact fun d hd => h.coversDiagnostic (hfixed d hd)

/-! ### Passes over the other file -/

/-- What the passes made of the one file and of the other one. -/
structure MovedOutcome (m : Relocation) (made made' : Outcome) : Prop where
  bag : made'.bag = made.bag.transform (Diagnostic.respan m.map)
  output : made'.output = made.output

variable {file' : File} {p : Program}

theorem movedOutcome_parse (h : m.Fits file) (hid : file'.id = m.target)
    (hcontent : file'.content = file.content) (limit : Int) :
    MovedOutcome m (Outcome.parse file limit) (Outcome.parse file' limit) := by
  have hparse := @parse_map m file.content h.size
  rw [Outcome.parse, Outcome.parse, hid, hcontent, hparse, h.source]
  cases Program.parse m.source file.content with
  | ok p => exact ⟨rfl, rfl⟩
  | error e =>
    refine ⟨?_, rfl⟩
    have herrors : ((e.respan m.map).errors.map Outcome.syntaxDiagnostic) =
        (e.errors.map Outcome.syntaxDiagnostic).map (Diagnostic.respan m.map) := by
      change (e.errors.map (SyntaxError.respan m.map)).map _ = _
      rw [List.map_map, List.map_map]
      exact List.map_congr_left fun s _ => Outcome.syntaxDiagnostic_respan m.map s
    simp only [Except.map, Except.mapError, herrors, Bag.transform_foldl_push]
    rfl

theorem MovedOutcome.check {made made' : Outcome} (h : MovedOutcome m made made')
    (hcovers : ∀ e ∈ (Program.check (some p)).errors, m.CoversTypeError e) :
    MovedOutcome m (made.check p) (made'.check (p.respan m.map)) := by
  refine ⟨?_, h.output⟩
  have hfirsts := @DedupKey.firsts_map (Diagnostic.respan m.map) []
    (Program.check (some p)).diagnostics (by
      intro d hd d' hd'
      obtain ⟨e, he, rfl⟩ := List.mem_map.mp hd
      obtain ⟨e', he', rfl⟩ := List.mem_map.mp hd'
      exact key_map_iff (hcovers e he) (hcovers e' he'))
  simp only [Outcome.check, Outcome.report_eq, Program.check_respan, Checked.diagnostics_respan,
    h.bag, Bag.transform_foldl_push]
  exact congrArg (fun ds => List.foldl Bag.push _ ds) hfirsts

theorem MovedOutcome.generate {made made' : Outcome} (h : MovedOutcome m made made') (t : Target) :
    MovedOutcome m (made.generate t p) (made'.generate t (p.respan m.map)) := by
  rw [Outcome.generate, Outcome.generate, Program.fragments_respan]
  cases p.fragments t with
  | error e =>
    refine ⟨?_, h.output⟩
    simp only [Emission.respan, h.bag, Outcome.emitDiagnostic_respan, Bag.transform_push]
  | ok fs =>
    rcases eq_or_ne fs [] with rfl | hne
    · simp only [Emission.respan, List.map_nil, List.isEmpty_nil, if_true]
      exact ⟨h.bag, h.output⟩
    · have hprint := t.print_respan m.map hne
      simp only [Emission.respan, List.isEmpty_map, List.isEmpty_iff, hne, if_false]
      unfold Outcome.print
      rw [hprint]
      generalize t.print fs = printed
      cases printed with
      | ok text => exact ⟨h.bag, rfl⟩
      | error e =>
        refine ⟨?_, h.output⟩
        simp only [Except.mapError, MalformedOutput.diagnostic_respan, h.bag, Bag.transform_push]

theorem movedOutcome_runPasses (h : m.Fits file) (hid : file'.id = m.target)
    (hcontent : file'.content = file.content) (o : RunOptions) :
    MovedOutcome m (runPasses file o) (runPasses file' o) := by
  have hparsed := movedOutcome_parse h hid hcontent o.maxDiagnostics
  have hparse := @parse_map m file.content h.size
  rw [← h.source, ← hid, ← hcontent] at hparse
  cases hp : Program.parse file.id file.content with
  | error e =>
    rw [hcontent, hp] at hparse
    rw [← hcontent] at hparse
    rw [runPasses_of_error hp, runPasses_of_error hparse]
    exact hparsed
  | ok p =>
    rw [hcontent, hp] at hparse
    rw [← hcontent] at hparse
    rw [runPasses_of_ok hp, runPasses_of_ok hparse]
    have hchecked := hparsed.check (p := p) fun e he =>
      h.coversTypeError (File.respan_clamp_typeErrors hp e he)
    cases o.goal with
    | parse => exact hparsed
    | check => exact hchecked
    | generate => exact hchecked.generate o.target

/-- **A run of the same text as another file** makes the same output and reports the same
diagnostics, with their spans moved over. -/
theorem compileFile_map (h : m.Fits file) (hid : file'.id = m.target)
    (hcontent : file'.content = file.content) (o : RunOptions) :
    (compileFile file' o).bag = (compileFile file o).bag.transform (Diagnostic.respan m.map) ∧
      (compileFile file' o).output = (compileFile file o).output := by
  obtain ⟨hbag, houtput⟩ := movedOutcome_runPasses h hid hcontent o
  have hreported := (file.respan_clamp_reported o.target).runPasses (o := o)
  have hsort : (runPasses file' o).bag.sort =
      (runPasses file o).bag.sort.transform (Diagnostic.respan m.map) := by
    rw [hbag, Bag.transform_sort fun d hd e he => ?_]
    exact keyLe_map (h.coversDiagnostic (hreported d hd)) (h.coversDiagnostic (hreported e he))
  refine ⟨?_, houtput⟩
  rw [compileFile_eq, compileFile_eq, Outcome.settle, Outcome.settle, hsort]
  cases o.warningsAsErrors with
  | false => rfl
  | true =>
    simp only [if_true, Bag.transform, List.map_map]
    congr 1
    exact List.map_congr_left fun d _ => Outcome.promote_respan m.map d

end Relocation

end TensorLang
