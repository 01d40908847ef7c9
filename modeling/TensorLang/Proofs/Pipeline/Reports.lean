import TensorLang.Proofs.Diagnostic.Bag

/-!
# What a run reports

Diagnostics of a run come from four places: syntax errors, type errors, a failure to emit and a
failure to lay out. `forall_mem_compileFile` goes through them, and `compileFile_bag` says that the
limit of a run is kept.
-/

namespace TensorLang

/-! ### The passes -/

/-- The passes over a file, before the diagnostics are sorted. -/
def runPasses (file : File) (o : RunOptions) : Outcome :=
  let parsed := Outcome.parse file o.maxDiagnostics
  match parsed.program with
  | none => parsed
  | some p =>
    match o.goal with
    | .parse => parsed
    | .check => parsed.check p
    | .generate => (parsed.check p).generate o.target p

theorem compileFile_eq (file : File) (o : RunOptions) :
    compileFile file o = (runPasses file o).settle o.warningsAsErrors := rfl

variable {file : File} {o : RunOptions} {p : Program}

theorem runPasses_of_error {e : ParseError}
    (he : Program.parse file.id file.content = .error e) :
    runPasses file o = Outcome.parse file o.maxDiagnostics := by
  have hnone : (Outcome.parse file o.maxDiagnostics).program = none := by
    simp only [Outcome.parse, he]
  rw [runPasses, hnone]

theorem runPasses_of_ok (hp : Program.parse file.id file.content = .ok p) :
    runPasses file o =
      match o.goal with
      | .parse => Outcome.parse file o.maxDiagnostics
      | .check => (Outcome.parse file o.maxDiagnostics).check p
      | .generate => ((Outcome.parse file o.maxDiagnostics).check p).generate o.target p := by
  have hsome : (Outcome.parse file o.maxDiagnostics).program = some p := by
    simp only [Outcome.parse, hp]
  rw [runPasses, hsome]

/-- What holds for the diagnostics that the passes make holds for all that are reported. -/
structure ReportedAll (P : Diagnostic → Prop) (file : File) (t : Target) : Prop where
  syntaxErrors : ∀ e, Program.parse file.id file.content = .error e →
    ∀ s ∈ e.errors, P (Outcome.syntaxDiagnostic s)
  typeErrors : ∀ p, Program.parse file.id file.content = .ok p →
    ∀ e ∈ (Program.check (some p)).errors, P e.diagnostic
  emitErrors : ∀ p, Program.parse file.id file.content = .ok p →
    ∀ e, p.fragments t = .error e → P (Outcome.emitDiagnostic p e)
  printErrors : ∀ p, Program.parse file.id file.content = .ok p →
    ∀ fs, p.fragments t = .ok fs → fs ≠ [] → ∀ m, t.print fs = .error m → P m.diagnostic

namespace ReportedAll

variable {P : Diagnostic → Prop} {file : File} {o : RunOptions}

theorem parse (h : ReportedAll P file o.target) :
    ∀ d ∈ (Outcome.parse file o.maxDiagnostics).bag.items, P d := by
  intro d hd
  unfold Outcome.parse at hd
  split at hd
  · cases hd
  · rename_i e he
    rcases Bag.mem_foldl_push hd with hd | hd
    · cases hd
    · obtain ⟨s, hs, rfl⟩ := List.mem_map.mp hd
      exact h.syntaxErrors e he s hs

theorem check (h : ReportedAll P file o.target) {p : Program}
    (hp : Program.parse file.id file.content = .ok p) {made : Outcome}
    (hmade : ∀ d ∈ made.bag.items, P d) : ∀ d ∈ (made.check p).bag.items, P d := by
  intro d hd
  rw [Outcome.check, Outcome.report_eq] at hd
  rcases Bag.mem_foldl_push hd with hd | hd
  · exact hmade d hd
  · obtain ⟨e, he, rfl⟩ := List.mem_map.mp (DedupKey.mem_of_firsts hd)
    exact h.typeErrors p hp e he

theorem generate (h : ReportedAll P file o.target) {p : Program}
    (hp : Program.parse file.id file.content = .ok p) {made : Outcome}
    (hmade : ∀ d ∈ made.bag.items, P d) :
    ∀ d ∈ (made.generate o.target p).bag.items, P d := by
  intro d hd
  unfold Outcome.generate at hd
  split at hd
  · rename_i e he
    rcases Bag.mem_push hd with hd | rfl
    · exact hmade d hd
    · exact h.emitErrors p hp e he
  · rename_i fs hfs
    simp only at hd
    split at hd
    · exact hmade d hd
    · rename_i hne
      unfold Outcome.print at hd
      split at hd
      · exact hmade d hd
      · rename_i m hm
        rcases Bag.mem_push hd with hd | rfl
        · exact hmade d hd
        · exact h.printErrors p hp fs hfs (by simpa using hne) m hm

theorem runPasses (h : ReportedAll P file o.target) :
    ∀ d ∈ (TensorLang.runPasses file o).bag.items, P d := by
  cases hp : Program.parse file.id file.content with
  | error e =>
    rw [runPasses_of_error hp]
    exact h.parse
  | ok p =>
    rw [runPasses_of_ok hp]
    cases o.goal with
    | parse => exact h.parse
    | check => exact h.check hp h.parse
    | generate => exact h.generate hp (h.check hp h.parse)

end ReportedAll

/-- **Everything that a run reports** is made by one of its passes, up to promotion. -/
theorem forall_mem_compileFile {P : Diagnostic → Prop} (h : ReportedAll P file o.target)
    (hpromote : ∀ d, P d → P (Outcome.promote d)) :
    ∀ d ∈ (compileFile file o).bag.items, P d := by
  intro d hd
  rw [compileFile_eq, Outcome.settle] at hd
  cases hwae : o.warningsAsErrors with
  | false =>
    simp only [hwae, Bool.false_eq_true, if_false] at hd
    exact h.runPasses d (Bag.mem_sort.mp hd)
  | true =>
    simp only [hwae, if_true, Bag.transform] at hd
    obtain ⟨e, he, rfl⟩ := List.mem_map.mp hd
    exact hpromote e (h.runPasses e (Bag.mem_sort.mp he))

/-! ### Limits -/

theorem Outcome.parse_bag (file : File) (limit : Int) :
    (Outcome.parse file limit).bag.Fits ∧ (Outcome.parse file limit).bag.limit = limit := by
  unfold Outcome.parse
  split
  · exact ⟨Bag.fits_empty limit, rfl⟩
  · exact ⟨(Bag.fits_empty limit).foldl_push _, Bag.foldl_push_limit _ _⟩

theorem Outcome.check_bag {made : Outcome} (h : made.bag.Fits) (p : Program) :
    (made.check p).bag.Fits ∧ (made.check p).bag.limit = made.bag.limit := by
  rw [Outcome.check, Outcome.report_eq]
  exact ⟨h.foldl_push _, Bag.foldl_push_limit _ _⟩

theorem Outcome.generate_bag {made : Outcome} (h : made.bag.Fits) (t : Target) (p : Program) :
    (made.generate t p).bag.Fits ∧ (made.generate t p).bag.limit = made.bag.limit := by
  unfold Outcome.generate
  split
  · exact ⟨h.push _, Bag.push_limit _ _⟩
  · simp only
    split
    · exact ⟨h, rfl⟩
    · unfold Outcome.print
      split
      · exact ⟨h, rfl⟩
      · exact ⟨h.push _, Bag.push_limit _ _⟩

/-- The bag of a run has the limit that was asked for and keeps it. -/
theorem compileFile_bag (file : File) (o : RunOptions) :
    (compileFile file o).bag.Fits ∧ (compileFile file o).bag.limit = o.maxDiagnostics := by
  have hpasses : (runPasses file o).bag.Fits ∧ (runPasses file o).bag.limit = o.maxDiagnostics := by
    obtain ⟨hfits, hlimit⟩ := Outcome.parse_bag file o.maxDiagnostics
    cases hp : Program.parse file.id file.content with
    | error e =>
      rw [runPasses_of_error hp]
      exact ⟨hfits, hlimit⟩
    | ok p =>
      obtain ⟨hfits', hlimit'⟩ := Outcome.check_bag hfits p
      rw [runPasses_of_ok hp]
      cases o.goal with
      | parse => exact ⟨hfits, hlimit⟩
      | check => exact ⟨hfits', hlimit'.trans hlimit⟩
      | generate =>
        obtain ⟨hfits'', hlimit''⟩ := Outcome.generate_bag hfits' o.target p
        exact ⟨hfits'', hlimit''.trans (hlimit'.trans hlimit)⟩
  rw [compileFile_eq, Outcome.settle]
  cases o.warningsAsErrors with
  | false => exact ⟨hpasses.1.sort, hpasses.2⟩
  | true => exact ⟨hpasses.1.sort.transform _, hpasses.2⟩

/-! ### Timings -/

/-- The timings of a file as a diagnostic. -/
def RunResult.timingsOf (t : Timer) (file : File) : Diagnostic :=
  { t.diagnostic ⟨file.id, 0, 0⟩ with
    message := (t.diagnostic ⟨file.id, 0, 0⟩).message ++ " - ".utf8 ++ file.path }

/-- Timings are added behind everything else. A bag that is full is made larger by one, and then it
is full again. -/
theorem RunResult.addTimings_eq (bag : Bag) (t : Timer) (file : File) :
    addTimings bag t file =
      ⟨bag.items ++ [timingsOf t file],
        if bag.isFull then (bag.items.length + 1 : Nat) else bag.limit⟩ := by
  unfold addTimings Bag.add
  cases hfull : bag.isFull with
  | false => rfl
  | true =>
    simp only [Bag.isFull, Bool.and_eq_true, decide_eq_true_eq] at hfull
    -- the timings go into a bag of their own, and merging the two makes room for them
    have hpush : (Bag.empty (bag.items.length + 1 : Nat)).push (timingsOf t file) =
        ⟨[timingsOf t file], (bag.items.length + 1 : Nat)⟩ :=
      @Bag.foldl_push_eq [timingsOf t file] (Bag.empty (bag.items.length + 1 : Nat)) fun _ => by
        simp only [Bag.empty, List.length_nil, List.length_singleton]
        omega
    have hmax : max bag.limit (bag.items.length + 1 : Nat) = (bag.items.length + 1 : Nat) := by
      omega
    change bag.merge ((Bag.empty (bag.items.length + 1 : Nat)).push (timingsOf t file)) = _
    rw [hpush, Bag.merge, if_pos hfull.1, List.length_singleton, hmax]
    rfl

end TensorLang
