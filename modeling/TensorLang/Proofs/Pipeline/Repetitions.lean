import Mathlib.Data.List.Dedup
import TensorLang.Proofs.Diagnostic.Repetitions
import TensorLang.Proofs.Pipeline.Truncation
import TensorLang.Proofs.Typing.UseSites

/-!
# Which type errors are reported

A type error is reported unless one that looks the same was reported before. Errors look the same
only if they are about the same places (`TypeError.places_eq_of_key_eq`), and then they are the
same. So a run that checks a file reports every type error once (`executeRun_check_reports`).

That is not the same as one report for every use: the place of a name is the right-hand side that it
has its value from, and a product of names that is wrong at one place is wrong in the same words at
the next one. The second of them is lost exactly if both operands are names in both products and
have the same values there (`Repeats`).
-/

namespace TensorLang

/-! ### What tells errors apart -/

/-- Errors that look the same are about the same places. -/
theorem TypeError.places_eq_of_key_eq {e e' : TypeError}
    (h : DedupKey.ofDiagnostic e.diagnostic = DedupKey.ofDiagnostic e'.diagnostic) :
    e.places = e'.places := by
  have hnote : ∀ {a b : Span} {message : Bytes},
      DedupKey.notesText [⟨a, message⟩] = DedupKey.notesText [⟨b, message⟩] → a = b := by
    intro a b message htext
    simp only [DedupKey.notesText, List.flatMap_cons, List.flatMap_nil, List.append_nil,
      List.append_cancel_right_eq] at htext
    exact Span.text_injective htext
  cases e <;> cases e' <;> simp only [DedupKey.ofDiagnostic, DedupKey.mk.injEq] at h
  -- errors of the same kind have a note in the same words
  case incompatibleDTypes.incompatibleDTypes | cannotMultiply.cannotMultiply =>
    obtain ⟨-, -, hprimary, -, hnotes⟩ := h
    exact Prod.ext hprimary (hnote hnotes)
  case unsupportedOperator.unsupportedOperator =>
    obtain ⟨-, -, hprimary, -⟩ := h
    exact Prod.ext hprimary hprimary
  all_goals
    obtain ⟨hcode, -⟩ := h
    cases hcode

/-! ### The first of their kind -/

namespace DedupKey

/-- What is kept is told apart, also from what was seen before. -/
theorem nodup_firsts (seen : List DedupKey) (ds : List Diagnostic) :
    ((firsts seen ds).map ofDiagnostic).Nodup ∧
      ∀ d ∈ firsts seen ds, ofDiagnostic d ∉ seen := by
  fun_induction firsts seen ds with
  | case1 => exact ⟨List.nodup_nil, fun f hf => absurd hf List.not_mem_nil⟩
  | case2 seen d rest _ ih => exact ih
  | case3 seen d rest hnew ih =>
    obtain ⟨hnodup, hfresh⟩ := ih
    rw [List.contains_iff_mem] at hnew
    refine ⟨?_, fun f hf => ?_⟩
    · rw [List.map_cons, List.nodup_cons]
      refine ⟨fun hmem => ?_, hnodup⟩
      obtain ⟨f, hf, hkey⟩ := List.mem_map.mp hmem
      exact hfresh f hf (hkey ▸ List.mem_cons_self)
    · rcases List.mem_cons.mp hf with rfl | hf
      · exact hnew
      · exact fun hmem => hfresh f hf (List.mem_cons_of_mem _ hmem)

/-- For everything that is reported, something that looks the same is kept. -/
theorem exists_mem_firsts (seen : List DedupKey) {ds : List Diagnostic} {d : Diagnostic}
    (hd : d ∈ ds) :
    ofDiagnostic d ∈ seen ∨ ∃ f ∈ firsts seen ds, ofDiagnostic f = ofDiagnostic d := by
  fun_induction firsts seen ds with
  | case1 => cases hd
  | case2 seen f rest hseen ih =>
    rcases List.mem_cons.mp hd with rfl | hd
    · exact .inl (List.contains_iff_mem.mp hseen)
    · exact ih hd
  | case3 seen f rest hnew ih =>
    rcases List.mem_cons.mp hd with rfl | hd
    · exact .inr ⟨d, List.mem_cons_self, rfl⟩
    · rcases ih hd with hseen | ⟨g, hg, hkey⟩
      · rcases List.mem_cons.mp hseen with hsame | hseen
        · exact .inr ⟨f, List.mem_cons_self, hsame.symm⟩
        · exact .inl hseen
      · exact .inr ⟨g, List.mem_cons_of_mem _ hg, hkey⟩

end DedupKey

/-! ### Runs that check -/

/-- **Every type error is reported once.** -/
theorem typeReports_perm {file : Nat} {text : Bytes} {p : Program}
    (hp : Program.parse file text = .ok p) :
    (typeReports p).Perm ((Program.check (some p)).errors.dedup.map TypeError.diagnostic) := by
  obtain ⟨-, hsentence⟩ := Program.parse_eq_ok_iff.mp hp
  have hapart : ∀ e ∈ (Program.check (some p)).errors, ∀ e' ∈ (Program.check (some p)).errors,
      DedupKey.ofDiagnostic e.diagnostic = DedupKey.ofDiagnostic e'.diagnostic → e = e' :=
    fun e he e' he' hkey =>
      hsentence.error_eq_of_places he he' (TypeError.places_eq_of_key_eq hkey)
  have hkept : (typeReports p).Nodup := (DedupKey.nodup_firsts [] _).1.of_map _
  have hdistinct :
      ((Program.check (some p)).errors.dedup.map TypeError.diagnostic).Nodup :=
    (List.nodup_dedup _).map_on fun e he e' he' hsame =>
      hapart e (List.mem_dedup.mp he) e' (List.mem_dedup.mp he')
        (congrArg DedupKey.ofDiagnostic hsame)
  refine (List.perm_ext_iff_of_nodup hkept hdistinct).mpr fun d => ⟨fun hd => ?_, fun hd => ?_⟩
  · obtain ⟨e, he, rfl⟩ := List.mem_map.mp (DedupKey.mem_of_firsts hd)
    exact List.mem_map_of_mem (List.mem_dedup.mpr he)
  · obtain ⟨e, he, rfl⟩ := List.mem_map.mp hd
    have he := List.mem_dedup.mp he
    have hreported : e.diagnostic ∈ (Program.check (some p)).errors.map TypeError.diagnostic :=
      List.mem_map_of_mem he
    rcases DedupKey.exists_mem_firsts [] hreported with hseen | ⟨f, hf, hkey⟩
    · cases hseen
    · obtain ⟨e', he', rfl⟩ := List.mem_map.mp (DedupKey.mem_of_firsts hf)
      rw [hapart e' he' e he hkey] at hf
      exact hf

/-- **What a run that checks a file reports.** The bag holds every type error once, so an error is
missing from it exactly if names with the same values are multiplied in two statements. -/
theorem executeRun_check_reports (session : Trace.Session) (around : Nat) (file : File)
    (o : RunOptions) (p : Program) (hgoal : o.goal = .check) (hlimit : o.maxDiagnostics ≤ 0)
    (htimings : o.timings = false) (hp : Program.parse file.id file.content = .ok p) :
    let r := (executeRun session around none file o).result
    r.checked = some (Program.check (some p)) ∧
      r.bag.items.Perm
        ((Program.check (some p)).errors.dedup.map TypeError.diagnostic) ∧
      (r.bag.items.length = (Program.check (some p)).errors.length ↔ ¬ Repeats p.stmts) := by
  intro r
  obtain ⟨-, hsentence⟩ := Program.parse_eq_ok_iff.mp hp
  have hpasses : runPasses file o = (Outcome.parse file o.maxDiagnostics).check p := by
    rw [runPasses_of_ok hp, hgoal]
  have hreports : reports file o = typeReports p := by simp only [reports, hp, hgoal]
  have hbag : r.bag.items.Perm (typeReports p) := by
    have hsorted := bag_executeRun_none session around file o htimings
    rw [kept, if_neg (Int.not_lt.mpr hlimit), hreports] at hsorted
    rw [hsorted]
    exact List.mergeSort_perm _ _
  have hperm := hbag.trans (typeReports_perm hp)
  refine ⟨congrArg Outcome.checked hpasses, hperm, ?_⟩
  rw [hperm.length_eq, List.length_map, ← hsentence.nodup_errors_iff]
  exact ⟨fun hlength => List.dedup_eq_self.mp ((List.dedup_sublist _).eq_of_length hlength),
    fun hnodup => congrArg List.length hnodup.dedup⟩

private def fileWith (text : String) : File := ⟨0, "m.tsa".utf8, text.utf8, 0⟩

/-- The name is bound again between the two products, so both are reported. -/
theorem executeRun_check_reports_rebound :
    ∃ p, Program.parse 0 "a=[0..3];a*a;a=[0..3];a*a;".utf8 = .ok p ∧ ¬ Repeats p.stmts ∧
      ((executeRun { tracer := .silent } 0 none (fileWith "a=[0..3];a*a;a=[0..3];a*a;")
        { goal := .check }).result.bag.items.length = 2) := by
  have herrors : (Program.parse 0 "a=[0..3];a*a;a=[0..3];a*a;".utf8).map
      (fun p => ((Program.check (some p)).errors.length,
        (Program.check (some p)).errors.dedup.length)) = .ok (2, 2) := by
    decide +kernel
  cases hp : Program.parse 0 "a=[0..3];a*a;a=[0..3];a*a;".utf8 with
  | error => rw [hp] at herrors; cases herrors
  | ok p =>
    rw [hp, Except.map, Except.ok.injEq, Prod.mk.injEq] at herrors
    obtain ⟨-, hperm, hiff⟩ := executeRun_check_reports { tracer := .silent } 0
      (fileWith "a=[0..3];a*a;a=[0..3];a*a;") { goal := .check } p rfl (by decide) rfl hp
    have hlength := hperm.length_eq
    rw [List.length_map, herrors.2] at hlength
    exact ⟨p, rfl, hiff.mp (hlength.trans herrors.1.symm), hlength⟩

/-- Two products of a name with itself are wrong, and one of them is reported. -/
theorem executeRun_check_loses_error :
    ∃ c, (executeRun { tracer := .silent } 0 none (fileWith "a=[0..3];a*a;a*a;")
        { goal := .check }).result.checked = some c ∧ c.errors.length = 2 ∧
      (executeRun { tracer := .silent } 0 none (fileWith "a=[0..3];a*a;a*a;")
        { goal := .check }).result.bag.items.length = 1 := by
  have hchecked : ((executeRun { tracer := .silent } 0 none (fileWith "a=[0..3];a*a;a*a;")
      { goal := .check }).result.checked.map fun c => c.errors.length) = some 2 := by
    decide +kernel
  obtain ⟨c, hc, herrors⟩ := Option.map_eq_some_iff.mp hchecked
  exact ⟨c, hc, herrors, by decide +kernel⟩

end TensorLang
