import TensorLang.Proofs.Diagnostic.Bag
import TensorLang.Proofs.Emit.Respan
import TensorLang.Proofs.Syntax.RelocatedParse
import TensorLang.Proofs.Typing.Respan

/-!
# Diagnostics in another file

The diagnostics of all passes are made from errors whose spans they copy, so they move with them.
Moving the diagnostics of one file to another one keeps apart what was apart and changes no order,
because file numbers come first in the order and are the same in all of them.
-/

namespace TensorLang

/-- The same diagnostic with other spans. -/
def Diagnostic.respan (φ : Span → Span) (d : Diagnostic) : Diagnostic :=
  { d with primary := φ d.primary, notes := d.notes.map fun n => ⟨φ n.span, n.message⟩ }

variable (φ : Span → Span)

theorem Outcome.syntaxDiagnostic_respan (e : SyntaxError) :
    syntaxDiagnostic (e.respan φ) = (syntaxDiagnostic e).respan φ := by
  cases e with
  | mismatch span expected found => rfl
  | rejected span message => cases message <;> rfl

theorem TypeError.diagnostic_respan (e : TypeError) :
    (e.respan φ).diagnostic = e.diagnostic.respan φ := by
  cases e <;> rfl

theorem Checked.diagnostics_respan (c : Checked) :
    (c.respan φ).diagnostics = c.diagnostics.map (Diagnostic.respan φ) := by
  rw [diagnostics, diagnostics, errors_respan, List.map_map, List.map_map]
  exact List.map_congr_left fun e _ => e.diagnostic_respan φ

theorem Outcome.emitDiagnostic_respan (p : Program) (e : EmitError) :
    emitDiagnostic (p.respan φ) (e.respan φ) = (emitDiagnostic p e).respan φ := by
  cases e <;> rfl

theorem MalformedOutput.diagnostic_respan (m : MalformedOutput) :
    (m.respan φ).diagnostic = m.diagnostic.respan φ := rfl

theorem Outcome.promote_respan (d : Diagnostic) :
    promote (d.respan φ) = (promote d).respan φ := by
  have hsame : (d.respan φ).severity = d.severity := rfl
  rw [promote, promote, hsame]
  cases d.severity == .warning <;> rfl

namespace Relocation

variable (m : Relocation)

/-- Diagnostics about the file from which spans are moved. -/
structure CoversDiagnostic (d : Diagnostic) : Prop where
  primary : m.Covers d.primary
  notes : ∀ n ∈ d.notes, m.Covers n.span

/-- Type errors about the file from which spans are moved. -/
def CoversTypeError : TypeError → Prop
  | .incompatibleDTypes _ _ lhsSpan rhsSpan | .cannotMultiply _ _ lhsSpan rhsSpan =>
    m.Covers lhsSpan ∧ m.Covers rhsSpan
  | .unsupportedOperator _ span => m.Covers span

variable {m}

/-- Notes of one file that are written out alike are so in the other file, too. -/
private theorem notesText_map_iff {s t : Span} (hs : m.Covers s) (ht : m.Covers t)
    (message : Bytes) :
    DedupKey.notesText [⟨m.map s, message⟩] = DedupKey.notesText [⟨m.map t, message⟩] ↔
      DedupKey.notesText [⟨s, message⟩] = DedupKey.notesText [⟨t, message⟩] := by
  rw [hs.map_eq, ht.map_eq]
  simp only [DedupKey.notesText, List.flatMap_cons, Span.text, hs.file, ht.file, List.append_assoc,
    List.append_cancel_left_eq]

/-- Type errors that are told apart stay apart, and others do not come apart. -/
theorem key_map_iff {e e' : TypeError} (he : m.CoversTypeError e) (he' : m.CoversTypeError e') :
    DedupKey.ofDiagnostic (e.diagnostic.respan m.map) =
        DedupKey.ofDiagnostic (e'.diagnostic.respan m.map) ↔
      DedupKey.ofDiagnostic e.diagnostic = DedupKey.ofDiagnostic e'.diagnostic := by
  cases e <;> cases e' <;> simp only [DedupKey.ofDiagnostic, DedupKey.mk.injEq]
  -- errors of the same kind have the same number of notes, and equal texts in them
  case incompatibleDTypes.incompatibleDTypes | cannotMultiply.cannotMultiply =>
    exact and_congr_right fun _ => and_congr_right fun _ =>
      and_congr (he.1.map_inj he'.1) (and_congr_right fun _ => notesText_map_iff he.2 he'.2 _)
  case unsupportedOperator.unsupportedOperator =>
    exact and_congr_right fun _ => and_congr_right fun _ =>
      and_congr (he.map_inj he') Iff.rfl
  all_goals
    refine iff_of_false ?_ ?_ <;> rintro ⟨hcode, -⟩ <;> cases hcode

/-- Diagnostics of one file are in the same order in the other file. -/
theorem keyLe_map {d e : Diagnostic} (hd : m.CoversDiagnostic d) (he : m.CoversDiagnostic e) :
    Bag.keyLe (Bag.sortKey d) (Bag.sortKey e) =
      Bag.keyLe (Bag.sortKey (d.respan m.map)) (Bag.sortKey (e.respan m.map)) := by
  simp only [Bag.sortKey, Diagnostic.respan, hd.primary.map_eq, he.primary.map_eq, hd.primary.file,
    he.primary.file, Bag.keyLe, Int.lt_irrefl, decide_false, Bool.false_or, BEq.rfl, Bool.true_and]

end Relocation

end TensorLang
