import TensorLang.Proofs.Syntax.Complaints
import TensorLang.Proofs.Syntax.Extension
import TensorLang.Proofs.Syntax.Completeness

/-!
# Rejected literals

A literal can be rejected in an alternative that is given up afterwards, and an optional part or a
repetition turns the rejection into a reading of nothing. None of this ever leads to a program: what
is read as a program is derived by the grammar, and the reader that follows a derivation rejects no
literal on the way (`Grammar.stmts_accepts`), also in the alternatives that it tries in vain.

So a rejected literal is always an error of the text, and it is reported
(`Program.parse_of_rejected`).
-/

namespace TensorLang

/-- If a literal was rejected, the errors are the rejected literals. -/
theorem ParseError.errors_ofLog {file : Nat} {text : Bytes} {log : List Complaint}
    (h : Complaint.rejections log ≠ []) :
    (ofLog file text log).errors = Complaint.rejections log := by
  rw [ofLog]
  cases hrejections : Complaint.rejections log with
  | nil => exact absurd hrejections h
  | cons first more => rfl

namespace Program

variable {file : Nat} {text : Bytes} {span : Span} {problem : LiteralProblem}

/-- Nothing is rejected while a program is read. -/
theorem not_mem_log_of_parse_eq_ok {p : Program} (h : parse file text = .ok p) :
    .rejected span problem ∉ (Grammar.stmts (Cursor.start file text).skipBlanks).log := by
  obtain ⟨-, ls, hlaid, hls⟩ := parse_eq_ok_iff.mp h
  obtain ⟨log, fits, hread, hmisses⟩ := Grammar.stmts_accepts hls (Grammar.passes_of_laid hlaid) rfl
  have hlog : (Grammar.stmts (Cursor.start file text).skipBlanks).log = log :=
    congrArg Reply.log hread
  rw [hlog]
  intro hmem
  exact absurd (List.all_eq_true.mp hmisses _ hmem) (by simp [Complaint.isMiss])

/-- **A rejected literal always fails the reading.** If a text is read as a program, then no literal
was rejected anywhere on the way, not even in an alternative that was tried and given up: the list
of rejected literals is empty. So if a literal is rejected, the text is refused, and the literal is
among the errors. -/
theorem parse_of_rejected (file : Nat) (text : Bytes) :
    (∀ p, parse file text = .ok p →
      Complaint.rejections (Grammar.stmts (Cursor.start file text).skipBlanks).log = []) ∧
    ∀ span problem,
      .rejected span problem ∈ (Grammar.stmts (Cursor.start file text).skipBlanks).log →
      ∃ e, parse file text = .error e ∧ .rejected span problem.message ∈ e.errors := by
  constructor
  · intro p hp
    rw [List.eq_nil_iff_forall_not_mem]
    intro e he
    obtain ⟨span, problem, hmem, -⟩ := Complaint.mem_of_rejections he
    exact not_mem_log_of_parse_eq_ok hp hmem
  · intro span problem hmem
    cases hparse : parse file text with
    | ok p => exact absurd hmem (not_mem_log_of_parse_eq_ok hparse)
    | error e =>
      obtain ⟨-, rfl⟩ := of_parse_eq_error hparse
      have hreported := Complaint.mem_rejections hmem
      refine ⟨_, rfl, ?_⟩
      rwa [ParseError.errors_ofLog (List.ne_nil_of_mem hreported)]

/-- The annotation is optional and `f16` is none; still the tensor is not read without it. -/
theorem parse_of_rejected_annotation :
    .rejected ⟨0, 7, 10⟩ (.dtype "f16".utf8) ∈
      (Grammar.stmts (Cursor.start 0 "[2; 0; f16];".utf8).skipBlanks).log ∧
    ∃ e, parse 0 "[2; 0; f16];".utf8 = .error e ∧
      .rejected ⟨0, 7, 10⟩ "unknown data type \"f16\"".utf8 ∈ e.errors := by
  have hmem : .rejected ⟨0, 7, 10⟩ (.dtype "f16".utf8) ∈
      (Grammar.stmts (Cursor.start 0 "[2; 0; f16];".utf8).skipBlanks).log := by decide +kernel
  obtain ⟨e, he, herror⟩ := (parse_of_rejected 0 "[2; 0; f16];".utf8).2 _ _ hmem
  have hmessage : (LiteralProblem.dtype "f16".utf8).message = "unknown data type \"f16\"".utf8 := by
    decide +kernel
  exact ⟨hmem, e, he, hmessage ▸ herror⟩

end Program

end TensorLang
