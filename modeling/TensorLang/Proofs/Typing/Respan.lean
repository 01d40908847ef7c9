import Mathlib.Tactic.Common
import TensorLang.Proofs.Syntax.Respan
import TensorLang.Typing.Infer

/-!
# Checking looks at no span

The checker copies spans into its findings and its table and does nothing else with them. So
checking a tree with other spans gives the same findings with other spans
(`Program.check_respan`).
-/

namespace TensorLang

/-! ### Spans of findings -/

/-- The same table with other spans. -/
def SymbolTable.respan (φ : Span → Span) (t : SymbolTable) : SymbolTable :=
  ⟨t.entries.map fun e => (e.1, { e.2 with span := φ e.2.span })⟩

/-- The same error with other spans. -/
def TypeError.respan (φ : Span → Span) : TypeError → TypeError
  | incompatibleDTypes lhs rhs lhsSpan rhsSpan =>
    incompatibleDTypes lhs rhs (φ lhsSpan) (φ rhsSpan)
  | cannotMultiply lhs rhs lhsSpan rhsSpan => cannotMultiply lhs rhs (φ lhsSpan) (φ rhsSpan)
  | unsupportedOperator op span => unsupportedOperator op (φ span)

/-- The same finding with other spans. -/
def Finding.respan (φ : Span → Span) : Finding → Finding
  | point name detail => point name detail
  | error e => error (e.respan φ)

/-- The same inference with other spans. -/
def Inference.respan (φ : Span → Span) (i : Inference) : Inference :=
  ⟨i.ty, i.findings.map (Finding.respan φ), i.nodes⟩

/-- The same knowledge with other spans. -/
def Checked.respan (φ : Span → Span) (c : Checked) : Checked :=
  ⟨c.symbols.respan φ, c.findings.map (Finding.respan φ), c.nodes⟩

variable (φ : Span → Span)

theorem TypeError.message_respan (e : TypeError) : (e.respan φ).message = e.message := by
  cases e <;> rfl

theorem TypeError.code_respan (e : TypeError) : (e.respan φ).code = e.code := by
  cases e <;> rfl

theorem Checked.errors_respan (c : Checked) :
    (c.respan φ).errors = c.errors.map (TypeError.respan φ) := by
  simp only [errors, respan, Finding.errors, List.filterMap_map, List.map_filterMap]
  congr 1
  funext f
  cases f <;> rfl

namespace SymbolTable

theorem lookup_respan (t : SymbolTable) (name : Bytes) :
    (t.respan φ).lookup name =
      (t.lookup name).map fun e => { e with span := φ e.span } := by
  obtain ⟨entries⟩ := t
  simp only [lookup, respan]
  induction entries with
  | nil => rfl
  | cons e rest ih =>
    rw [List.map_cons, List.lookup_cons, List.lookup_cons, ih]
    cases name == e.1 <;> rfl

theorem bind_respan (t : SymbolTable) (name : Bytes) (ty : Option Ty) (span : Span) :
    (t.respan φ).bind name ty (φ span) = (t.bind name ty span).respan φ := by
  simp only [bind, respan, List.map_cons, List.filter_map]
  rfl

end SymbolTable

/-! ### Expressions -/

theorem Ty.multiply_respan (lhs rhs : Ty) (lhsSpan rhsSpan : Span) :
    lhs.multiply (φ lhsSpan) rhs (φ rhsSpan) =
      (lhs.multiply lhsSpan rhs rhsSpan).mapError (TypeError.respan φ) := by
  unfold multiply
  split <;> split <;> try rfl
  split <;> rfl

namespace Expr

theorem operandSpan_respan (t : SymbolTable) (e : Expr) :
    (e.respan φ).operandSpan (t.respan φ) = φ (e.operandSpan t) := by
  cases e with
  | var span name =>
    simp only [respan, operandSpan, SymbolTable.lookup_respan]
    cases t.lookup name <;> rfl
  | fill | range | binary | missing => rfl

theorem untyped_respan (e : Expr) : (e.respan φ).untyped = e.untyped := by
  rw [untyped, untyped, List.map_const', List.map_const', length_nodes_respan]

theorem infer_respan (t : SymbolTable) (e : Expr) :
    (e.respan φ).infer (t.respan φ) = (e.infer t).respan φ := by
  induction e with
  | fill span value shape dtype =>
    simp only [respan, infer, fillDType_respan, List.map_map]
    rfl
  | range span first last step =>
    simp only [respan, infer, stepOf_respan, Spanned.respan_value, Inference.respan]
    split <;> rfl
  | var span name =>
    simp only [respan, infer, SymbolTable.lookup_respan]
    cases t.lookup name <;> rfl
  | missing => rfl
  | binary span op lhs rhs ihl ihr =>
    have hl : ((lhs.infer t).respan φ).ty = (lhs.infer t).ty := rfl
    have hr : ((rhs.infer t).respan φ).ty = (rhs.infer t).ty := rfl
    simp only [respan, infer, ihl, ihr, hl, hr, Spanned.respan_value, Spanned.respan_span,
      operandSpan_respan, untyped_respan]
    by_cases hop : op.value = .mul
    · simp only [hop, if_true]
      cases (lhs.infer t).ty with
      | none => rfl
      | some lt =>
        cases (rhs.infer t).ty with
        | none => simp only [Inference.respan, List.map_append]
        | some rt =>
          simp only [Ty.multiply_respan]
          cases lt.multiply (lhs.operandSpan t) rt (rhs.operandSpan t) with
          | ok ty => simp only [Except.mapError, Inference.respan, List.map_append]
          | error e =>
            simp only [Except.mapError, Inference.respan, List.map_append]
            rfl
    · simp only [hop, if_false, Inference.respan, List.map_append]
      rfl

end Expr

/-! ### Programs -/

theorem Stmt.check_respan (t : SymbolTable) (s : Stmt) :
    (s.respan φ).check (t.respan φ) =
      ⟨(s.check t).table.respan φ, (s.check t).findings.map (Finding.respan φ),
        (s.check t).nodes⟩ := by
  cases s with
  | eval span value => simp only [respan, check, Expr.infer_respan, Inference.respan]
  | assign span name value =>
    simp only [respan, check, Expr.infer_respan, Inference.respan, Spanned.respan_value,
      Expr.span_respan]
    cases (value.infer t).ty with
    | none => simp only [List.map_append]; rfl
    | some ty => simp only [List.map_append, SymbolTable.bind_respan]; rfl
  | missing => rfl

theorem checkStmts_respan (t : SymbolTable) (stmts : List Stmt) :
    checkStmts (t.respan φ) (stmts.map (Stmt.respan φ)) = (checkStmts t stmts).respan φ := by
  induction stmts generalizing t with
  | nil => rfl
  | cons s rest ih =>
    simp only [List.map_cons, checkStmts, Stmt.check_respan, ih, Checked.respan, List.map_append]

/-- **Checking looks at no span**: other spans in the tree are other spans in what was found. -/
theorem Program.check_respan (p : Program) :
    check (some (p.respan φ)) = (check (some p)).respan φ :=
  checkStmts_respan φ SymbolTable.empty p.stmts

end TensorLang
