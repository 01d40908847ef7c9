import TensorLang.Syntax.Ast

/-!
# Trees with other spans

`respan φ` replaces every span of a tree by its image under `φ`. Erasing is the case in which all
images are the same (`Expr.erase_eq_respan`), so what is proved for all `φ` holds for trees that
agree up to spans and for trees that were moved to another file alike.
-/

namespace TensorLang

/-- The same value with another span. -/
def Spanned.respan {α : Type} (φ : Span → Span) (x : Spanned α) : Spanned α := ⟨x.value, φ x.span⟩

@[simp]
theorem Spanned.respan_value {α : Type} (φ : Span → Span) (x : Spanned α) :
    (x.respan φ).value = x.value := rfl

@[simp]
theorem Spanned.respan_span {α : Type} (φ : Span → Span) (x : Spanned α) :
    (x.respan φ).span = φ x.span := rfl

namespace Expr

/-- The same expression with other spans. -/
def respan (φ : Span → Span) : Expr → Expr
  | fill span value shape dtype =>
    fill (φ span) (value.respan φ) (shape.map (Spanned.respan φ)) (dtype.map (Spanned.respan φ))
  | range span first last step =>
    range (φ span) (first.respan φ) (last.respan φ) (step.map (Spanned.respan φ))
  | var span name => var (φ span) name
  | binary span op lhs rhs => binary (φ span) (op.respan φ) (lhs.respan φ) (rhs.respan φ)
  | missing span => missing (φ span)

theorem span_respan (φ : Span → Span) (e : Expr) : (e.respan φ).span = φ e.span := by
  cases e <;> rfl

theorem erase_eq_respan (e : Expr) : e.erase = e.respan fun _ => Span.none := by
  induction e with
  | fill | range | var | missing => rfl
  | binary span op lhs rhs ihl ihr => rw [erase, respan, ihl, ihr]; rfl

theorem readVars_respan (φ : Span → Span) (e : Expr) :
    (e.respan φ).readVars = e.readVars.map (Spanned.respan φ) := by
  induction e with
  | fill | range | var | missing => rfl
  | binary span op lhs rhs ihl ihr => rw [respan, readVars, readVars, ihl, ihr, List.map_append]

theorem length_nodes_respan (φ : Span → Span) (e : Expr) :
    (e.respan φ).nodes.length = e.nodes.length := by
  induction e with
  | fill | range | var | missing => rfl
  | binary span op lhs rhs ihl ihr =>
    simp only [respan, nodes, List.length_cons, List.length_append, ihl, ihr]

theorem fillDType_respan (φ : Span → Span) (dtype : Option (Spanned DType)) :
    fillDType (dtype.map (Spanned.respan φ)) = fillDType dtype := by
  cases dtype <;> rfl

theorem stepOf_respan (φ : Span → Span) (step : Option (Spanned Int32)) :
    stepOf (step.map (Spanned.respan φ)) = stepOf step := by
  cases step <;> rfl

end Expr

namespace Stmt

/-- The same statement with other spans. -/
def respan (φ : Span → Span) : Stmt → Stmt
  | eval span value => eval (φ span) (value.respan φ)
  | assign span name value => assign (φ span) (name.respan φ) (value.respan φ)
  | missing span => missing (φ span)

theorem erase_eq_respan (s : Stmt) : s.erase = s.respan fun _ => Span.none := by
  cases s with
  | eval span value => rw [erase, respan, value.erase_eq_respan]
  | assign span name value => rw [erase, respan, value.erase_eq_respan]; rfl
  | missing => rfl

theorem names_respan (φ : Span → Span) (s : Stmt) :
    (s.respan φ).names = s.names.map (Spanned.respan φ) := by
  cases s with
  | eval span value => exact value.readVars_respan φ
  | assign span name value => rw [respan, names, names, value.readVars_respan, List.map_cons]
  | missing => rfl

end Stmt

/-- The same program with other spans. -/
def Program.respan (φ : Span → Span) (p : Program) : Program :=
  ⟨p.stmts.map (Stmt.respan φ), φ p.span⟩

theorem Program.map_erase_eq (p : Program) :
    p.stmts.map Stmt.erase = (p.respan fun _ => Span.none).stmts :=
  List.map_congr_left fun s _ => s.erase_eq_respan

end TensorLang
