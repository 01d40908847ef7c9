import Mathlib.Tactic.Common
import TensorLang.Emit.Wrapper
import TensorLang.Proofs.Emit.Lookup
import TensorLang.Proofs.Syntax.Respan

/-!
# Emitting looks at no span

Fragments keep the spans of the nodes that they come from, and nothing else is done with a span
before a failure is reported. So a tree with other spans becomes the same fragments with other spans
(`Program.fragments_respan`), and these are laid out alike (`Target.print_respan`).
-/

namespace TensorLang

/-- The same fragment with another span. -/
def Fragment.respan (φ : Span → Span) (f : Fragment) : Fragment := ⟨f.text, φ f.span⟩

/-- The same failure with other spans. -/
def EmitError.respan (φ : Span → Span) : EmitError → EmitError
  | emptyShape span => emptyShape (φ span)
  | reservedName name => reservedName (name.respan φ)
  | missingStmt => missingStmt
  | missingExpr => missingExpr

/-- The same failure with another span. -/
def MalformedOutput.respan (φ : Span → Span) (m : MalformedOutput) : MalformedOutput :=
  ⟨φ m.span, m.text, m.message⟩

/-- What was emitted with other spans. -/
def Emission.respan (φ : Span → Span) (r : Except EmitError (List Fragment)) :
    Except EmitError (List Fragment) :=
  match r with
  | .ok fs => .ok (fs.map (Fragment.respan φ))
  | .error e => .error (e.respan φ)

variable (φ : Span → Span)

theorem EmitError.message_respan (e : EmitError) : (e.respan φ).message = e.message := by
  cases e <;> rfl

theorem Fragment.map_text_respan (fs : List Fragment) :
    (fs.map (respan φ)).map text = fs.map text := by
  rw [List.map_map]
  rfl

theorem Fragment.all_respan (span : Span) (texts : List Bytes) :
    all (φ span) texts = (all span texts).map (respan φ) := by
  rw [all, all, List.map_map]
  rfl

/-! ### Expressions -/

namespace Target

theorem emitShape_respan (isFirst : Bool) (shape : List (Spanned Int64)) :
    emitShape isFirst (shape.map (Spanned.respan φ)) =
      (emitShape isFirst shape).map (Fragment.respan φ) := by
  induction shape generalizing isFirst with
  | nil => rfl
  | cons d rest ih =>
    simp only [List.map_cons, emitShape, ih, List.map_append, Spanned.respan_span,
      Spanned.respan_value, Fragment.all_respan]
    cases isFirst <;> rfl

theorem emitFill_respan (t : Target) (span : Span) (value : Spanned Int32)
    (shape : List (Spanned Int64)) (dtype : DType) :
    t.emitFill (φ span) (value.respan φ) (shape.map (Spanned.respan φ)) dtype =
      (t.emitFill span value shape dtype).map (Fragment.respan φ) := by
  simp only [emitFill, emitCall, List.map_append, emitShape_respan, Fragment.all_respan,
    Spanned.respan_value, Spanned.respan_span, apply_ite (List.map (Fragment.respan φ)),
    List.map_nil]
  rfl

theorem emitRange_respan (t : Target) (span : Span) (first last : Spanned Int32)
    (step : Option (Spanned Int32)) :
    t.emitRange (φ span) (first.respan φ) (last.respan φ) (step.map (Spanned.respan φ)) =
      (t.emitRange span first last step).map (Fragment.respan φ) := by
  cases step <;> rfl

theorem emitExpr_respan (t : Target) (e : Expr) :
    t.emitExpr (e.respan φ) = Emission.respan φ (t.emitExpr e) := by
  induction e with
  | fill span value shape dtype =>
    simp only [Expr.respan, emitExpr, List.isEmpty_map, Expr.fillDType_respan, emitFill_respan]
    split <;> rfl
  | range span first last step =>
    simp only [Expr.respan, emitExpr, emitRange_respan]
    rfl
  | var | missing => rfl
  | binary span op lhs rhs ihl ihr =>
    simp only [Expr.respan, emitExpr, ihl, ihr, Spanned.respan_span, Spanned.respan_value,
      Fragment.all_respan]
    cases t.emitExpr lhs with
    | error e => rfl
    | ok l =>
      cases t.emitExpr rhs with
      | error e => rfl
      | ok r =>
        simp only [Emission.respan, bind, Except.bind, ← List.map_append]
        split <;> rfl

/-! ### Statements -/

theorem emitStmt_respan (t : Target) (bound : List Bytes) (s : Stmt) :
    t.emitStmt bound (s.respan φ) = Emission.respan φ (t.emitStmt bound s) := by
  have hfind : (s.respan φ).names.find? (fun name => t.isReserved name.value) =
      (s.names.find? fun name => t.isReserved name.value).map (Spanned.respan φ) := by
    rw [Stmt.names_respan, List.find?_map]
    rfl
  simp only [emitStmt, hfind]
  cases s.names.find? fun name => t.isReserved name.value with
  | some name => rfl
  | none =>
    cases s with
    | eval span value =>
      simp only [Option.map_none, Stmt.respan, emitExpr_respan, Fragment.all_respan]
      cases t.emitExpr value with
      | error e => rfl
      | ok body =>
        simp only [Emission.respan, bind, Except.bind, List.map_append]
    | assign span name value =>
      simp only [Option.map_none, Stmt.respan, emitExpr_respan, Fragment.all_respan,
        Spanned.respan_span, Spanned.respan_value]
      cases t.emitExpr value with
      | error e => rfl
      | ok body =>
        simp only [Emission.respan, bind, Except.bind, List.map_append]
        rfl
    | missing => rfl

theorem firstBindings_respan (bound : List Bytes) (stmts : List Stmt) :
    firstBindings bound (stmts.map (Stmt.respan φ)) =
      (firstBindings bound stmts).map (Spanned.respan φ) := by
  fun_induction firstBindings bound stmts with
  | case1 => rfl
  | case2 bound span name value rest hbound ih =>
    simp only [List.map_cons, Stmt.respan, firstBindings, Spanned.respan_value, hbound, if_true, ih]
  | case3 bound span name value rest hbound ih =>
    simp only [List.map_cons, Stmt.respan, firstBindings, Spanned.respan_value, hbound, if_false,
      Bool.false_eq_true, ih]
  | case4 bound s rest hs ih =>
    cases s with
    | assign span name value => exact absurd rfl (hs span name value)
    | eval | missing => exact ih

theorem emitStmts_respan (t : Target) (bound : List Bytes) (stmts : List Stmt) :
    t.emitStmts bound (stmts.map (Stmt.respan φ)) =
      Emission.respan φ (t.emitStmts bound stmts) := by
  induction stmts generalizing bound with
  | nil => rfl
  | cons s rest ih =>
    have hstmt := emitStmt_respan φ t bound s
    -- the names that are bound behind the statement are the same, whichever statement it is
    cases s <;>
      simp only [List.map_cons, emitStmts, Stmt.respan, Spanned.respan_value, ih] at hstmt ⊢
    all_goals
      rw [hstmt]
      cases t.emitStmt bound _ with
      | error e => rfl
      | ok here =>
        simp only [Emission.respan, bind, Except.bind]
        cases t.emitStmts _ rest with
        | error e => rfl
        | ok more => simp only [List.map_append]

end Target

/-- **Emitting looks at no span**: other spans in the tree are other spans in the fragments, or in
the failure. -/
theorem Program.fragments_respan (p : Program) (t : Target) :
    (p.respan φ).fragments t = Emission.respan φ (p.fragments t) := by
  have huse : ∀ name : Spanned Bytes,
      Fragment.use (name.respan φ) = (Fragment.use name).map (Fragment.respan φ) :=
    fun name => Fragment.all_respan φ name.span _
  simp only [fragments, Program.respan, Target.emitStmts_respan, Target.firstBindings_respan,
    List.flatMap_map, huse]
  cases t.emitStmts [] p.stmts with
  | error e => rfl
  | ok body =>
    simp only [Emission.respan, bind, Except.bind, List.map_append, List.map_flatMap]

/-! ### Layout -/

namespace Fragment

theorem layout_respan (fs : List Fragment) : layout (fs.map (respan φ)) = layout fs := by
  induction fs with
  | nil => rfl
  | cons f rest ih => rw [List.map_cons, layout, layout, ih, List.isEmpty_map]; rfl

theorem offsets_respan (start : Nat) (fs : List Fragment) :
    offsets start (fs.map (respan φ)) = offsets start fs := by
  induction fs generalizing start with
  | nil => rfl
  | cons f rest ih => rw [List.map_cons, offsets, offsets, ih, List.isEmpty_map]; rfl

theorem lookup_respan {fs : List Fragment} (hne : fs ≠ []) (offset : Int64) :
    lookup (fs.map (respan φ)) offset = φ (lookup fs offset) := by
  have hpos : 0 < fs.length := List.length_pos_iff.mpr hne
  have hle := Search.first_le_length (fun start : Nat => (offset + 1).toInt ≤ start) (offsets 0 fs)
  rw [length_offsets] at hle
  rw [lookup, lookup, offsets_respan, List.getElem?_map, List.getElem?_eq_getElem (by omega)]
  rfl

end Fragment

namespace Target

theorem frame_respan (t : Target) (fs : List Fragment) :
    t.frame (fs.map (Fragment.respan φ)) = t.frame fs := by
  have hused : t.isUsedBy (fs.map (Fragment.respan φ)) = t.isUsedBy fs := by
    rw [isUsedBy, isUsedBy, List.any_map]
    rfl
  rw [frame, frame, hused]

theorem bodyStart_respan (t : Target) (fs : List Fragment) :
    t.bodyStart (fs.map (Fragment.respan φ)) = t.bodyStart fs := by
  rw [bodyStart, bodyStart, frame_respan]

theorem wrap_respan (t : Target) (fs : List Fragment) :
    t.wrap (fs.map (Fragment.respan φ)) = t.wrap fs := by
  rw [wrap, wrap, frame_respan, bodyStart_respan, Fragment.layout_respan]

/-- Fragments with other spans are laid out alike; a failure points at the same fragment. -/
theorem print_respan (t : Target) {fs : List Fragment} (hne : fs ≠ []) :
    t.print (fs.map (Fragment.respan φ)) =
      (t.print fs).mapError (MalformedOutput.respan φ) := by
  unfold print
  rw [wrap_respan, bodyStart_respan]
  simp only [Fragment.lookup_respan φ hne]
  generalize Emit.SourceFile.read (t.wrap fs) = file
  cases file with
  | ok file =>
    dsimp only
    generalize file.tidy = tidied
    cases tidied with
    | ok text => simp only [Except.mapError]
    | error misfit => simp only [Except.mapError, MalformedOutput.respan]
  | error misfit => simp only [Except.mapError, MalformedOutput.respan]

end Target

end TensorLang
