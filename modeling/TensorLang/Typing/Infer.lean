import TensorLang.Typing.Error
import TensorLang.Typing.Symbols

/-!
# Typing of expressions and programs

A product of two tensors is a batched matrix product: both need one element type and one rank of at
least two, the last axis of the left must match the last but one of the right, and the axes before
those two must hold equally many elements. They collapse into one axis of the result. A scalar
scales a tensor of the same element type.

Nothing stops at the first problem. An expression that reads an unbound name simply has no type, and
neither has an expression around it.

* `multiply` is the product rule on types.
* `Expr.infer` gives the type of an expression, what was remarked on the way, and the types of all
  its nodes.
* `Program.check` goes through the statements and binds the names whose right-hand sides have a
  type.
-/

namespace TensorLang

/-- A remark of the checker, in the order in which it was made. -/
inductive Finding where
  /-- Something worth tracing. -/
  | point (name detail : Bytes)
  /-- A type error. -/
  | error (e : TypeError)
  deriving DecidableEq, Repr

namespace Finding

/-- The type errors among the findings. -/
def errors (findings : List Finding) : List TypeError :=
  findings.filterMap fun
    | error e => some e
    | point _ _ => none

/-- What is traced about a finding. -/
def tracePoint : Finding → Bytes × Bytes
  | point name detail => (name, detail)
  | error e => ("type error".utf8, e.message)

end Finding

namespace Shape

/-- The batched matrix product of shapes, if they line up. -/
def matmul? (lhs rhs : Shape) : Option Shape :=
  match lhs.reverse, rhs.reverse with
  | lhsInner :: lhsRows :: lhsBatch, rhsColumns :: rhsInner :: rhsBatch =>
    if lhsBatch.length = rhsBatch.length ∧ lhsInner = rhsInner ∧
        numElements lhsBatch.reverse = numElements rhsBatch.reverse then
      some [numElements lhsBatch.reverse, lhsRows, rhsColumns]
    else none
  | _, _ => none

end Shape

/-- The type of a product of values of types `lhs` and `rhs`, written at the given spans. Where a
tensor is scaled, an error names the scalar's element type first. -/
def Ty.multiply (lhs : Ty) (lhsSpan : Span) (rhs : Ty) (rhsSpan : Span) : Except TypeError Ty :=
  match lhs, rhs with
  | .tensor ls ld, .tensor rs rd =>
    if ld = rd then
      match Shape.matmul? ls rs with
      | some shape => .ok (.tensor shape ld)
      | none => .error (.cannotMultiply ls rs lhsSpan rhsSpan)
    else .error (.incompatibleDTypes ld rd lhsSpan rhsSpan)
  | .tensor shape td, .scalar sd | .scalar sd, .tensor shape td =>
    if sd = td then .ok (.tensor shape td)
    else .error (.incompatibleDTypes sd td lhsSpan rhsSpan)
  | .scalar ld, .scalar rd =>
    if ld = rd then .ok (.scalar ld)
    else .error (.incompatibleDTypes ld rd lhsSpan rhsSpan)

/-- The number of steps from `first` towards `last`, rounded towards zero and never negative. A step
of zero gives none. -/
def rangeLength (first last step : Int32) : Int64 :=
  if step = 0 then 0
  else
    let n := (last.toInt - first.toInt).tdiv step.toInt
    if n < 0 then 0 else Int64.ofInt n

/-- What became of an expression. -/
structure Inference where
  /-- Its type, if it has one. -/
  ty : Option Ty
  /-- The remarks made on the way. -/
  findings : List Finding
  /-- The types of all nodes, in the order of `Expr.nodes`. -/
  nodes : List (Option Ty)
  deriving DecidableEq, Repr

namespace Expr

/-- The nodes of an expression that was not looked at have no types. -/
def untyped (e : Expr) : List (Option Ty) := e.nodes.map fun _ => none

/-- Where an operand's value was written: for a bound name the right-hand side that defined it. -/
def operandSpan (table : SymbolTable) (e : Expr) : Span :=
  match e with
  | var span name =>
    match table.lookup name with
    | some entry => entry.span
    | none => span
  | e => e.span

/-- Infers the type of an expression. The right operand of a product is not looked at if the left
one has no type. -/
def infer (table : SymbolTable) : Expr → Inference
  | fill _ _ shape dtype =>
    let ty := Ty.tensor (shape.map Spanned.value) (fillDType dtype)
    ⟨some ty, [], [some ty]⟩
  | range _ first last step =>
    let n := rangeLength first.value last.value (stepOf step)
    let ty := Ty.tensor [n] DType.ofRange
    let empty := stepOf step ≤ 0 ∨ n = 0
    let detail := Decimal.ofInt first.value.toInt ++ "..".utf8 ++ Decimal.ofInt last.value.toInt
    ⟨some ty, if empty then [.point "empty range".utf8 detail] else [], [some ty]⟩
  | var _ name =>
    match table.lookup name with
    | some entry => ⟨entry.ty, [], [entry.ty]⟩
    | none => ⟨none, [.point "unbound variable".utf8 name], [none]⟩
  | binary _ op lhs rhs =>
    let l := lhs.infer table
    if op.value = .mul then
      match l.ty with
      | none => ⟨none, l.findings, none :: (l.nodes ++ rhs.untyped)⟩
      | some lt =>
        let r := rhs.infer table
        match r.ty with
        | none => ⟨none, l.findings ++ r.findings, none :: (l.nodes ++ r.nodes)⟩
        | some rt =>
          match lt.multiply (lhs.operandSpan table) rt (rhs.operandSpan table) with
          | .ok ty => ⟨some ty, l.findings ++ r.findings, some ty :: (l.nodes ++ r.nodes)⟩
          | .error e =>
            ⟨none, l.findings ++ r.findings ++ [.error e], none :: (l.nodes ++ r.nodes)⟩
    else
      let r := rhs.infer table
      ⟨none, l.findings ++ r.findings ++ [.error (.unsupportedOperator op.value op.span)],
        none :: (l.nodes ++ r.nodes)⟩
  | missing _ => ⟨none, [], []⟩

end Expr

/-- What became of one statement. -/
structure StmtCheck where
  /-- The table behind the statement. -/
  table : SymbolTable
  /-- The remarks about the statement. -/
  findings : List Finding
  /-- The types of the nodes of its expression. -/
  nodes : List (Option Ty)
  deriving DecidableEq, Repr

namespace Stmt

/-- Checks a statement. A name is bound only if the right-hand side has a type. -/
def check (table : SymbolTable) : Stmt → StmtCheck
  | eval _ value =>
    let r := value.infer table
    ⟨table, r.findings, r.nodes⟩
  | assign _ name value =>
    let r := value.infer table
    match r.ty with
    | none =>
      ⟨table, r.findings ++ [.point "assignment without type".utf8 name.value], r.nodes⟩
    | some ty =>
      ⟨table.bind name.value (some ty) value.span,
        r.findings ++ [.point "bind".utf8 (name.value ++ ": ".utf8 ++ ty.text)], r.nodes⟩
  | missing _ => ⟨table, [], []⟩

end Stmt

/-- What the checker learned about a program. -/
structure Checked where
  /-- The table at the end. -/
  symbols : SymbolTable
  /-- All remarks in order. -/
  findings : List Finding
  /-- For each statement the types of its nodes. -/
  nodes : List (List (Option Ty))
  deriving DecidableEq, Repr

namespace Checked

/-- The type errors in the order in which they were found. -/
def errors (c : Checked) : List TypeError := Finding.errors c.findings

/-- The diagnostics about the type errors. -/
def diagnostics (c : Checked) : List Diagnostic := c.errors.map TypeError.diagnostic

end Checked

/-- Checks statements one after the other. -/
def checkStmts (table : SymbolTable) : List Stmt → Checked
  | [] => ⟨table, [], []⟩
  | s :: rest =>
    let first := s.check table
    let more := checkStmts first.table rest
    ⟨more.symbols, first.findings ++ more.findings, first.nodes :: more.nodes⟩

namespace Program

/-- Checks a program; without a program there is nothing to find. -/
def check : Option Program → Checked
  | none => ⟨SymbolTable.empty, [], []⟩
  | some p => checkStmts SymbolTable.empty p.stmts

end Program

end TensorLang
