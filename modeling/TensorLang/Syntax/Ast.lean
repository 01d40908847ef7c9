import TensorLang.Source.Span
import TensorLang.Ty

/-!
# Syntax trees

Programs are lists of statements; a statement is an expression or binds a name to one. Every node
carries the span of the text it was read from.

A tree need not come from a source text: `missing` nodes stand where a tree that was put together by
hand has a gap, operators other than `*` can occur, and numbers may be negative.

* `Expr.erase`, `Stmt.erase` forget the spans; two trees that agree afterwards are equal up to
  spans.
* `Expr.inspect` visits nodes from the outside in, left before right.
* `Expr.readVars` lists the names that an expression reads.
-/

namespace TensorLang

/-- Binary operators. Only `mul` can be written in a source text. -/
inductive BinaryOp where
  | add
  | sub
  | mul
  /-- A number that names no operator. -/
  | other (code : UInt8)
  deriving DecidableEq, Inhabited, Repr

namespace BinaryOp

/-- The operator with the given number. -/
def ofCode (n : UInt8) : BinaryOp :=
  if n == 1 then add else if n == 2 then sub else if n == 3 then mul else other n

/-- The spelling of the operator. -/
def token : BinaryOp → Bytes
  | add => "+".utf8
  | sub => "-".utf8
  | mul => "*".utf8
  | other _ => "?".utf8

/-- The name of the operator. -/
def name : BinaryOp → Bytes
  | add => "Add".utf8
  | sub => "Sub".utf8
  | mul => "Mul".utf8
  | other n => "BinaryOp(".utf8 ++ Decimal.ofNat n.toNat ++ ")".utf8

end BinaryOp

/-- Expressions. -/
inductive Expr where
  /-- A tensor filled with one value, such as `[2 x 3; 0; i64]`. -/
  | fill (span : Span) (value : Spanned Int32) (shape : List (Spanned Int64))
      (dtype : Option (Spanned DType))
  /-- The integers from `first` up to `last`, such as `[0..10; 2]`. -/
  | range (span : Span) (first last : Spanned Int32) (step : Option (Spanned Int32))
  /-- A name that was bound before. -/
  | var (span : Span) (name : Bytes)
  /-- Two operands. -/
  | binary (span : Span) (op : Spanned BinaryOp) (lhs rhs : Expr)
  /-- No expression at all. -/
  | missing (span : Span)
  deriving DecidableEq, Inhabited, Repr

/-- Statements. -/
inductive Stmt where
  /-- An expression for its own sake. -/
  | eval (span : Span) (value : Expr)
  /-- Binds `name` for the rest of the program. -/
  | assign (span : Span) (name : Spanned Bytes) (value : Expr)
  /-- No statement at all. -/
  | missing (span : Span)
  deriving DecidableEq, Inhabited, Repr

/-- A program: statements in order, and the span of the whole text. -/
structure Program where
  stmts : List Stmt
  span : Span
  deriving DecidableEq, Inhabited, Repr

namespace Expr

/-- Where the expression was written. -/
def span : Expr → Span
  | fill span .. | range span .. | var span .. | binary span .. | missing span => span

/-- The element type of a fill tensor with the annotation `dtype`. -/
def fillDType (dtype : Option (Spanned DType)) : DType :=
  (dtype.map Spanned.value).getD DType.ofFill

/-- The step of a range, one if none is given. -/
def stepOf (step : Option (Spanned Int32)) : Int32 := (step.map Spanned.value).getD 1

/-- Forgets a span. -/
def eraseSpan {α : Type} (x : Spanned α) : Spanned α := ⟨x.value, Span.none⟩

/-- The same tree without spans. -/
def erase : Expr → Expr
  | fill _ value shape dtype =>
    fill Span.none (eraseSpan value) (shape.map eraseSpan) (dtype.map eraseSpan)
  | range _ first last step =>
    range Span.none (eraseSpan first) (eraseSpan last) (step.map eraseSpan)
  | var _ name => var Span.none name
  | binary _ op lhs rhs => binary Span.none (eraseSpan op) lhs.erase rhs.erase
  | missing _ => missing Span.none

/-- Visits the nodes from the outside in, left operand before right, threading a state. Where
`visit` answers `false` the operands of the node are skipped. Missing nodes are not visited. -/
def inspect {σ : Type} (visit : σ → Expr → σ × Bool) (s : σ) : Expr → σ
  | missing _ => s
  | binary span op lhs rhs =>
    let (s', deeper) := visit s (binary span op lhs rhs)
    if deeper then rhs.inspect visit (lhs.inspect visit s') else s'
  | e => (visit s e).1

/-- All nodes in the order of `inspect`. -/
def nodes : Expr → List Expr
  | missing _ => []
  | binary span op lhs rhs => binary span op lhs rhs :: (lhs.nodes ++ rhs.nodes)
  | e => [e]

/-- The names that the expression reads, in source order. -/
def readVars : Expr → List (Spanned Bytes)
  | var span name => [⟨name, span⟩]
  | binary _ _ lhs rhs => lhs.readVars ++ rhs.readVars
  | _ => []

end Expr

namespace Stmt

/-- Where the statement was written. -/
def span : Stmt → Span
  | eval span _ | assign span _ _ | missing span => span

/-- The expression of a statement. -/
def value? : Stmt → Option Expr
  | eval _ value | assign _ _ value => some value
  | missing _ => none

/-- The names that the statement binds or reads, in source order. -/
def names : Stmt → List (Spanned Bytes)
  | eval _ value => value.readVars
  | assign _ name value => name :: value.readVars
  | missing _ => []

/-- The same statement without spans. -/
def erase : Stmt → Stmt
  | eval _ value => eval Span.none value.erase
  | assign _ name value => assign Span.none (Expr.eraseSpan name) value.erase
  | missing _ => missing Span.none

end Stmt

end TensorLang
