import TensorLang.Diagnostic.Basic
import TensorLang.Syntax.Ast

/-!
# Type errors

The ways in which a product can be ill-typed, and the diagnostics about them. Spans of operands that
are bound names are those of the defining right-hand sides.
-/

namespace TensorLang

/-- A finding of the type checker. -/
inductive TypeError where
  /-- Element types that cannot be combined. -/
  | incompatibleDTypes (lhs rhs : DType) (lhsSpan rhsSpan : Span)
  /-- Shapes that do not line up for a product. -/
  | cannotMultiply (lhs rhs : Shape) (lhsSpan rhsSpan : Span)
  /-- An operator without typing rules. -/
  | unsupportedOperator (op : BinaryOp) (span : Span)
  deriving DecidableEq, Repr

namespace TypeError

/-- The error in words. -/
def message : TypeError → Bytes
  | incompatibleDTypes lhs rhs _ _ =>
    "data types ".utf8 ++ lhs.name ++ " and ".utf8 ++ rhs.name ++ " cannot be combined".utf8
  | cannotMultiply lhs rhs _ _ =>
    "cannot multiply tensor of shape ".utf8 ++ lhs.text ", ".utf8 ++
      " with tensor of shape ".utf8 ++ rhs.text ", ".utf8
  | unsupportedOperator op _ =>
    "operator ".utf8 ++ op.token ++ " is not supported by the type checker".utf8

/-- The code of the diagnostic. -/
def code : TypeError → Code
  | incompatibleDTypes .. => .incompatibleDTypes
  | cannotMultiply .. => .cannotMultiply
  | unsupportedOperator .. => .unsupportedOperator

/-- The diagnostic about the error. -/
def diagnostic (e : TypeError) : Diagnostic :=
  match e with
  | incompatibleDTypes _ _ lhsSpan rhsSpan =>
    ((Diagnostic.ofError e.code lhsSpan e.message).withLabel
      "a value of this data type".utf8).withNote rhsSpan
      "cannot be combined with a value of this data type".utf8
  | cannotMultiply _ _ lhsSpan rhsSpan =>
    ((Diagnostic.ofError e.code lhsSpan e.message).withLabel "this shape".utf8).withNote
      rhsSpan "cannot be multiplied with this shape".utf8
  | unsupportedOperator _ span =>
    (Diagnostic.ofError e.code span e.message).withLabel "only '*' is checked".utf8

end TypeError

end TensorLang
