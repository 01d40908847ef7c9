import TensorLang.Diagnostic.Basic
import TensorLang.Emit.Target
import TensorLang.Search
import TensorLang.Syntax.Ast
import TensorLang.Text.Quoted

/-!
# Fragments

A program becomes a flat list of fragments, one per token of the emitted code, and each fragment
keeps the span it came from. Typing plays no part: what is emitted depends on the tree and the
target alone.

* `Program.fragments` emits the statements in order and afterwards uses every bound name once, since
  a local name that is never used is refused later.
* `Fragment.layout` puts the fragments of a statement on one line.
* `Fragment.lookup` finds the fragment that covers an offset of the laid out text.
-/

namespace TensorLang

/-- One token of emitted code and where it came from. -/
structure Fragment where
  text : Bytes
  span : Span
  deriving DecidableEq, Inhabited, Repr

/-- Why a program cannot be emitted. -/
inductive EmitError where
  /-- A tensor without dimensions. -/
  | emptyShape (span : Span)
  /-- A name that the emitted code uses itself. -/
  | reservedName (name : Spanned Bytes)
  /-- A statement is missing from the tree. -/
  | missingStmt
  /-- An expression is missing from the tree. -/
  | missingExpr
  deriving DecidableEq, Repr

namespace EmitError

/-- What is said about the failure. -/
def message : EmitError → Bytes
  | emptyShape _ => "tensor shape must have at least one dimension".utf8
  | reservedName name =>
    "name ".utf8 ++ Quoted.string name.value ++ " is reserved by the generated code".utf8
  | missingStmt => "unexpected statement <nil>".utf8
  | missingExpr => "unexpected expression <nil>".utf8

/-- The diagnostic for a failure that has a place in the source. -/
def diagnostic? : EmitError → Option Diagnostic
  | e@(emptyShape span) => some (Diagnostic.ofError Code.emptyShape span e.message)
  | e@(reservedName name) => some (Diagnostic.ofError Code.reservedName name.span e.message)
  | _ => none

end EmitError

namespace Fragment

/-- Fragments that share a span. -/
def all (span : Span) (texts : List Bytes) : List Fragment := texts.map fun text => ⟨text, span⟩

/-- The fragments in one line, with single blanks between them. -/
def line (fs : List Fragment) : Bytes := Bytes.joinWith [32] (fs.map text)

/-- The text of one fragment and of what separates it from the next one: a statement ends a line. -/
def separated (f : Fragment) (isLast : Bool) : Bytes :=
  if f.text == ";".utf8 then f.text ++ (if isLast then [] else [10, 9])
  else f.text ++ (if isLast then [] else [32])

/-- The fragments as lines of statements. -/
def layout : List Fragment → Bytes
  | [] => []
  | f :: rest => separated f rest.isEmpty ++ layout rest

/-- Where each fragment begins in the layout, which itself begins at `start`. -/
def offsets (start : Nat) : List Fragment → List Nat
  | [] => []
  | f :: rest => start :: offsets (start + (separated f rest.isEmpty).length) rest

/-- The span of the fragment that covers an offset from the beginning of the layout: the one before
the first that begins at the next offset or behind. Offsets are 64-bit words. An offset before the
first fragment counts as inside it. -/
def lookup (fs : List Fragment) (offset : Int64) : Span :=
  let next := Search.first (fun start : Nat => (offset + 1).toInt ≤ start) (offsets 0 fs)
  (fs[next - 1]?.map span).getD Span.none

end Fragment

namespace Target

/-- The literal for a fill value of the given element type: a truth value for booleans. -/
def fillLiteral (value : Int32) (dtype : DType) : Bytes :=
  if dtype == .bool then (if value == 0 then "false".utf8 else "true".utf8)
  else Decimal.ofInt value.toInt

/-- The dimensions, with commas between them. -/
def emitShape : (isFirst : Bool) → List (Spanned Int64) → List Fragment
  | _, [] => []
  | isFirst, d :: rest =>
    (if isFirst then [] else Fragment.all d.span [",".utf8]) ++
      Fragment.all d.span [Decimal.ofInt d.value.toInt] ++ emitShape false rest

/-- The beginning of a constructor call. -/
def emitCall (t : Target) (span : Span) (constructor : Bytes) (dtype : DType) : List Fragment :=
  Fragment.all span
    [t.packageAlias, ".".utf8, constructor, "[".utf8, dtype.name, "]".utf8, "(".utf8]

/-- The call for a filled tensor. Zero and one have constructors of their own. -/
def emitFill (t : Target) (span : Span) (value : Spanned Int32) (shape : List (Spanned Int64))
    (dtype : DType) : List Fragment :=
  let constructor :=
    if value.value == 0 then t.zeros else if value.value == 1 then t.ones else t.full
  t.emitCall span constructor dtype ++
    Fragment.all span [t.packageAlias, ".".utf8, "Shape".utf8, "\x7b".utf8] ++
    emitShape true shape ++ Fragment.all span ["\x7d".utf8, ",".utf8] ++
    (if value.value == 0 || value.value == 1 then []
      else Fragment.all value.span [fillLiteral value.value dtype, ",".utf8]) ++
    Fragment.all span [t.deviceVar, ")".utf8]

/-- The call for a range. -/
def emitRange (t : Target) (span : Span) (first last : Spanned Int32)
    (step : Option (Spanned Int32)) : List Fragment :=
  let constructor := if step.isSome then t.arangeStep else t.arange
  t.emitCall span constructor DType.ofRange ++
    ([first, last] ++ step.toList).flatMap (fun bound =>
      Fragment.all bound.span [Decimal.ofInt bound.value.toInt, ",".utf8]) ++
    Fragment.all span [t.deviceVar, ")".utf8]

/-- The fragments of an expression. -/
def emitExpr (t : Target) : Expr → Except EmitError (List Fragment)
  | .fill span value shape dtype =>
    if shape.isEmpty then .error (.emptyShape span)
    else .ok (t.emitFill span value shape (Expr.fillDType dtype))
  | .range span first last step => .ok (t.emitRange span first last step)
  | .var span name => .ok [⟨name, span⟩]
  | .binary _ op lhs rhs => do
    let l ← t.emitExpr lhs
    let r ← t.emitExpr rhs
    if t.operators == methodStyle then
      .ok (l ++ Fragment.all op.span [".".utf8, t.method op.value.token, "(".utf8] ++ r ++
        Fragment.all op.span [")".utf8])
    else .ok (l ++ Fragment.all op.span [op.value.token] ++ r)
  | .missing _ => .error .missingExpr

/-- The fragments of a statement, given the names that are bound before it. -/
def emitStmt (t : Target) (bound : List Bytes) (s : Stmt) : Except EmitError (List Fragment) :=
  match s.names.find? fun name => t.isReserved name.value with
  | some name => .error (.reservedName name)
  | none =>
    match s with
    | .eval span value => do
      let body ← t.emitExpr value
      .ok (Fragment.all span ["_".utf8, "=".utf8] ++ body ++ Fragment.all span [";".utf8])
    | .assign span name value => do
      let body ← t.emitExpr value
      let mark := if bound.contains name.value then "=".utf8 else ":=".utf8
      .ok (Fragment.all name.span [name.value, mark] ++ body ++ Fragment.all span [";".utf8])
    | .missing _ => .error .missingStmt

/-- The names that a list of statements binds, each where it is first bound. `bound` holds the names
bound before. -/
def firstBindings (bound : List Bytes) : List Stmt → List (Spanned Bytes)
  | [] => []
  | .assign _ name _ :: rest =>
    if bound.contains name.value then firstBindings bound rest
    else name :: firstBindings (name.value :: bound) rest
  | _ :: rest => firstBindings bound rest

/-- The fragments of statements in order. -/
def emitStmts (t : Target) (bound : List Bytes) : List Stmt → Except EmitError (List Fragment)
  | [] => .ok []
  | s :: rest => do
    let here ← t.emitStmt bound s
    let bound' := match s with
      | .assign _ name _ => name.value :: bound
      | _ => bound
    .ok (here ++ (← t.emitStmts bound' rest))

end Target

/-- A statement that uses a name and does nothing else. -/
def Fragment.use (name : Spanned Bytes) : List Fragment :=
  Fragment.all name.span ["_".utf8, "=".utf8, name.value, ";".utf8]

/-- The fragments of a program: its statements, then one use of each bound name. -/
def Program.fragments (p : Program) (t : Target) : Except EmitError (List Fragment) := do
  let body ← t.emitStmts [] p.stmts
  .ok (body ++ (Target.firstBindings [] p.stmts).flatMap Fragment.use)

end TensorLang
