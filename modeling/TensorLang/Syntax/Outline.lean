import TensorLang.Json.Value
import TensorLang.Source.FileSet
import TensorLang.Syntax.Printer
import TensorLang.Text.TreeDrawing

/-!
# Outlines of programs

The syntax tree of a program as something to look at: an indented outline, a drawing, or a JSON
document.
-/

namespace TensorLang

/-- A node to look at. -/
inductive Outline where
  | node (type kind text : Bytes) (span : Span) (children : List Outline)
    (fields : List (String × Json))
  deriving Inhabited

namespace Outline

/-- A span as a JSON object. -/
def spanJson (s : Span) : Json :=
  Json.record [("File", Json.nat s.file), ("Start", Json.nat s.start), ("End", Json.nat s.stop)]

/-- The kind of something that is missing. -/
def missingKind : Bytes := "<nil>".utf8

/-- An expression to look at. -/
def ofExpr : Expr → Outline
  | .fill span value shape dtype =>
    let dims := Bytes.joinWith " x ".utf8 (shape.map fun d => Int64.text d.value)
    let dt := Expr.fillDType dtype
    node "Expr".utf8 "Fill".utf8
      (dims ++ "; ".utf8 ++ Int32.text value.value ++ "; ".utf8 ++ dt.shortName) span []
      [("dtype", .string dt.name), ("explicit", .bool dtype.isSome),
        ("fill", Json.int value.value.toInt),
        ("shape", .array (shape.map fun d => Json.int d.value.toInt))]
  | .range span first last step =>
    let bounds := Int32.text first.value ++ "..".utf8 ++ Int32.text last.value
    let start := ("start", Json.int first.value.toInt)
    let stop := ("stop", Json.int last.value.toInt)
    match step with
    | some s =>
      node "Expr".utf8 "Range".utf8 (bounds ++ "; ".utf8 ++ Int32.text s.value) span []
        [start, ("step", Json.int s.value.toInt), stop]
    | none => node "Expr".utf8 "Range".utf8 bounds span [] [start, stop]
  | .var span name => node "Expr".utf8 "Variable".utf8 name span [] []
  | .binary span op lhs rhs =>
    node "Expr".utf8 "Binary".utf8 op.value.token span [ofExpr lhs, ofExpr rhs]
      [("op", .string op.value.name), ("op_span", spanJson op.span)]
  | .missing span => node "Expr".utf8 missingKind [] span [] []

/-- Statement number `index` to look at. -/
def ofStmt (index : Nat) (s : Stmt) : Outline :=
  let type := "Stmt[".utf8 ++ Decimal.ofNat index ++ "]".utf8
  match s with
  | .eval span value => node type "Expr".utf8 [] span [ofExpr value] []
  | .assign span name value =>
    node type "Assign".utf8 name.value span [ofExpr value]
      [("name", .string name.value), ("name_span", spanJson name.span)]
  | .missing span => node type missingKind [] span [] []

/-- A program to look at. -/
def ofProgram (p : Program) : Outline :=
  node "Program".utf8 [] [] p.span (p.stmts.mapIdx ofStmt) []

/-- `Type[Kind]: text`, as far as they are there. -/
def label (type kind text : Bytes) : Bytes :=
  type ++ (if kind.isEmpty then [] else "[".utf8 ++ kind ++ "]".utf8) ++
    (if text.isEmpty then [] else ": ".utf8 ++ text)

/-- A span as lines and columns if its file is known, and as offsets otherwise. -/
def spanText (fs : Option FileSet) (span : Span) : Bytes :=
  match fs.bind fun fs => (fs.get? span.file).map fun _ => fs.resolve span with
  | some (a, b) =>
    Decimal.ofNat a.line ++ ":".utf8 ++ Decimal.ofNat a.col ++ "-".utf8 ++ Decimal.ofNat b.line ++
      ":".utf8 ++ Decimal.ofNat b.col
  | none =>
    "span(".utf8 ++ Decimal.ofNat span.start ++ "-".utf8 ++ Decimal.ofNat span.stop ++ ")".utf8

/-- The program's heading, with the path of its file if it is known. -/
def heading (fs : Option FileSet) (span : Span) : Bytes :=
  match fs.bind fun fs => (fs.get? span.file).map fun f => fs.pathOf f .auto with
  | some path => "Program ".utf8 ++ path
  | none => "Program".utf8

mutual

/-- A node and what is below it, one line each; `branch` leads to the node and `indent` to what is
below. -/
def outlineLines (fs : Option FileSet) (branch indent : Bytes) : Outline → Bytes
  | node type kind text span children _ =>
    branch ++ label type kind text ++ " (span: ".utf8 ++ spanText fs span ++ ")\n".utf8 ++
      childLines fs indent children

/-- The nodes below a node; the last one is drawn differently. -/
def childLines (fs : Option FileSet) (indent : Bytes) : List Outline → Bytes
  | [] => []
  | [last] => outlineLines fs (indent ++ "└─ ".utf8) (indent ++ "   ".utf8) last
  | child :: rest =>
    outlineLines fs (indent ++ "├─ ".utf8) (indent ++ "│  ".utf8) child ++ childLines fs indent rest

end

/-- The indented outline of a program. -/
def pretty (fs : Option FileSet) (p : Program) : Bytes :=
  match ofProgram p with
  | node _ _ _ span children _ =>
    heading fs span ++ " (span: ".utf8 ++ spanText fs span ++ ")\n".utf8 ++
      childLines fs [] children

mutual

/-- The labels of a node and of what is below it. -/
def labels : Outline → LabelTree
  | node type kind text _ children _ => .node (label type kind text) (labelsAll children)

/-- The labels of several nodes. -/
def labelsAll : List Outline → List LabelTree
  | [] => []
  | child :: rest => child.labels :: labelsAll rest

end

/-- The drawing of a program. -/
def drawing (fs : Option FileSet) (p : Program) : Bytes :=
  match (ofProgram p).labels with
  | .node _ children => (LabelTree.node (heading fs p.span) children).text

mutual

/-- A node as a JSON object. -/
def json : Outline → Json
  | node type kind text span children fields =>
    Json.record ([("type", .string type)] ++
      (if kind.isEmpty then [] else [("kind", .string kind)]) ++ [("span", spanJson span)] ++
      (if text.isEmpty then [] else [("text", .string text)]) ++
      (if children.isEmpty then [] else [("children", .array (jsonAll children))]) ++
      (if fields.isEmpty then [] else [("fields", Json.record fields)]))

/-- Several nodes as JSON objects. -/
def jsonAll : List Outline → List Json
  | [] => []
  | child :: rest => child.json :: jsonAll rest

end

end Outline

end TensorLang
