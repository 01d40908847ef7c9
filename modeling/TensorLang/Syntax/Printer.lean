import TensorLang.Syntax.Parser

/-!
# Canonical text

One statement per line, one blank on each side of `x`, `=` and operators, and one behind a semicolon
inside brackets. Operands are written without parentheses, so a tree whose right operands are
products reads back as a different tree; `Program.checkRoundTrip` tells.
-/

namespace TensorLang

/-- Decimal text of a 32-bit number. -/
def Int32.text (n : Int32) : Bytes := Decimal.ofInt n.toInt

/-- Decimal text of a dimension. -/
def Int64.text (n : Int64) : Bytes := Decimal.ofInt n.toInt

namespace Expr

/-- The canonical text of an expression; nothing for a missing one. -/
def format : Expr → Bytes
  | fill _ value shape dtype =>
    "[".utf8 ++ Bytes.joinWith " x ".utf8 (shape.map fun d => Int64.text d.value) ++ "; ".utf8 ++
      Int32.text value.value ++
      (match dtype with
        | some dt => "; ".utf8 ++ dt.value.shortName
        | none => []) ++ "]".utf8
  | range _ first last step =>
    "[".utf8 ++ Int32.text first.value ++ "..".utf8 ++ Int32.text last.value ++
      (match step with
        | some s => "; ".utf8 ++ Int32.text s.value
        | none => []) ++ "]".utf8
  | var _ name => name
  | binary _ op lhs rhs =>
    lhs.format ++ " ".utf8 ++ op.value.token ++ " ".utf8 ++ rhs.format
  | missing _ => []

end Expr

namespace Stmt

/-- The canonical text of a statement with its semicolon. -/
def format : Stmt → Bytes
  | eval _ value => value.format ++ ";".utf8
  | assign _ name value => name.value ++ " = ".utf8 ++ value.format ++ ";".utf8
  | missing _ => ";".utf8

end Stmt

namespace Program

/-- The canonical text of a program. -/
def format (p : Program) : Bytes := p.stmts.flatMap fun s => s.format ++ "\n".utf8

/-- Does `text` differ from the canonical text of the program? -/
def changed (text : Bytes) (p : Program) : Bool := text != p.format

/-- What became of an attempt to read canonical text back. -/
inductive RoundTrip where
  /-- There was no program. -/
  | noProgram
  /-- The canonical text is too long for its offsets to fit into 32-bit words, and reading it stops
  the program. -/
  | overflow
  /-- The canonical text is no program. -/
  | unreadable (e : ParseError)
  /-- The canonical text is another program. -/
  | differs
  /-- The same program came back, up to spans. -/
  | same

namespace RoundTrip

/-- Did the same program come back? -/
def isSame : RoundTrip → Bool
  | same => true
  | _ => false

/-- The outcome in words. -/
def message : RoundTrip → Bytes
  | noProgram => "fmt-check: no program".utf8
  -- the program stops without a word of its own
  | overflow => []
  | unreadable e => "fmt-check: reparse failed: ".utf8 ++ e.message
  | differs => "fmt-check: statements differ after round-trip".utf8
  | same => "fmt-check: OK".utf8

end RoundTrip

/-- Formats a program and reads the result back. -/
def checkRoundTrip : Option Program → RoundTrip
  | none => .noProgram
  | some p =>
    match parse? 0 p.format with
    | none => .overflow
    | some (.error e) => .unreadable e
    | some (.ok again) =>
      if p.stmts.map Stmt.erase = again.stmts.map Stmt.erase then .same else .differs

end Program

end TensorLang
