import TensorLang.Syntax.Ast
import TensorLang.Syntax.Reader

/-!
# The grammar

```
fill    := '[' dims ';' uint (';' dtype)? ']'        dims := (uint ('x' uint)*)?
range   := '[' uint '..' uint (';' uint)? ']'
atom    := fill / range / identifier
expr    := atom ('*' atom)*                          associating to the left
stmt    := expr ';' / identifier '=' expr ';'
program := stmt* end
```

Blanks may stand around every token. Alternatives are tried in the order given. A literal, an
operand and a statement get the span of the text that was read for them, without the blanks at its
end; a product covers its operands, and the program's span is the whole text.
-/

namespace TensorLang

namespace Grammar

open Reader

/-- Letters and the underscore begin a name. -/
def isNameStart (b : UInt8) : Bool :=
  b == 95 || (65 ≤ b && b ≤ 90) || (97 ≤ b && b ≤ 122)

/-- Names go on with letters, underscores and digits. -/
def isNamePart (b : UInt8) : Bool := isNameStart b || Decimal.isDigit b

/-- A run of digits that fits a 32-bit integer. -/
def toInt32 (digits : Bytes) : Except LiteralProblem Int32 :=
  if Decimal.value digits < 2147483648 then .ok (Int32.ofNat (Decimal.value digits))
  else .error (.int32 digits)

/-- A run of digits that fits a 64-bit integer. -/
def toDimension (digits : Bytes) : Except LiteralProblem Int64 :=
  if Decimal.value digits < 9223372036854775808 then .ok (Int64.ofNat (Decimal.value digits))
  else .error (.dimension digits)

/-- A word that names an element type. -/
def toDType (word : Bytes) : Except LiteralProblem DType :=
  match DType.ofName? word with
  | some dt => .ok dt
  | none => .error (.dtype word)

/-- A run of digits. -/
def digits : Reader Bytes := run .digit Decimal.isDigit Decimal.isDigit

/-- A word. -/
def word : Reader Bytes := run .identifier isNameStart isNamePart

/-- A fixed token. -/
def token (text : String) : Reader Span := padded (exactly text.utf8)

/-- A 32-bit literal. -/
def int32 : Reader (Spanned Int32) := padded (located (convert digits toInt32) Spanned.mk)

/-- A dimension. -/
def dimension : Reader (Spanned Int64) := padded (located (convert digits toDimension) Spanned.mk)

/-- An element type. -/
def dtype : Reader (Spanned DType) := padded (located (convert word toDType) Spanned.mk)

/-- A name. -/
def name : Reader (Spanned Bytes) := padded (located word Spanned.mk)

/-- A tensor filled with one value, which `atom` gives its span. -/
def fill : Reader (Span → Expr) := do
  let _ ← token "["
  let shape ← separated dimension (token "x")
  let _ ← token ";"
  let value ← int32
  let dt ← optional (do let _ ← token ";"; dtype)
  let _ ← token "]"
  pure fun span => .fill span value shape dt

/-- A tensor of consecutive integers. -/
def range : Reader (Span → Expr) := do
  let _ ← token "["
  let lo ← int32
  let _ ← token ".."
  let hi ← int32
  let step ← optional (do let _ ← token ";"; int32)
  let _ ← token "]"
  pure fun span => .range span lo hi step

/-- A name that is read. -/
def nameRef : Reader (Span → Expr) := do
  let n ← word
  pure fun span => .var span n

/-- An operand. -/
def atom : Reader Expr := padded (located (orElse fill (orElse range nameRef)) id)

/-- The product of `lhs` and `factor.2`, written with the operator at `factor.1`. -/
def product (lhs : Expr) (factor : Span × Expr) : Expr :=
  .binary (lhs.span.cover factor.2.span) ⟨.mul, factor.1⟩ lhs factor.2

/-- A product of operands. -/
def expr : Reader Expr := do
  let first ← atom
  let factors ← many (do
    let op ← token "*"
    let rhs ← atom
    pure (op, rhs))
  pure (factors.foldl product first)

/-- An expression as a statement, which `stmt` gives its span. -/
def evalStmt : Reader (Span → Stmt) := do
  let value ← expr
  let _ ← token ";"
  pure fun span => .eval span value

/-- A binding. -/
def assignStmt : Reader (Span → Stmt) := do
  let n ← name
  let _ ← token "="
  let value ← expr
  let _ ← token ";"
  pure fun span => .assign span n value

/-- A statement. -/
def stmt : Reader Stmt := padded (located (orElse evalStmt assignStmt) id)

/-- Statements up to the end of the text. -/
def stmts : Reader (List Stmt) := do
  let list ← many stmt
  atEnd
  pure list

end Grammar

namespace Program

/-- Reads the text of file number `file` as a program. The offsets in the text have to fit into
32-bit words, as they do in every file; `parse?` says what comes of longer texts. -/
def parse (file : Nat) (text : Bytes) : Except ParseError Program :=
  let reply := Grammar.stmts (Cursor.start file text).skipBlanks
  match reply.value with
  | some (stmts, _) => .ok ⟨stmts, ⟨file, 0, text.length⟩⟩
  | none => .error (ParseError.ofLog file text reply.log)

/-- The span that is made last: that of the program, or of its first error. -/
def lastSpan (answer : Except ParseError Program) : Span :=
  match answer with
  | .ok p => p.span
  | .error e => e.primary

/-- Reads a text of any length. Where a span is made whose offsets do not fit into 32-bit words, the
program stops, and there is no answer. -/
def parse? (file : Nat) (text : Bytes) : Option (Except ParseError Program) :=
  let answer := parse file text
  if (Grammar.stmts (Cursor.start file text).skipBlanks).fits && (lastSpan answer).fits then
    some answer
  else none

end Program

end TensorLang
