import TensorLang.Source.Span

/-!
# Diagnostics

A diagnostic is a message about a span, with a severity, a numbered code, an optional label for the
span and notes about other spans.
-/

namespace TensorLang

/-- How grave a diagnostic is. -/
inductive Severity where
  | info
  | warning
  | error
  /-- A number that names no severity. -/
  | other (number : Nat)
  deriving DecidableEq, Inhabited, Repr

namespace Severity

/-- The severity with the given number. -/
def ofNumber : Nat → Severity
  | 0 => info
  | 1 => warning
  | 2 => error
  | n => other n

/-- The number of a severity; graver ones have greater numbers. -/
def number : Severity → Nat
  | info => 0
  | warning => 1
  | error => 2
  | other n => n

/-- The severity in capitals. -/
def text : Severity → Bytes
  | info => "INFO".utf8
  | warning => "WARNING".utf8
  | error => "ERROR".utf8
  | other _ => "UNKNOWN".utf8

end Severity

/-- The number of a kind of diagnostic. Thousands tell the area. -/
structure Code where
  number : Nat
  deriving DecidableEq, Inhabited, Repr

namespace Code

/-- The text does not continue as it should. -/
def unexpectedInput : Code := ⟨2001⟩

/-- A literal has no value. -/
def invalidLiteral : Code := ⟨2002⟩

/-- Element types that cannot be combined. -/
def incompatibleDTypes : Code := ⟨3001⟩

/-- Shapes that cannot be multiplied. -/
def cannotMultiply : Code := ⟨3002⟩

/-- A file could not be read. -/
def loadFile : Code := ⟨4001⟩

/-- A file could not be written. -/
def writeFile : Code := ⟨4002⟩

/-- A tensor literal without dimensions. -/
def emptyShape : Code := ⟨5001⟩

/-- A name that the generated code needs. -/
def reservedName : Code := ⟨5002⟩

/-- The generated code does not parse. -/
def malformedOutput : Code := ⟨5003⟩

/-- How long the phases took. -/
def timings : Code := ⟨6001⟩

/-- An operator without typing rules. -/
def unsupportedOperator : Code := ⟨7001⟩

/-- What the codes mean. -/
def titles : List (Nat × String) :=
  [(2000, "Syntax information"), (2001, "Unexpected input"), (2002, "Invalid literal"),
    (3000, "Type information"), (3001, "Incompatible data types"),
    (3002, "Incompatible shapes for multiplication"), (4001, "I/O load file error"),
    (4002, "I/O write file error"), (5000, "Code generation information"),
    (5001, "Tensor shape must not be empty"), (5002, "Name is reserved by the generated code"),
    (5003, "Generated code is not valid Go"), (6000, "Observability information"),
    (6001, "Pipeline timings"), (7001, "Operator is not supported yet"),
    (8000, "Project information"), (8001, "Invalid tensa.toml"), (8002, "Invalid target profile")]

/-- The letters for each area, by the thousands of the number. -/
def areas : List (Nat × String) :=
  [(2, "SYN"), (3, "TYP"), (4, "IO"), (5, "GEN"), (6, "OBS"), (7, "FUT"), (8, "PRJ")]

/-- The area's letters and the number; `E0000` outside all areas. -/
def id (c : Code) : Bytes :=
  match areas.lookup (c.number / 1000) with
  | some letters => letters.utf8 ++ Decimal.ofNat c.number
  | none => "E0000".utf8

/-- What the code means. -/
def title (c : Code) : Bytes := ((titles.lookup c.number).getD "Unknown error").utf8

/-- `[id]: title`. -/
def text (c : Code) : Bytes := "[".utf8 ++ c.id ++ "]: ".utf8 ++ c.title

end Code

/-- A remark about a span that belongs to a diagnostic. -/
structure Note where
  span : Span
  message : Bytes
  deriving DecidableEq, Inhabited, Repr

/-- A message about a span. -/
structure Diagnostic where
  severity : Severity
  code : Code
  message : Bytes
  primary : Span
  /-- What to write under the span, possibly nothing. -/
  label : Bytes := []
  notes : List Note := []
  deriving DecidableEq, Repr

namespace Diagnostic

/-- A diagnostic that says nothing. -/
def empty : Diagnostic := ⟨.info, ⟨0⟩, [], Span.none, [], []⟩

instance : Inhabited Diagnostic := ⟨empty⟩

/-- An error without label and notes. -/
def ofError (code : Code) (primary : Span) (message : Bytes) : Diagnostic :=
  ⟨.error, code, message, primary, [], []⟩

/-- Sets the label. -/
def withLabel (d : Diagnostic) (label : Bytes) : Diagnostic := { d with label }

/-- Adds a note behind the others. -/
def withNote (d : Diagnostic) (span : Span) (message : Bytes) : Diagnostic :=
  { d with notes := d.notes ++ [⟨span, message⟩] }

end Diagnostic

end TensorLang
