import TensorLang.Diagnostic.Bag
import TensorLang.Text.Quoted

/-!
# Reporters

Where diagnostics go: to any number of bags, and optionally only the first time they are seen. Two
diagnostics are the same if code, severity, message, span and notes agree; the label plays no part.
-/

namespace TensorLang

/-- One destination of diagnostics. -/
inductive Sink where
  /-- Nothing is kept. -/
  | nowhere
  /-- Kept in a bag, as far as it has room. -/
  | bag (b : Bag)
  deriving DecidableEq, Repr

namespace Sink

/-- Hands a diagnostic to a destination. -/
def report (d : Diagnostic) : Sink → Sink
  | nowhere => nowhere
  | bag b => bag (b.push d)

/-- What a destination holds. -/
def items : Sink → List Diagnostic
  | nowhere => []
  | bag b => b.items

end Sink

/-- What tells two diagnostics apart. The notes are written out, each span before its quoted
text. -/
structure DedupKey where
  code : Code
  severity : Severity
  span : Span
  message : Bytes
  notes : Bytes
  deriving DecidableEq, Repr

namespace DedupKey

/-- The notes written out. -/
def notesText (notes : List Note) : Bytes :=
  notes.flatMap fun n => n.span.text ++ " ".utf8 ++ Quoted.string n.message ++ ";".utf8

/-- The key of a diagnostic. -/
def ofDiagnostic (d : Diagnostic) : DedupKey :=
  ⟨d.code, d.severity, d.primary, d.message, notesText d.notes⟩

end DedupKey

/-- Destinations, and the keys seen so far if repetitions are dropped. -/
structure Reporter where
  sinks : List Sink
  seen : Option (List DedupKey)
  deriving DecidableEq, Repr

namespace Reporter

/-- A reporter that hands everything on. -/
def all (sinks : List Sink) : Reporter := ⟨sinks, none⟩

/-- A reporter that drops repetitions. -/
def dedup (sinks : List Sink) : Reporter := ⟨sinks, some []⟩

/-- Reports a diagnostic. -/
def report (r : Reporter) (d : Diagnostic) : Reporter :=
  match r.seen with
  | none => { r with sinks := r.sinks.map (Sink.report d) }
  | some seen =>
    let key := DedupKey.ofDiagnostic d
    if seen.contains key then r
    else ⟨r.sinks.map (Sink.report d), some (key :: seen)⟩

end Reporter

/-- A diagnostic in the making, which is reported at most once. -/
structure ReportBuilder where
  diagnostic : Diagnostic
  sent : Bool := false
  deriving DecidableEq, Repr

namespace ReportBuilder

/-- Reports the diagnostic unless that was done before. -/
def emit (b : ReportBuilder) (r : Reporter) : ReportBuilder × Reporter :=
  if b.sent then (b, r) else ({ b with sent := true }, r.report b.diagnostic)

end ReportBuilder

end TensorLang
