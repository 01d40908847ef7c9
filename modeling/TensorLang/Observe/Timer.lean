import TensorLang.Diagnostic.Basic
import TensorLang.Json.Value
import TensorLang.Text.Binary64

/-!
# Timers

A timer measures the phases of one run. The clock is the caller's: every operation takes the current
time in nanoseconds.

* `Timer.diagnostic` tells the timings as a diagnostic with one note per phase.
* `Timer.report` is the same as a JSON document.
-/

namespace TensorLang

/-- A measured step of a run. -/
structure Phase where
  name : Bytes
  started : Int
  duration : Int := 0
  note : Bytes := []
  deriving DecidableEq, Inhabited, Repr

/-- The phases of a run, in the order in which they began. -/
structure Timer where
  phases : List Phase := []
  deriving DecidableEq, Inhabited, Repr

namespace Timer

/-- Opens a phase; its number is the count of phases before it. -/
def begin (t : Timer) (now : Int) (name : Bytes) : Timer × Nat :=
  (⟨t.phases ++ [{ name, started := now }]⟩, t.phases.length)

/-- Closes the phase with the given number, also for a second time; other numbers are ignored. -/
def finish (t : Timer) (now : Int) (index : Int) (note : Bytes) : Timer :=
  if index < 0 then t
  else ⟨t.phases.modify index.toNat fun p => { p with duration := now - p.started, note }⟩

/-- The sum of all durations. -/
def total (t : Timer) : Int := (t.phases.map Phase.duration).foldr (· + ·) 0

/-- The sign of a duration. -/
def sign (d : Int) : Bytes := if d < 0 then [45] else []

/-- A duration in milliseconds. -/
def millis (d : Int) : Binary64 := Binary64.quotient d.natAbs 1000000

/-- A duration in milliseconds with two decimals. -/
def millisText (d : Int) : Bytes := sign d ++ (millis d).fixed 2

/-- What is said about a phase. -/
def phaseText (p : Phase) : Bytes :=
  p.name ++ ": ".utf8 ++ millisText p.duration ++ " ms".utf8 ++
    (if p.note.isEmpty then [] else " (".utf8 ++ p.note ++ ")".utf8)

/-- The timings as a diagnostic about `span`. -/
def diagnostic (t : Timer) (span : Span) : Diagnostic where
  severity := .info
  code := Code.timings
  message := "pipeline timings: ".utf8 ++ millisText t.total ++ " ms total".utf8
  primary := span
  notes := t.phases.map fun p => ⟨span, phaseText p⟩

/-- A duration in milliseconds as a JSON number. -/
def millisJson (d : Int) : Json := .number (sign d ++ (millis d).shortest)

/-- The timings as a JSON document. -/
def report (t : Timer) : Json :=
  let phase (p : Phase) : Json := Json.record ([("name", .string p.name),
    ("duration_ms", millisJson p.duration)] ++
    (if p.note.isEmpty then [] else [("note", .string p.note)]))
  Json.record [("total_ms", millisJson t.total),
    ("phases", if t.phases.isEmpty then .null else .array (t.phases.map phase))]

end Timer

end TensorLang
