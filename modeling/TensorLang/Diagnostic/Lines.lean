import TensorLang.Diagnostic.Basic
import TensorLang.Source.FileSet
import TensorLang.Text.Blank

/-!
# One line per diagnostic

`severity CODE path:line:col message`, ordered by place so that the text does not depend on the
order of reports. Notes become lines of their own. Spans of unknown files are left out.
-/

namespace TensorLang

/-- One line about a place. -/
structure DiagnosticLine where
  severity : Bytes
  code : Bytes
  path : Bytes
  position : LineCol
  message : Bytes
  deriving DecidableEq, Repr

namespace DiagnosticLine

/-- Replaces line breaks by blanks; a carriage return and a newline together are one break. -/
def foldBreaks : Bytes → Bytes
  | [] => []
  | 13 :: 10 :: rest => 32 :: foldBreaks rest
  | b :: rest => (if b = 13 ∨ b = 10 then 32 else b) :: foldBreaks rest

/-- A message on one line, without blanks at its ends. -/
def oneLine (message : Bytes) : Bytes := Text.trim (foldBreaks message)

/-- The path as it is shown: with forward slashes, and without `./` at its beginning. -/
def shownPath (path : Bytes) : Bytes :=
  let slashed := path.map fun b => if b = 92 then 47 else b
  (Bytes.dropPrefix? "./".utf8 slashed).getD slashed

/-- The line about a span, if its file is known. -/
def at? (fs : FileSet) (style : PathStyle) (severity : Bytes) (code : Code) (span : Span)
    (message : Bytes) : Option DiagnosticLine :=
  (fs.get? span.file).map fun f =>
    ⟨severity, code.id, shownPath (fs.pathOf f style), (fs.resolve span).1, oneLine message⟩

/-- The text of a line. -/
def text (l : DiagnosticLine) : Bytes :=
  l.severity ++ " ".utf8 ++ l.code ++ " ".utf8 ++ l.path ++ ":".utf8 ++
    Decimal.ofNat l.position.line ++ ":".utf8 ++ Decimal.ofNat l.position.col ++ " ".utf8 ++
    l.message

/-- Compares by the first of several orders that tells two things apart. -/
def firstDifference : List Ordering → Ordering
  | [] => .eq
  | .eq :: rest => firstDifference rest
  | o :: _ => o

/-- Three-way comparison of byte strings. -/
def compareBytes (a b : Bytes) : Ordering :=
  if Bytes.lt a b then .lt else if Bytes.lt b a then .gt else .eq

/-- Order by path, place, severity, code and message. -/
def le (a b : DiagnosticLine) : Bool :=
  firstDifference [compareBytes a.path b.path, compare a.position.line b.position.line,
    compare a.position.col b.position.col, compareBytes a.severity b.severity,
    compareBytes a.code b.code, compareBytes a.message b.message] != .gt

end DiagnosticLine

namespace Diagnostic

/-- The lines about a diagnostic, its notes included if asked for. -/
def linesOf (fs : FileSet) (style : PathStyle) (withNotes : Bool) (d : Diagnostic) :
    List DiagnosticLine :=
  let notes := if withNotes then
      d.notes.filterMap fun n => DiagnosticLine.at? fs style "note".utf8 d.code n.span n.message
    else []
  (DiagnosticLine.at? fs style (Bytes.toLowerAscii d.severity.text) d.code d.primary
    d.message).toList ++ notes

/-- All lines in order, without a newline at the end. -/
def lines (diags : List Diagnostic) (fs : FileSet) (withNotes : Bool) (style : PathStyle) : Bytes :=
  let all := (diags.flatMap (linesOf fs style withNotes)).mergeSort DiagnosticLine.le
  Bytes.joinWith "\n".utf8 (all.map DiagnosticLine.text)

/-- All lines in order, with a newline at the end if there are any. -/
def short (diags : List Diagnostic) (fs : FileSet) (style : PathStyle) (withNotes : Bool) : Bytes :=
  let text := lines diags fs withNotes style
  if text.isEmpty then [] else text ++ "\n".utf8

end Diagnostic

end TensorLang
