import TensorLang.Diagnostic.Basic
import TensorLang.Json.Value
import TensorLang.Source.FileSet

/-!
# Diagnostics as JSON

The document about a list of diagnostics. Lines and columns are written on request, and notes too;
those of timing diagnostics are always written. A line or column of zero is left out.
-/

namespace TensorLang

/-- What a document holds. -/
structure DocumentOptions where
  positions : Bool
  style : PathStyle
  /-- How many diagnostics are written at most, if positive. -/
  limit : Int
  notes : Bool

namespace DocumentOptions

/-- A number that is left out where it is zero. -/
def unlessZero (key : String) (n : Nat) : List (String × Json) :=
  if n = 0 then [] else [(key, Json.nat n)]

/-- A span with the path of its file. -/
def location (o : DocumentOptions) (fs : FileSet) (span : Span) : Json :=
  let bytes := [("start_byte", Json.nat span.start), ("end_byte", Json.nat span.stop)]
  match fs.get? span.file with
  | none => Json.record (("file", .string []) :: bytes)
  | some f =>
    let (first, last) := fs.resolve span
    let places := if o.positions then
        unlessZero "start_line" first.line ++ unlessZero "start_col" first.col ++
          unlessZero "end_line" last.line ++ unlessZero "end_col" last.col
      else []
    Json.record (("file", .string (fs.pathOf f o.style)) :: bytes ++ places)

/-- One diagnostic. -/
def diagnostic (o : DocumentOptions) (fs : FileSet) (d : Diagnostic) : Json :=
  let notes := if o.notes || d.code = Code.timings then
      d.notes.map fun n =>
        Json.record [("message", .string n.message), ("location", o.location fs n.span)]
    else []
  Json.record ([("severity", .string d.severity.text), ("code", .string d.code.id),
    ("title", .string d.code.title), ("message", .string d.message)] ++
    (if d.label.isEmpty then [] else [("label", .string d.label)]) ++
    [("location", o.location fs d.primary)] ++
    (if notes.isEmpty then [] else [("notes", .array notes)]))

/-- The diagnostics and how many there are. -/
def build (o : DocumentOptions) (fs : FileSet) (diags : List Diagnostic) : Json :=
  let items := if 0 < o.limit then diags.take o.limit.toNat else diags
  Json.record [("diagnostics", .array (items.map (o.diagnostic fs))),
    ("count", Json.nat items.length)]

end DocumentOptions

end TensorLang
