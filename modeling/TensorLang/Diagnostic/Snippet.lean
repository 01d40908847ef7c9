import TensorLang.Diagnostic.Basic
import TensorLang.Source.FileSet
import TensorLang.Text.Ansi
import TensorLang.Text.Quoted
import TensorLang.Text.Width

/-!
# Diagnostics with source text

`path:line:col: SEVERITY CODE: message`, then the source line with some lines above it, and under it
a marker for the part of the span on that line. Notes follow in the same way; a note with an empty
span is a line without source text.

Lines and columns are 32-bit words. `snippet` gives nothing where the program stops, since it would
cut a part out of a line that ends before it begins, and where it goes on forever, since no line
number is greater than that of the last line to show.
-/

namespace TensorLang

/-- How diagnostics are shown. -/
structure SnippetOptions where
  color : Bool
  /-- How many lines above are shown. -/
  context : Int
  style : PathStyle
  /-- How many columns a source line may take; zero means any number. -/
  width : Nat
  notes : Bool

namespace SnippetOptions

open Ansi

/-- Tabs are shown as four blanks. -/
def expandTabs (text : Bytes) : Bytes := Bytes.replaceByte 9 (Bytes.blanks 4) text

/-- The style of a severity. -/
def severityStyle : Severity → List Attribute
  | .error => [.red, .bold]
  | .warning => [.yellow, .bold]
  | _ => [.cyan, .bold]

/-- The style of notes. -/
def noteStyle : List Attribute := [.cyan]

/-- Text beside the source lines. -/
def gutter (o : SnippetOptions) (text : Bytes) : Bytes := paint o.color [.blue] text

/-- `path:line:col` of the beginning of a span. -/
def location (o : SnippetOptions) (fs : FileSet) (span : Span) : Bytes :=
  match fs.get? span.file with
  | none => "<unknown>".utf8
  | some f =>
    let start := (fs.resolve span).1
    fs.pathOf f o.style ++ ":".utf8 ++ Decimal.ofNat start.line ++ ":".utf8 ++
      Decimal.ofNat start.col

/-- The column behind a line. -/
def endCol (line : Bytes) : Nat := (line.length + 1) % UInt32.size

/-- A column brought between the first one and the one behind the last. -/
def clampCol (col : Nat) (line : Bytes) : Nat := if col < 1 then 1 else min col (endCol line)

/-- How many bytes of a line are before a column. -/
def beforeCol (col : Nat) : Nat := (col + (UInt32.size - 1)) % UInt32.size

/-- One source line behind its number. -/
def sourceLine (o : SnippetOptions) (f : File) (gutterWidth n : Nat) : Bytes :=
  let text := expandTabs (f.line n)
  let shown := if 0 < o.width then Text.truncate o.width "…".utf8 text else text
  " ".utf8 ++ o.gutter (Bytes.padLeft gutterWidth (Decimal.ofNat n)) ++ " ".utf8 ++
    o.gutter "|".utf8 ++ " ".utf8 ++ shown ++ "\n".utf8

/-- The number of the first line shown for a span that begins on `line`. -/
def firstLine (o : SnippetOptions) (line : Nat) : Nat :=
  if 0 < o.context then (if line ≤ o.context.toNat then 1 else line - o.context.toNat) else line

/-- The marker under the last source line, for its part from `start` to `stop`. -/
def markerLine (o : SnippetOptions) (gutterWidth : Nat) (line : Bytes) (start stop : Nat)
    (label : Bytes) (style : List Attribute) : Bytes :=
  let pad := Text.width (expandTabs (line.take start))
  let covered := (line.take stop).drop start
  let width := max (Text.width (expandTabs covered)) 1
  let marker := "^".utf8 ++ List.replicate (width - 1) 126 ++
    (if label.isEmpty then [] else " ".utf8 ++ label)
  " ".utf8 ++ Bytes.blanks gutterWidth ++ " ".utf8 ++ o.gutter "|".utf8 ++ " ".utf8 ++
    Bytes.blanks pad ++ paint o.color style marker ++ "\n".utf8

/-- The source text of a span. -/
def snippet (o : SnippetOptions) (fs : FileSet) (span : Span) (label : Bytes)
    (style : List Attribute) : Option Bytes :=
  match fs.get? span.file with
  | none => some []
  | some f =>
    let (start, stop) := fs.resolve span
    let first := o.firstLine start.line
    let gutterWidth := (Decimal.ofNat start.line).length
    let numbers := (List.range (start.line + 1 - first)).map (first + ·)
    let line := f.line start.line
    let left := beforeCol (clampCol start.col line)
    let right := beforeCol
      (if stop.line = start.line then clampCol stop.col line else endCol line)
    -- the numbers go up to that of the line, and no 32-bit word comes after the greatest one
    if start.line + 1 = UInt32.size then none
    else if left ≤ right ∧ right ≤ line.length then
      some (numbers.flatMap (o.sourceLine f gutterWidth) ++
        o.markerLine gutterWidth line left right label style)
    else none

/-- A note with its source text. -/
def note (o : SnippetOptions) (fs : FileSet) (n : Note) : Option Bytes :=
  let head := "  ".utf8 ++ paint o.color noteStyle "note:".utf8 ++ " ".utf8
  if n.span.isEmpty then some (head ++ n.message ++ "\n".utf8)
  else
    (o.snippet fs n.span [] noteStyle).map fun source =>
      head ++ o.location fs n.span ++ ": ".utf8 ++ n.message ++ "\n".utf8 ++ source

/-- A diagnostic with its source text and notes. -/
def diagnostic (o : SnippetOptions) (fs : FileSet) (d : Diagnostic) : Option Bytes := do
  let style := severityStyle d.severity
  let head := o.location fs d.primary ++ ": ".utf8 ++ paint o.color style d.severity.text ++
    " ".utf8 ++ paint o.color [.bold] d.code.id ++ ": ".utf8 ++ d.message ++ "\n".utf8
  let source ← o.snippet fs d.primary d.label style
  let notes ← if o.notes then d.notes.mapM (o.note fs) else some []
  pure (head ++ source ++ notes.flatten)

/-- Diagnostics with empty lines between them. -/
def render (o : SnippetOptions) (fs : FileSet) (diags : List Diagnostic) : Option Bytes :=
  (diags.mapM (o.diagnostic fs)).map (Bytes.joinWith "\n".utf8)

end SnippetOptions

/-- Reads the name of a path style; no name means the automatic one. -/
def PathStyle.parse (name : Bytes) : Except Bytes PathStyle :=
  if name.isEmpty then .ok .auto
  else
    match PathStyle.ofName name with
    | .plain => .error ("unknown path mode ".utf8 ++ Quoted.string name)
    | style => .ok style

end TensorLang
