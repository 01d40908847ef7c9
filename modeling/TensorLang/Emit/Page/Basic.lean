import TensorLang.Emit.Remark
import TensorLang.Text.Columns

/-!
# The page that code is laid out on

A page keeps what has been written, where the text on it came from, and the white space that waits
for the next token: only when the token is known it is clear how comments in front of it and the
white space go together.

* `Layout.writePiece` and `Layout.writeText` write white space and text.
* `Layout.release` writes white space that has waited.
-/

namespace TensorLang.Emit

open Columns (Piece)

/-- White space that waits for the next token. -/
inductive Space where
  /-- Nothing any more. -/
  | ignore
  | blank
  /-- The end of a cell. -/
  | tab
  | line
  /-- The end of a line, after which columns begin anew. -/
  | section
  /-- From here on lines stand further in. -/
  | indent
  | unindent
  deriving DecidableEq, Inhabited, Repr

/-- Does the space end a line? -/
def Space.isBreak : Space → Bool
  | line | .section => true
  | _ => false

/-- What was put on the page last. -/
inductive Mark where
  | space
  /-- The end of the file. -/
  | finish
  | int
  /-- A name or another literal. -/
  | word
  | sign (sign : String)
  deriving DecidableEq, Inhabited, Repr

/-- A page. -/
structure Page where
  /-- The lines of the text that is laid out. -/
  lines : Lines
  /-- The groups of comments that are not written yet. -/
  remarks : List (List Remark)
  /-- What is written, the last piece first. -/
  pieces : List Piece := []
  /-- How many pieces are in front of build constraints, in the new and in the old notation. -/
  constraints : List Nat := []
  oldConstraints : List Nat := []
  indent : Nat := 0
  /-- How deep the place is nested in items in braces. -/
  level : Nat := 0
  /-- No blank is put behind a comment. -/
  noBlank : Bool := false
  /-- No line is ended behind a comment. -/
  noBreak : Bool := false
  /-- Columns end with this line. -/
  endsColumns : Bool := false
  /-- Would the end of the line end a statement here? -/
  endsStatement : Bool := false
  mark : Mark := .space
  /-- The opening parenthesis or bracket right in front of the last token. -/
  opened : Option String := none
  /-- White space that waits, at most `Page.maxWaiting` pieces. -/
  waiting : List Space := []
  /-- The place in the text that is laid out. -/
  here : Place := ⟨0, 1, 1⟩
  /-- The line and the column on the page. -/
  line : Nat := 1
  column : Nat := 1
  /-- The place in the text behind the last token or comment. -/
  last : Place := {}
  /-- Lines on the page that are asked for; the next token answers the first question. -/
  asked : List (Option Nat) := []
  /-- Is the page only there to see how much room a part takes? -/
  isTrial : Bool := false
  deriving Inhabited

/-- What changes a page. -/
abbrev Layout := StateM Page

namespace Page

/-- How much white space can wait. -/
def maxWaiting : Nat := 16

/-- An empty page for trials: without comments, on the lines of another page. -/
def trial (p : Page) : Page := { lines := p.lines, remarks := [], isTrial := true }

/-- Is there more than one line on the page? -/
def isBroken (p : Page) : Bool := p.line != 1

/-- The number of bytes on the page, blanks at the end left out. -/
def size (p : Page) : Nat :=
  ((p.pieces.dropWhile Piece.isBlank).map fun piece => piece.plain.length).foldr (· + ·) 0

end Page

namespace Layout

/-! ### Writing -/

/-- Writes the tabs at the beginning of a line. -/
def writeIndent : Layout Unit := modify fun p =>
  { p with
    pieces := List.replicate p.indent .tab ++ p.pieces
    here := { p.here with
      offset := p.here.offset + p.indent, column := p.here.column + p.indent }
    column := p.column + p.indent }

/-- Writes white space `n` times. Where columns end with the line, nothing is aligned any more. -/
def writePiece (piece : Piece) (n : Nat) : Layout Unit := do
  let ends := (← get).endsColumns
  let isBreak := piece == .lineEnd || piece == .sectionEnd
  let piece := if !ends then piece else if isBreak then .sectionEnd else .blank
  if isBreak then modify fun p => { p with endsColumns := false }
  if (← get).column == 1 then writeIndent
  modify fun p =>
    let offset := p.here.offset + n
    { p with
      pieces := List.replicate n piece ++ p.pieces
      here := if isBreak then ⟨offset, p.here.line + n, 1⟩
        else ⟨offset, p.here.line, p.here.column + n⟩
      line := if isBreak then p.line + n else p.line
      column := if isBreak then 1 else p.column + n }

/-- Writes text that comes from a place, or from right behind the text in front of it. A line end in
it ends the columns. -/
def writeText (place : Place) (text : Bytes) : Layout Unit := do
  if (← get).column == 1 then writeIndent
  let breaks := text.countP fun b => b == 10 || b == 12
  let tail := (text.reverse.takeWhile fun b => !(b == 10 || b == 12)).length + 1
  modify fun p =>
    let from_ := if place.isValid then place else p.here
    let here : Place := ⟨from_.offset + text.length, from_.line + breaks,
      if 0 < breaks then tail else from_.column + text.length⟩
    { p with
      pieces := .text text :: p.pieces
      endsColumns := p.endsColumns || 0 < breaks
      here
      line := p.line + breaks
      column := if 0 < breaks then tail else p.column + text.length
      last := here }

/-! ### White space that waits -/

/-- Writes the end of a line that is held back, if there is one. -/
def writeHeld : Option Space → Layout Unit
  | none => pure ()
  | some .line => writePiece .lineEnd 1
  | some _ => writePiece .sectionEnd 1

/-- Writes white space. The end of a line is held back: if lines stand further out behind it, this
holds for the next line already, and columns end. -/
def release (held : Option Space) : List Space → Layout Unit
  | [] => writeHeld held
  | .unindent :: rest => do
    modify fun p => { p with indent := p.indent - 1 }
    release (held.map fun _ => .section) rest
  | .line :: rest => do
    writeHeld held
    release (some .line) rest
  | .section :: rest => do
    writeHeld held
    release (some .section) rest
  | .indent :: rest => do
    writeHeld held
    modify fun p => { p with indent := p.indent + 1 }
    release none rest
  | .blank :: rest => do
    writeHeld held
    writePiece .blank 1
    release none rest
  | .tab :: rest => do
    writeHeld held
    writePiece .softTab 1
    release none rest
  | .ignore :: rest => do
    writeHeld held
    release none rest

/-- Writes the first `n` pieces of the white space that waits. -/
def releaseFirst (n : Nat) : Layout Unit := do
  let waiting := (← get).waiting
  release none (waiting.take n)
  modify fun p => { p with waiting := waiting.drop n }

/-- Writes all white space that waits. -/
def releaseAll : Layout Unit := do releaseFirst (← get).waiting.length

/-! ### Places -/

/-- The line of an offset in the text. -/
def lineOf (offset : Nat) : Layout Nat := return (← get).lines.lineOf offset

/-- What comes next stands at this offset in the text. -/
def goTo (offset : Nat) : Layout Unit := modify fun p => { p with here := p.lines.place offset }

/-- What comes next stands at this offset in the text, if it stands there at all. -/
def goTo? : Option Nat → Layout Unit
  | some offset => goTo offset
  | none => pure ()

/-- Runs a layout and gives the line on the page on which its first token stands. -/
def asking (layout : Layout Unit) : Layout Nat := do
  modify fun p => { p with asked := none :: p.asked }
  layout
  let p ← get
  set { p with asked := p.asked.tail }
  pure ((p.asked.head?.bind id).getD p.line)

/-- The next token answers the first question for its line. -/
def answer : Layout Unit := modify fun p =>
  { p with
    asked := match p.asked with
      | none :: rest => some p.line :: rest
      | asked => asked }

end Layout

end TensorLang.Emit
