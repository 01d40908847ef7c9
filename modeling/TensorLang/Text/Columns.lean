import TensorLang.Text.Utf8

/-!
# Columns

Text whose lines are cut into cells by tab marks. Cells of neighbouring lines that have the same
number of cells before them form a column, and a column is as wide as its widest cell and one blank.
A line that has no such cell ends the column.

* `Columns.align` gives the widths of all cells.
* `Columns.render` writes the text: empty cells at the beginning of a line become tabs, all others
  are filled up with blanks, and blanks at the end of a line are left out.
-/

namespace TensorLang.Columns

/-- A piece of text to be laid out. -/
inductive Piece where
  /-- Text that stays as it is, line ends in it included. -/
  | text (bytes : Bytes)
  | blank
  /-- Ends a cell. -/
  | tab
  /-- Ends a cell, in a column that vanishes if all of its cells are empty and end like this. -/
  | softTab
  | lineEnd
  /-- Ends the line and with it all columns. -/
  | sectionEnd
  deriving DecidableEq, Inhabited, Repr

namespace Piece

/-- The bytes of a piece if nothing is aligned. -/
def plain : Piece → Bytes
  | text bytes => bytes
  | blank => [32]
  | tab | softTab => [9]
  | lineEnd | sectionEnd => [10]

/-- Is the piece white space within a line? -/
def isBlank : Piece → Bool
  | blank | tab | softTab => true
  | _ => false

/-- The number of characters of a piece. -/
def width : Piece → Nat
  | text bytes => bytes.countP fun b => !Utf8.isTail b
  | _ => 1

end Piece

/-- What stands in front of a tab mark. -/
structure Cell where
  /-- Text and blanks. -/
  content : List Piece
  /-- Does the cell keep its column even if it is empty? -/
  keeps : Bool
  deriving DecidableEq, Inhabited, Repr

/-- The number of characters in a cell. -/
def Cell.width (c : Cell) : Nat := (c.content.map Piece.width).foldr (· + ·) 0

/-- A line: cells, and what stands behind the last tab mark. -/
structure Row where
  cells : List Cell
  rest : List Piece
  deriving DecidableEq, Inhabited, Repr

/-- The rows of a text, in sections. The last row of the last section has no line end. -/
def rows (pieces : List Piece) : List (List Row) :=
  close (pieces.foldl step ⟨[], [], [], []⟩)
where
  /-- Adds a piece to what was read: sections, rows of the last section, cells of the last row and
  pieces of the last cell, all in reverse. -/
  step (acc : List (List Row) × List Row × List Cell × List Piece) (piece : Piece) :
      List (List Row) × List Row × List Cell × List Piece :=
    let (sections, rows, cells, content) := acc
    let row : Row := ⟨cells.reverse, content.reverse⟩
    match piece with
    | .tab => (sections, rows, ⟨content.reverse, true⟩ :: cells, [])
    | .softTab => (sections, rows, ⟨content.reverse, false⟩ :: cells, [])
    | .lineEnd => (sections, row :: rows, [], [])
    | .sectionEnd => ((row :: rows).reverse :: sections, [], [], [])
    | piece => (sections, rows, cells, piece :: content)
  /-- Ends the last row and the last section. -/
  close (acc : List (List Row) × List Row × List Cell × List Piece) : List (List Row) :=
    ((⟨acc.2.2.1.reverse, acc.2.2.2.reverse⟩ :: acc.2.1).reverse :: acc.1).reverse

/-- The width of a column: one more than that of its widest cell, or nothing. -/
def columnWidth (cells : List Cell) : Nat :=
  if cells.any fun c => c.keeps || 0 < c.width then
    (cells.map fun c => c.width + 1).foldl max 0
  else 0

/-- The widths of the cells of each row. Rows that still have cells and follow each other share
their first column; `count` bounds the number of columns. -/
def align : (count : Nat) → List (List Cell) → List (List Nat)
  | 0, rows => rows.map fun _ => []
  | count + 1, rows =>
    (rows.splitBy fun a b => a.isEmpty == b.isEmpty).flatMap fun run =>
      if run.any List.isEmpty then run.map fun _ => []
      else
        let width := columnWidth (run.filterMap List.head?)
        (align count (run.map List.tail)).map (width :: ·)

/-- The distance of tab stops. -/
def tabWidth : Nat := 8

/-- Cells with their widths as pieces. As long as `atStart` holds, nothing but empty cells came
before. -/
def fill (atStart : Bool) : List (Cell × Nat) → List Piece
  | [] => []
  | (cell, width) :: rest =>
    if cell.content.isEmpty then
      (if atStart then List.replicate ((width + tabWidth - 1) / tabWidth) .tab
        else List.replicate width .blank) ++ fill atStart rest
    else cell.content ++ List.replicate (width - cell.width) .blank ++ fill false rest

/-- A row with its widths, without blanks at its end. -/
def writeRow (row : Row) (widths : List Nat) : Bytes :=
  let pieces := fill true (row.cells.zip widths) ++ row.rest
  ((pieces.reverse.dropWhile Piece.isBlank).reverse).flatMap Piece.plain

/-- The lines of a section. -/
def writeSection (rows : List Row) : List Bytes :=
  let count := (rows.map fun r => r.cells.length).foldl max 0
  List.zipWith writeRow rows (align count (rows.map Row.cells))

/-- The text with its columns aligned. -/
def render (pieces : List Piece) : Bytes :=
  Bytes.joinWith [10] ((rows pieces).flatMap writeSection)

end TensorLang.Columns
