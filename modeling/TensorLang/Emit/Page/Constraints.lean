import TensorLang.Emit.Constraint
import TensorLang.Emit.Page.Basic

/-!
# Build constraints on the page

Build constraints belong to the top of a file. Those that stand elsewhere are moved there when the
page is finished: below the comments that a blank line separates from the rest of the file, and with
a blank line behind them.

* `Page.finished` is what is on a page, with the build constraints at the top.
-/

namespace TensorLang.Emit

open Columns (Piece)

/-- Notes where a comment begins that is a build constraint. -/
def Layout.noteConstraint (line : Bytes) : Layout Unit := modify fun p =>
  if (Constraint.newText? line).isSome then
    { p with constraints := p.constraints ++ [p.pieces.length] }
  else if (Constraint.oldText? line).isSome then
    { p with oldConstraints := p.oldConstraints ++ [p.pieces.length] }
  else p

namespace Page

/-- Does the piece end a line? -/
def endsLine : Piece → Bool
  | .lineEnd | .sectionEnd => true
  | _ => false

/-- The pieces up to the first end of a line. -/
def firstLine : List Piece → List Piece
  | [] => []
  | piece :: rest => if endsLine piece then [piece] else piece :: firstLine rest

/-- The pieces behind blanks and a comment that ends its line, and whether there is no such
comment. -/
def dropRemark (pieces : List Piece) : List Piece × Bool :=
  let rest := pieces.dropWhile fun piece => piece == .blank || piece == .tab
  match rest with
  | .text text :: _ =>
    if Bytes.startsWith text "//".utf8 then (rest.dropWhile fun piece => !endsLine piece, false)
    else (rest, true)
  | _ => (rest, true)

/-- The number of pieces at the top up to the last empty line in front of anything but comments.
`size` pieces are in front, and `last` is the number up to the last empty line. -/
def topSize : (fuel size last : Nat) → List Piece → Nat
  | 0, _, last, _ => last
  | fuel + 1, size, last, pieces =>
    match dropRemark pieces with
    | (piece :: rest, isEmpty) =>
      if endsLine piece then
        let size := size + (pieces.length - rest.length)
        topSize fuel size (if isEmpty then size else last) rest
      else last
    | ([], _) => last

/-- Appends pieces without doubling an empty line. -/
def appendLines (above below : List Piece) : List Piece :=
  let isOpen := match above.reverse with
    | [] => true
    | a :: b :: _ => endsLine a && endsLine b
    | _ => false
  above ++ (if isOpen && below.head?.any endsLine then below.tail else below)

/-- Leaves out the lines that begin at the given numbers of pieces. `size` pieces are in front, and
`above` is what has been kept. -/
def dropLines (size : Nat) (above : List Piece) : List Nat → List Piece → List Piece
  | [], pieces => appendLines above pieces
  | start :: rest, pieces =>
    if start < size then dropLines size above rest pieces
    else
      let kept := pieces.take (start - size)
      let tail := pieces.drop (start - size)
      let line := firstLine tail
      dropLines (start + line.length) (appendLines above kept) rest (tail.drop line.length)

/-- The constraint that stands at a number of pieces. One that is indented is not read. -/
def constraintAt? (pieces : List Piece) (start : Nat) : Option Constraint :=
  match pieces[start]? with
  | some (.text line) => Constraint.ofLine? line
  | _ => none

/-- All that the constraints say together, if they can be read. -/
def constraint? (p : Page) (pieces : List Piece) : Option Constraint :=
  match p.constraints with
  | [] => (p.oldConstraints.mapM (constraintAt? pieces)).map (Constraint.join .both)
  | [start] => constraintAt? pieces start
  | _ => none

/-- The lines with the constraints. Those that cannot be read are left as they are. -/
def constraintLines (p : Page) (pieces : List Piece) : List Piece :=
  match p.constraint? pieces with
  | none => (p.constraints ++ p.oldConstraints).flatMap fun start => firstLine (pieces.drop start)
  | some c =>
    let old := if p.oldConstraints.isEmpty then [] else c.oldLines
    (("//go:build ".utf8 ++ c.text) :: old).flatMap fun line => [.text line, .lineEnd]

/-- What is on a page, with the build constraints at the top. -/
def finished (p : Page) : List Piece :=
  let pieces := p.pieces.reverse
  if p.constraints.isEmpty && p.oldConstraints.isEmpty then pieces
  else
    let top := topSize (pieces.length + 1) 0 0 pieces
    let first := ((p.constraints ++ p.oldConstraints).find? (· < top)).getD top
    let starts := (p.constraints ++ p.oldConstraints).mergeSort (· ≤ ·)
    let rest := dropLines first [] starts (pieces.drop first)
    let rest := match rest.reverse with
      | a :: b :: _ => if endsLine a && endsLine b then rest.dropLast else rest
      | _ => rest
    pieces.take first ++ p.constraintLines pieces ++ [.lineEnd] ++ rest

end Page

end TensorLang.Emit
