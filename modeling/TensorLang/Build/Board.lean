import TensorLang.Build.Stage
import TensorLang.Text.Decimal
import TensorLang.Text.Width

/-!
# The progress board

A board shows one row per file, a header and a bar. It is changed by the events of a build, by ticks
that turn the sign in the header, and by changes of the width.

* `Board.sixths` is what is done of the build, in sixths of a file, and `Board.fraction` its share.
* `Board.view` is the text of the board without colours.
-/

namespace TensorLang.Build

/-- What the board knows of a file. -/
structure Row where
  path : Bytes
  stage : Stage := .other []
  status : Status := .queued
  failure : Option Bytes := none
  deriving DecidableEq, Inhabited, Repr

/-- A progress board. -/
structure Board where
  title : Bytes
  rows : List Row
  width : Nat := 80
  barWidth : Nat := 76
  /-- The status of the whole build, as told last. -/
  overall : Status := .other []
  isClosed : Bool := false
  /-- How often the sign has turned. -/
  ticks : Nat := 0
  deriving DecidableEq, Inhabited, Repr

namespace Board

/-- A board on which all files wait. -/
def ofFiles (title : Bytes) (files : List Bytes) : Board :=
  { title, rows := files.map fun path => { path } }

/-- The place of a file; if it is listed more than once, the last one. -/
def indexOf? (b : Board) (file : Bytes) : Option Nat :=
  ((b.rows.zipIdx.filter fun r => r.1.path == file).getLast?).map Prod.snd

/-- Takes in an event of the build. -/
def apply (b : Board) (e : Event) : Board :=
  if e.file.isEmpty then { b with overall := e.status }
  else
    match b.indexOf? e.file with
    | some i => { b with rows := b.rows.set i ⟨e.file, e.stage, e.status, e.failure⟩ }
    | none => b

/-- No more events come. -/
def close (b : Board) : Board := { b with isClosed := true }

/-- Turns the sign, unless the board is closed; answers whether it goes on turning. -/
def tick (b : Board) : Board × Bool :=
  if b.isClosed then (b, false) else ({ b with ticks := b.ticks + 1 }, true)

/-- The least width of the bar. -/
def leastBarWidth : Nat := 10

/-- Takes in a new width; one that is not positive is ignored. -/
def resize (b : Board) (width : Int) : Board :=
  if width ≤ 0 then b
  else { b with width := width.toNat, barWidth := max (width.toNat - 4) leastBarWidth }

/-- The sixths of its work that lie behind a row. -/
def rowSixths (r : Row) : Nat :=
  if r.status.isFinished then 6 else if r.status == .working then r.stage.sixths else 0

/-- The sixths of all work that lie behind the build. -/
def sixths (b : Board) : Nat := (b.rows.map rowSixths).foldr (· + ·) 0

/-- The share of all work that lies behind the build; without files there is nothing left to do. -/
def fraction (b : Board) : Rat :=
  if b.rows.isEmpty then 1 else (b.sixths : Rat) / (6 * b.rows.length : Nat)

/-- The number of files that are finished. -/
def finished (b : Board) : Nat := b.rows.countP fun r => r.status.isFinished

/-- The number of files that failed. -/
def failed (b : Board) : Nat := b.rows.countP fun r => r.status == .error

/-- How many files are finished, and how many of them failed. -/
def counts (b : Board) : Nat × Nat := (b.finished, b.failed)

/-- Is the build over? -/
def isOver (b : Board) : Bool := b.isClosed || b.overall.isFinished

/-! ### The view -/

/-- The positions of the turning sign. -/
def signs : List String := ["⣾ ", "⣽ ", "⣻ ", "⢿ ", "⡿ ", "⣟ ", "⣯ ", "⣷ "]

/-- The turning sign now. -/
def sign (b : Board) : Bytes := (signs[b.ticks % signs.length]?.getD "").utf8

/-- What is done in a stage. -/
def verb : Stage → Bytes
  | .parse => "parsing".utf8
  | .check => "checking".utf8
  | .generate | .print => "generating".utf8
  | .write => "writing".utf8
  | .other _ => []

/-- The label of a row. -/
def label (r : Row) : Bytes := if r.status == .working then verb r.stage else r.status.name

/-- The width of the labels. -/
def labelWidth : Nat := 10

/-- The label, right aligned; code points are counted. -/
def labelText (r : Row) : Bytes :=
  let text := label r
  Bytes.blanks (labelWidth - (Utf8.codes text).length) ++ text

/-- Cuts a text at a number of columns and shows that it was cut. -/
def cut (limit : Nat) (text : Bytes) : Bytes :=
  if limit == 0 || Text.width text ≤ limit then text
  else Text.truncate limit (if limit ≤ 3 then [] else "...".utf8) text

/-- Replaces line ends of two bytes by those of one. -/
def plainLineEnds : Bytes → Bytes
  | 13 :: 10 :: rest => 10 :: plainLineEnds rest
  | b :: rest => b :: plainLineEnds rest
  | [] => []

/-- A text as a block: tabs are four blanks, and all lines are as wide as the widest. -/
def blockText (text : Bytes) : Bytes :=
  let lines := Bytes.splitLines (plainLineEnds (Bytes.replaceByte 9 (Bytes.blanks 4) text))
  let widest := (lines.map Text.width).foldl max 0
  match lines with
  | [line] => line
  | lines => Bytes.joinWith [10] (lines.map fun l => l ++ Bytes.blanks (widest - Text.width l))

/-- The columns for names. -/
def nameWidth (b : Board) : Nat := max (b.width - labelWidth - 4) 20

/-- A row. -/
def rowText (b : Board) (r : Row) : Bytes :=
  "  ".utf8 ++ blockText (labelText r) ++ " ".utf8 ++ cut b.nameWidth r.path ++
    (match r.failure with
      | some f => " ".utf8 ++ blockText (cut b.nameWidth f)
      | none => []) ++ [10]

/-- The header: counts, and the turning sign while the build goes on. -/
def header (b : Board) : Bytes :=
  (if b.isOver then [] else b.sign ++ " ".utf8) ++ b.title ++ ": ".utf8 ++
    Decimal.ofNat b.finished ++ "/".utf8 ++ Decimal.ofNat b.rows.length ++ " files".utf8 ++
    (if 0 < b.failed then ", ".utf8 ++ Decimal.ofNat b.failed ++ " failed".utf8 else [])

/-- The bar at rest: empty until the build is over, full afterwards. -/
def bar (b : Board) : Bytes :=
  let text := if b.isOver then " 100%".utf8 else "   0%".utf8
  Bytes.replicate (b.barWidth - text.length) (if b.isOver then "█".utf8 else "░".utf8) ++ text

/-- The text of the board; without files it is empty. -/
def view (b : Board) : Bytes :=
  if b.rows.isEmpty then []
  else
    blockText b.header ++ [10, 10] ++ b.rows.flatMap b.rowText ++ [10] ++ b.bar ++ [10]

end Board

end TensorLang.Build
