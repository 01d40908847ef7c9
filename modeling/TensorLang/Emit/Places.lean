import TensorLang.Source.Path
import TensorLang.Text.Decimal

/-!
# Places in emitted code

Lines and columns of offsets. A comment of the form `//line name:number` renames the lines behind
it; faults are ordered by the renamed places, and layout goes by the lines as they are.

* `Lines.place` is the place of an offset in the text as it is.
* `Renaming.ofComment` reads the number and the name out of a comment.
* `Places.named` is the renamed place of an offset.
-/

namespace TensorLang.Emit

/-- An offset with its line and column, which count from one. Line zero means no place at all. -/
structure Place where
  offset : Nat := 0
  line : Nat := 0
  column : Nat := 0
  deriving DecidableEq, Inhabited, Repr

/-- Is this a place at all? -/
def Place.isValid (p : Place) : Bool := p.line != 0

/-- The offsets at which lines begin, in order, and the size of the text. -/
structure Lines where
  starts : Array Nat
  size : Nat
  deriving DecidableEq, Inhabited, Repr

namespace Lines

/-- The beginnings of the lines behind the first. A line end at the end of the text begins none. -/
def startsFrom (offset : Nat) : Bytes → List Nat
  | [] => []
  | b :: rest =>
    if b == 10 && !rest.isEmpty then (offset + 1) :: startsFrom (offset + 1) rest
    else startsFrom (offset + 1) rest

/-- The lines of a text. -/
def ofText (text : Bytes) : Lines := ⟨(0 :: startsFrom 0 text).toArray, text.length⟩

/-- The number of beginnings up to `offset`, halving the range `[lo, hi)`. -/
def countUpTo (starts : Array Nat) (offset : Nat) : (fuel lo hi : Nat) → Nat
  | 0, lo, _ => lo
  | fuel + 1, lo, hi =>
    if lo < hi then
      let mid := (lo + hi) / 2
      if starts.getD mid 0 ≤ offset then countUpTo starts offset fuel (mid + 1) hi
      else countUpTo starts offset fuel lo mid
    else lo

/-- The line of an offset. -/
def lineOf (l : Lines) (offset : Nat) : Nat :=
  countUpTo l.starts (min offset l.size) 64 0 l.starts.size

/-- The line of an offset, zero if there is none. -/
def lineOf? (l : Lines) (offset : Option Nat) : Nat :=
  match offset with
  | some offset => l.lineOf offset
  | none => 0

/-- Where a line begins. -/
def startOf (l : Lines) (line : Nat) : Nat := l.starts.getD (line - 1) 0

/-- The number of lines. -/
def count (l : Lines) : Nat := l.starts.size

/-- The place of an offset. -/
def place (l : Lines) (offset : Nat) : Place :=
  let offset := min offset l.size
  let line := l.lineOf offset
  ⟨offset, line, offset - l.startOf line + 1⟩

/-- The place of an offset, no place if there is none. -/
def place? (l : Lines) (offset : Option Nat) : Place :=
  match offset with
  | some offset => l.place offset
  | none => {}

/-- Joins a line with the one behind it. -/
def merge (l : Lines) (line : Nat) : Lines := ⟨l.starts.eraseIdxIfInBounds line, l.size⟩

end Lines

/-- From an offset on, lines count from `line` and belong to another name. -/
structure Renaming where
  offset : Nat
  name : Bytes
  line : Nat
  /-- The column of the offset, or zero if columns are unknown from there on. -/
  column : Nat
  deriving DecidableEq, Inhabited, Repr

/-- A text with renamed lines. -/
structure Places where
  lines : Lines
  /-- In order of their offsets. -/
  renamings : List Renaming := []
  deriving Inhabited

namespace Places

/-- The name of the text itself. -/
def ownName : Bytes := "main.go".utf8

/-- The name, line and column of an offset. -/
def named (p : Places) (offset : Nat) : Bytes × Nat × Nat :=
  let place := p.lines.place offset
  match (p.renamings.filter fun r => r.offset ≤ place.offset).getLast? with
  | none => (ownName, place.line, place.column)
  | some r =>
    let down := place.line - p.lines.lineOf r.offset
    (r.name, r.line + down,
      if r.column == 0 then 0
      else if down == 0 then r.column + (place.offset - r.offset) else place.column)

/-- The renamed line of an offset. -/
def lineOf (p : Places) (offset : Nat) : Nat := (p.named offset).2.1

/-- Does an offset come before another one, by name, line and column? -/
def before (p : Places) (a b : Nat) : Bool :=
  let (nameA, lineA, columnA) := p.named a
  let (nameB, lineB, columnB) := p.named b
  Bytes.lt nameA nameB || (nameA == nameB &&
    (lineA < lineB || (lineA == lineB &&
      (columnA < columnB || (columnA == columnB && a < b)))))

/-- The first of some offsets. -/
def first (p : Places) (offset : Nat) (others : List Nat) : Nat :=
  others.foldl (fun best o => if p.before o best then o else best) offset

end Places

namespace Renaming

/-- The greatest line and column that can be given. -/
def greatest : Nat := 1073741824

/-- The part behind the last colon: where it begins and the number that it spells. -/
def lastNumber? (text : Bytes) : Option (Nat × Option Nat) :=
  let tail := text.reverse.takeWhile (· != 58)
  if tail.length == text.length then none
  else
    let value := Decimal.value tail.reverse
    some (text.length - tail.length,
      if !tail.isEmpty && tail.all Decimal.isDigit && value < UInt64.size then some value else none)

/-- What a comment says about the lines behind it. The comment, without its closing, begins with one
of the marks of comments and `line` and a blank; `offset` is where it begins and `next` where the
text goes on. A number that is none, or too great, is a fault. -/
def ofComment (places : Places) (text : Bytes) (offset next : Nat) :
    Except Nat (Option Renaming) :=
  let body := text.drop 7
  let offset := offset + 7
  let inRange (n : Nat) : Bool := 0 < n && n ≤ greatest
  match lastNumber? body with
  | none => .ok none
  | some (i, none) => .error (offset + i)
  | some (i, some n) =>
    match lastNumber? (body.take (i - 1)) with
    | some (j, some line) =>
      if !inRange n then .error (offset + i)
      else if !inRange line then .error (offset + j)
      else
        let name := body.take (j - 1)
        let name := if name.isEmpty then (places.named offset).1 else Path.clean name
        .ok (some ⟨next, name, line, n⟩)
    | _ =>
      if !inRange n then .error (offset + i)
      else
        let name := body.take (i - 1)
        .ok (some ⟨next, if name.isEmpty then [] else Path.clean name, n, 0⟩)

end Renaming

end TensorLang.Emit
