import TensorLang.Emit.Page.Constraints
import TensorLang.Emit.Prose

/-!
# Comments on the page

Comments are written in front of the token that follows them, between the white space that waits for
it. They stay on the line of the token in front of them if they were there, and keep their distance
from it otherwise.

* `Layout.flush` writes the comments in front of the next token, and the white space.
-/

namespace TensorLang.Emit.Layout

/-- A place behind everything. -/
def finish : Place := ⟨1073741824, 1073741824, 0⟩

/-- The greatest number of line ends in a row. -/
def maxBreaks : Nat := 2

/-- Does a group of comments end a line? -/
def endsLine (lines : Lines) (group : List Remark) : Bool :=
  let line := lines.lineOf? (group.head?.map Remark.offset)
  group.any fun r => lines.lineOf r.offset != line || r.isLine || r.text.any (· == 10)

/-- Does a group of comments come in front of a place? Where the end of a line would end a
statement, one that ends a line does not. -/
def comesBefore (p : Page) (next : Place) (group : List Remark) : Bool :=
  (group.head?.any fun r => r.offset < next.offset) &&
    (!p.endsStatement || !endsLine p.lines group)

/-- The groups of comments in front of a place. -/
def remarksBefore (p : Page) (next : Place) : List (List Remark) :=
  p.remarks.takeWhile (comesBefore p next)

/-- Is there a comment in front of an offset? -/
def hasRemarkBefore (offset : Nat) : Layout Bool := do
  let p ← get
  return !(remarksBefore p (p.lines.place offset)).isEmpty

/-- The number of bytes of the comments in front of an offset. -/
def remarkSizeBefore (offset : Nat) : Layout Nat := do
  let p ← get
  return ((remarksBefore p (p.lines.place offset)).flatten.map fun r => r.text.length).foldr
    (· + ·) 0

/-! ### White space in front of a comment -/

/-- In front of a comment on the same line: blanks vanish, the ends of cells and indentation stay.
Gives what remains, where it stops, and whether a cell ends. -/
def sweepSame (i : Nat) : List Space → List Space × Option Nat × Bool
  | .blank :: rest =>
    let (rest, stop, hasTab) := sweepSame (i + 1) rest
    (.ignore :: rest, stop, hasTab)
  | .tab :: rest =>
    let (rest, stop, _) := sweepSame (i + 1) rest
    (.tab :: rest, stop, true)
  | .indent :: rest =>
    let (rest, stop, hasTab) := sweepSame (i + 1) rest
    (.indent :: rest, stop, hasTab)
  | [] => ([], none, false)
  | rest => (rest, some i, false)

/-- In front of a comment on another line: all but changes of the indentation vanishes, up to the
first end of a line. The last change outwards belongs to the next token, unless the comment is
`aligned` with it. Gives what remains, where it stops, and whether the end of a line vanished. -/
def sweepOther (aligned : Bool) (i : Nat) : List Space → List Space × Option Nat × Bool
  | .blank :: rest | .tab :: rest =>
    let (rest, stop, dropped) := sweepOther aligned (i + 1) rest
    (.ignore :: rest, stop, dropped)
  | .indent :: rest =>
    let (rest, stop, dropped) := sweepOther aligned (i + 1) rest
    (.indent :: rest, stop, dropped)
  | .unindent :: rest =>
    if aligned || rest.head? == some .unindent then
      let (rest, stop, dropped) := sweepOther aligned (i + 1) rest
      (.unindent :: rest, stop, dropped)
    else (.unindent :: rest, some i, false)
  | .line :: rest | .section :: rest => (.ignore :: rest, some i, true)
  | .ignore :: rest => (.ignore :: rest, some i, false)
  | [] => ([], none, false)

/-- Writes the white space in front of a comment at a place. `next` is the place of the next token,
`previous` the comment of the same token in front of it. -/
def writeRemarkStart (place next : Place) (previous : Option Remark) (mark : Mark) :
    Layout Unit := do
  let p ← get
  let followsLine := previous.any Remark.isLine
  if p.pieces.isEmpty then pure ()
  else if place.line == p.last.line && !followsLine then
    let hasTab ← if previous.isNone then do
        let (waiting, stop, hasTab) := sweepSame 0 p.waiting
        set { p with waiting }
        releaseFirst (stop.getD 0)
        pure hasTab
      else pure false
    if !hasTab then writePiece (if place.line == next.line then .blank else .tab) 1
  else
    let aligned := mark != .sign "\x7d" && place.column == next.column
    let (waiting, stop, dropped) := sweepOther aligned 0 p.waiting
    set { p with waiting }
    releaseFirst (stop.getD 0)
    let p ← get
    let gap := if place.isValid && p.last.isValid then place.line - p.last.line else 0
    let gap := if p.indent == 0 && dropped && previous.isNone then gap + 1 else gap
    let gap := if gap == 0 && followsLine then 1 else gap
    if 0 < gap then writePiece .sectionEnd (min gap maxBreaks)

/-! ### Comments -/

/-- Writes the lines of a comment behind its first one. -/
def writeLines : List Bytes → Layout Unit
  | [] => pure ()
  | line :: rest => do
    writePiece .sectionEnd 1
    if !line.isEmpty then writeText (← get).here (RemarkText.trimRight line)
    writeLines rest

/-- Writes a comment. One that renames lines must stay at the beginning of its line. -/
def writeRemark (r : Remark) : Layout Unit := do
  let p ← get
  let place := p.lines.place r.offset
  let isFlush := Bytes.startsWith r.text "//line ".utf8 && place.column == 1
  if isFlush then modify fun p => { p with indent := 0 }
  if r.isLine then
    noteConstraint r.text
    writeText place (RemarkText.trimRight r.text)
  else
    let lines := Bytes.splitLines r.text
    let lines := if place.column == 1 && 0 < p.indent then
        lines.take 1 ++ (lines.drop 1).map fun line => 32 :: 32 :: 32 :: line
      else lines
    match RemarkText.straighten lines with
    | [] => pure ()
    | first :: rest =>
      writeText place (RemarkText.trimRight first)
      writeLines rest
  if isFlush then modify fun q => { q with indent := p.indent }

/-- Writes comments in front of the next token. -/
def writeRemarks (next : Place) (mark : Mark) : (previous : Option Remark) → List Remark →
    Layout Unit
  | _, [] => pure ()
  | previous, r :: rest => do
    writeRemarkStart ((← get).lines.place r.offset) next previous mark
    writeRemark r
    writeRemarks next mark (some r) rest

/-- Does a group of comments explain the next token? Then it is not indented, and the token stands
right below it. -/
def isHeadnote (p : Page) (next : Place) (mark : Mark) (group : List Remark) : Bool :=
  match group.head?, group.getLast? with
  | some first, some last =>
    mark != .sign "import" && (p.lines.place first.offset).column == 1 &&
      p.lines.place (last.stop + 1) == next
  | _, _ => false

/-- What comes next follows directly on this place in the text. -/
def continueAt (place : Place) : Layout Unit :=
  modify fun p => { p with here := place, last := place }

/-- Writes groups of comments in front of the next token; what explains it is prose. Gives the last
comment, and none if nothing is left of it. -/
def writeGroups (next : Place) (mark : Mark) : (previous : Option Remark) → List (List Remark) →
    Layout (Option Remark)
  | previous, [] => pure previous
  | previous, group :: rest => do
    let lines := (← get).lines
    if isHeadnote (← get) next mark group then
      let tidied := Prose.tidy group
      if tidied.isEmpty then
        writeRemarkStart (lines.place? (group.head?.map Remark.offset)) next previous mark
        continueAt next
        pure none
      else
        writeRemarks next mark previous tidied
        continueAt (lines.place? (group.getLast?.map Remark.stop))
        writeGroups next mark group.getLast? rest
    else
      writeRemarks next mark previous group
      writeGroups next mark group.getLast? rest

/-- The white space behind comments: one end of a line stays if it is needed. Gives what remains,
whether an end of a line stayed, and whether an end of columns vanished. -/
def sweepEnd (needsBreak : Bool) : List Space → List Space × Bool × Bool
  | [] => ([], false, false)
  | s :: rest =>
    match s with
    | .blank | .tab =>
      let (rest, wrote, dropped) := sweepEnd needsBreak rest
      (.ignore :: rest, wrote, dropped)
    | .line | .section =>
      if needsBreak then
        let (rest, _, dropped) := sweepEnd false rest
        (s :: rest, true, dropped)
      else
        let (rest, wrote, dropped) := sweepEnd false rest
        (.ignore :: rest, wrote, dropped || s == .section)
    | s =>
      let (rest, wrote, dropped) := sweepEnd needsBreak rest
      (s :: rest, wrote, dropped)

/-- Writes the white space behind comments. Tells whether it ends a line, and whether an end of
columns vanished. -/
def writeRemarkEnd (needsBreak : Bool) : Layout (Bool × Bool) := do
  let (waiting, wrote, dropped) := sweepEnd needsBreak (← get).waiting
  modify fun p => { p with waiting }
  releaseAll
  if needsBreak && !wrote then
    writePiece .lineEnd 1
    pure (true, dropped)
  else pure (wrote, dropped)

/-- Writes what goes between the last comment and the next token, and the white space. A comment
that does not end its line is separated from a token on the same line, unless the token is a comma
or closes what was opened before the comment. -/
def writeAfterRemark (r : Remark) (next : Place) (mark : Mark) : Layout (Bool × Bool) := do
  let p ← get
  let closesOther := (mark == .sign ")" && p.opened != some "(") ||
    (mark == .sign "]" && p.opened != some "[")
  let isTight := !p.noBlank && !r.isLine && p.lines.lineOf r.offset == next.line &&
    mark != .sign "," && !closesOther
  let breaksHere := p.waiting.any Space.isBreak && !p.noBreak && p.level == 0
  if isTight && !breaksHere then writePiece .blank 1
  writeRemarkEnd ((isTight && breaksHere) || r.isLine || mark == .finish ||
    (mark == .sign "\x7d" && !p.noBreak))

/-- Writes the comments in front of the next token, and the white space that waits for it. Tells
whether a line was ended behind a comment, and whether an end of columns vanished. -/
def flush (next : Place) (mark : Mark) : Layout (Bool × Bool) := do
  let p ← get
  let groups := remarksBefore p next
  set { p with remarks := p.remarks.drop groups.length }
  if groups.isEmpty then
    releaseAll
    pure (false, false)
  else match ← writeGroups next mark none groups with
    | some r => writeAfterRemark r next mark
    | none => writeRemarkEnd false

end TensorLang.Emit.Layout
