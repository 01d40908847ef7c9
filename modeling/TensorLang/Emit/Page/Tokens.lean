import TensorLang.Emit.Page.Remarks
import TensorLang.Emit.Tree

/-!
# Tokens on the page

Every token goes through `Layout.put`, which first settles the white space and the comments in front
of it.

* `Layout.sign`, `Layout.name` and `Layout.constant` put tokens on the page.
* `Layout.space` and `Layout.breakTo` ask for white space in front of the next token.
* `Layout.room?` tells how much room a part takes on one line.
-/

namespace TensorLang.Emit.Layout

/-- Keeps in mind what the last token opened. -/
def noteOpening : Layout Unit := modify fun p =>
  { p with
    opened := match p.mark with
      | .space => p.opened
      | .sign s => if s == "(" || s == "[" then some s else none
      | _ => none }

/-- Asks for white space. -/
def space (s : Space) : Layout Unit := do
  noteOpening
  if s != .ignore then
    if (← get).waiting.length == Page.maxWaiting then releaseAll
    modify fun p =>
      { p with
        waiting := p.waiting ++ [s]
        endsStatement := p.endsStatement && !s.isBreak
        mark := .space }

/-- Puts a token on the page. Blank lines between a comment and the token stay. `ends` tells whether
the end of the line behind the token would end a statement. -/
def put (mark : Mark) (text : Bytes) (ends : Bool) : Layout Unit := do
  noteOpening
  modify fun p => { p with mark }
  let next := (← get).here
  let (wrote, dropped) ← flush next mark
  let p ← get
  let gap := if p.endsStatement then 0 else min (next.line - p.here.line) maxBreaks
  let gap := if wrote && gap == maxBreaks then gap - 1 else gap
  if 0 < gap then writePiece (if dropped then .sectionEnd else .lineEnd) gap
  answer
  writeText next text
  modify fun p => { p with endsStatement := ends && gap == 0 }

/-- Would the last token and a sign run together? -/
def runsTogether (mark : Mark) (sign : Bytes) : Bool :=
  match mark, sign.head? with
  | .int, some b => b == 46
  | .sign "+", some b => b == 43
  | .sign "-", some b => b == 45
  | .sign "/", some b => b == 42
  | .sign "<", some b => b == 45 || b == 60
  | .sign "&", some b => b == 38 || b == 94
  | _, _ => false

/-- Puts a keyword or sign on the page. -/
def sign (s : String) : Layout Unit := do
  let text := s.utf8
  if runsTogether (← get).mark text then modify fun p => { p with waiting := [.blank] }
  put (.sign s) text (Token.endsStatement .sign s)

/-- Puts a keyword or sign that stands at an offset on the page. -/
def signAt (offset : Nat) (s : String) : Layout Unit := do
  goTo offset
  sign s

/-- Puts a name on the page. -/
def name (n : Name) : Layout Unit := do
  goTo n.offset
  put .word n.text true

/-- Puts a literal on the page, numbers in their usual spelling. -/
def constant (c : Constant) : Layout Unit := do
  goTo c.offset
  let isNumber := c.kind == .int || c.kind == .float || c.kind == .imaginary
  put (if c.kind == .int then .int else .word)
    (if isNumber && !(← get).isTrial then Literal.plainNumber c.text else c.text) true

/-- Ends lines until the given line of the text is reached, at least `least` and at most
`maxBreaks`. `s` goes in front of them. Gives zero if no line ends, one if one line ends, and more
if there are several or columns end. -/
def breakTo (line least : Nat) (s : Space) (endsColumns : Bool) : Layout Nat := do
  let n := max (min (line - (← get).here.line) maxBreaks) least
  if n == 0 then pure 0
  else
    space s
    if endsColumns then space .section
    for _ in [0:if endsColumns then n - 1 else n] do space .line
    pure (if endsColumns then n + 1 else n)

/-- The number of lines on the page below a line of the page. -/
def linesFrom (line : Nat) : Layout Nat := return (← get).line - line

/-- The number of columns between a column and the end of the page, if the page is still on the line
of an offset. -/
def distanceFrom (offset : Nat) (column : Int) : Layout (Option Nat) := do
  let p ← get
  if p.lines.lineOf offset == p.here.line then pure (some ((p.column : Int) - column).toNat)
  else pure none

/-- The number of bytes that a part takes on one line, if it can stand on one. -/
def room? (layout : Layout Unit) : Layout (Option Nat) := do
  let p ← get
  let (_, trial) := StateT.run (do layout; releaseAll : Layout Unit) p.trial
  pure (if trial.isBroken then none else some trial.size)

end TensorLang.Emit.Layout
