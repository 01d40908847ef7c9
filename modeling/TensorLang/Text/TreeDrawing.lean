import TensorLang.Text.Width

/-!
# Trees drawn with characters

A tree is drawn from the top down: the label of a node stands above its children, which stand side
by side with three columns between them, and is centred between the first and the last of them. The
line below the label has a bar under the label and slashes above the children.
-/

namespace TensorLang

/-- A tree of labels. -/
inductive LabelTree where
  | node (label : Bytes) (children : List LabelTree)
  deriving Inhabited

/-- A drawn tree: lines that are `width` columns wide, and the column by which its parent holds
it. -/
structure Block where
  lines : List Bytes
  width : Nat
  root : Nat
  deriving DecidableEq, Inhabited, Repr

namespace Block

/-- The columns between siblings. -/
def gap : Nat := 3

/-- A line filled up with blanks to a width in columns. -/
def padTo (width : Nat) (line : Bytes) : Bytes := line ++ Bytes.blanks (width - Text.width line)

/-- A label without children. -/
def leaf (label : Bytes) : Block := ⟨[label], Text.width label, Text.width label / 2⟩

/-- The roots of blocks that stand side by side, the first of them at column `start`. -/
def rootsFrom (start : Nat) : List Block → List Nat
  | [] => []
  | b :: rest => (start + b.root) :: rootsFrom (start + b.width + gap) rest

/-- The columns that blocks take side by side. -/
def totalWidth (kids : List Block) : Nat :=
  (kids.map Block.width).foldr (· + ·) 0 + gap * (kids.length - 1)

/-- Row `n` of blocks that stand side by side. -/
def row (kids : List Block) (n : Nat) : Bytes :=
  Bytes.joinWith (Bytes.blanks gap) (kids.map fun kid => padTo kid.width ((kid.lines[n]?).getD []))

/-- The sign in column `col` of the line below a label: a bar under the label's root, a slash above
the root of each child. -/
def connectorAt (root : Nat) (roots : List Nat) (col : Nat) : UInt8 :=
  if col = root then 124 else if roots.contains col then (if col < root then 47 else 92) else 32

/-- A label above blocks. -/
def above (label : Bytes) (kids : List Block) : Block :=
  let labelWidth := Text.width label
  let roots := rootsFrom 0 kids
  let middle := ((roots.head?).getD 0 + (roots.getLast?).getD 0) / 2
  let labelStart := middle - labelWidth / 2
  let shift := labelWidth / 2 - middle
  let root := labelStart + labelWidth / 2
  let width := max (max (totalWidth kids + shift) (labelStart + labelWidth)) (root + 1)
  let connector := (List.range width).map (connectorAt root (roots.map (· + shift)))
  let height := (kids.map fun kid => kid.lines.length).foldl max 0
  let rows := (List.range height).map fun n => padTo width (Bytes.blanks shift ++ row kids n)
  ⟨padTo width (Bytes.blanks labelStart ++ label) :: connector :: rows, width, root⟩

end Block

namespace LabelTree

mutual

/-- The drawing of a tree. -/
def draw : LabelTree → Block
  | node label [] => Block.leaf label
  | node label (kid :: kids) => Block.above label (drawAll (kid :: kids))

/-- The drawings of several trees. -/
def drawAll : List LabelTree → List Block
  | [] => []
  | tree :: rest => tree.draw :: drawAll rest

end

/-- The lines of a drawing without blanks at their ends. -/
def text (t : LabelTree) : Bytes :=
  t.draw.lines.flatMap fun line => Bytes.trimRight (· == 32) line ++ "\n".utf8

end LabelTree

end TensorLang
