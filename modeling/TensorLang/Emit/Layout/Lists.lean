import TensorLang.Emit.Page.Tokens

/-!
# The layout of lists

Items stay on the lines they were on. If lines follow each other, the values behind keys are
aligned, unless the keys differ too much in size.

The layouts of trees call each other through `Layouts`, which is built in levels like the rules of
the grammar.

* `Layout.terms` lays out expressions with commas between them.
-/

namespace TensorLang.Emit

/-- The layouts that others call. -/
structure Layouts where
  /-- An expression: with parentheses if it binds less than `least`, and the fewer blanks the deeper
  it is nested in others. -/
  term : (least depth : Nat) → Term → Layout Unit
  /-- A statement; `closes` tells that a closing brace follows. -/
  command : Command → (closes : Bool) → Layout Unit
  declaration : Declaration → Layout Unit

namespace Layouts

/-- An expression that is not part of another one. -/
def expr (l : Layouts) (x : Term) : Layout Unit := l.term 0 1 x

end Layouts

namespace Layout

/-- How a list of expressions is written. -/
structure ListMode where
  /-- A comma follows the last item if the closing sign is on another line. -/
  hasLastComma : Bool := false
  /-- Lines of the list stand where the page stands already. -/
  isIndented : Bool := false

/-- How far a list has been written. -/
structure ListState where
  /-- What goes in front of the next end of a line: indentation, once. -/
  pending : Space
  /-- The number of items up to the last end of a line, or nothing. -/
  lastBreak : Option Nat := none
  /-- The size of the last item, zero if it does not stand on one line. -/
  size : Nat := 0
  /-- The sizes of the items since columns began. -/
  sizes : List Nat := []
  /-- The line of the last item. -/
  line : Nat

/-- Sizes up to this one do not differ too much. -/
def smallSize : Nat := 40

/-- Is a size at least two and a half times the geometric mean of others, or the mean at least two
and a half times the size? -/
def isFar (size : Nat) (sizes : List Nat) : Bool :=
  let n := sizes.length
  let product := sizes.foldl (· * ·) 1
  Nat.pow (5 * size) n ≤ Nat.pow 2 n * product || Nat.pow 5 n * product ≤ Nat.pow (2 * size) n

/-- Do columns begin anew between items of the given sizes? -/
def endsColumns (before size : Nat) (sizes : List Nat) : Bool :=
  if before == 0 || size == 0 then true
  else if sizes.isEmpty || (before ≤ smallSize && size ≤ smallSize) then false
  else isFar size sizes

/-- The size of an item: that of its key, if it has one, and zero if it does not fit on one line. On
a page for trials, an item that does not fit breaks the page at once. -/
def itemSize (l : Layouts) (x : Term) : Layout Nat := do
  match ← room? (l.expr x) with
  | none =>
    modify fun p => if p.isTrial then { p with line := p.line + 1 } else p
    pure 0
  | some size =>
    match x with
    | .pair key _ _ => return (← room? (l.expr key)).getD 0
    | _ => pure size

/-- What goes between an item and the one before it. -/
def separate (s : ListState) (i : Nat) (x : Term) (line : Nat) (isNew : Bool) :
    Layout ListState := do
  let breaks := 0 < s.line && s.line < line
  if !breaks then goTo x.start
  sign ","
  let n ← if breaks then
      breakTo line 0 s.pending (isNew || (s.lastBreak.map (· + 1)).getD 0 < i)
    else pure 0
  if n == 0 then
    space .blank
    pure s
  else
    pure { s with
      pending := .ignore, lastBreak := some i, sizes := if 1 < n then [] else s.sizes }

/-- Writes the items of a list that spans lines. `isSized` tells that it is known where the list
begins and ends, and `isSingle` that it has only one item. -/
def itemsFrom (l : Layouts) (depth : Nat) (isSized isSingle : Bool) :
    (i : Nat) → ListState → List Term → Layout ListState
  | _, s, [] => pure s
  | i, s, x :: rest => do
    let p ← get
    if p.isTrial && p.isBroken then pure s
    else
      let line := p.lines.lineOf x.start
      let size ← if isSized then itemSize l x else pure 0
      let isNew := endsColumns s.size size s.sizes
      let breaks := 0 < s.line && s.line < line
      let s ← if 0 < i then separate s i x line isNew else pure s
      match x with
      | .pair key colon value =>
        if !isSingle && 0 < size && breaks then
          l.expr key
          signAt colon ":"
          space .tab
          l.expr value
        else l.term 0 depth x
      | _ => l.term 0 depth x
      itemsFrom l depth isSized isSingle (i + 1)
        { s with size, sizes := if 0 < size then size :: s.sizes else s.sizes, line } rest

/-- Writes items on one line. -/
def itemsOnLine (l : Layouts) (depth : Nat) : (i : Nat) → List Term → Layout Unit
  | _, [] => pure ()
  | i, x :: rest => do
    if 0 < i then
      goTo x.start
      sign ","
      space .blank
    l.term 0 depth x
    itemsOnLine l depth (i + 1) rest

/-- Writes expressions with commas between them. `before` and `after` are the offsets of what stands
around them. -/
def terms (l : Layouts) (before : Option Nat) (list : List Term) (depth : Nat) (mode : ListMode)
    (after : Option Nat) : Layout Unit := do
  let lines := (← get).lines
  let start := lines.lineOf? (list.head?.map Term.start)
  let stop := lines.lineOf? (list.getLast?.map Term.stop)
  let previous := lines.lineOf? before
  if list.isEmpty then pure ()
  else if before.isSome && previous == start && start == stop then itemsOnLine l depth 0 list
  else
    let pending : Space := if mode.isIndented then .ignore else .indent
    let n ← if before.isSome && previous < start then breakTo start 0 pending true else pure 0
    let first : ListState := if 0 < n then ⟨.ignore, some 0, 0, [], previous⟩
      else ⟨pending, none, 0, [], previous⟩
    let s ← itemsFrom l depth (before.isSome && after.isSome) (list.length == 1) 0 first list
    let closes := mode.hasLastComma && after.isSome && (← get).here.line < lines.lineOf? after
    if closes then sign ","
    if s.pending == .ignore && !mode.isIndented then space .unindent
    if closes then space .section

/-- Writes names with commas between them. -/
def names (l : Layouts) (list : List Name) (isIndented : Bool) : Layout Unit :=
  terms l none (list.map .name) 1 { isIndented } none

end Layout

end TensorLang.Emit
