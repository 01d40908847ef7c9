import TensorLang.Emit.Layout.Lists

/-!
# The layout of parameters, fields and bodies

* `Layout.parameters` lays out parameters and results, `Layout.fields` the members of records and
  interfaces.
* `Layout.functionBody` lays out a body, on one line if it was on one line and is small enough.
-/

namespace TensorLang.Emit.Layout

/-! ### Parameters -/

/-- What parameters belong to. -/
inductive ParamMode where
  | values
  /-- The type parameters of a function. -/
  | functionTypes
  /-- The type parameters of a type. -/
  | typeTypes
  deriving DecidableEq

/-- Would a name and the term behind it read as one value? -/
def combinesWithName : Term → Bool
  | .star _ x => !x.isTypeElement
  | .binary lhs _ _ rhs => combinesWithName lhs && !rhs.isTypeElement
  | _ => false

/-- Writes parameters. `pending` is what goes in front of the next end of a line, and `previous` the
line on which the last parameter ends; gives both. -/
def parametersFrom (l : Layouts) : (i : Nat) → (pending : Space) → (previous : Nat) → List Field →
    Layout (Space × Nat)
  | _, pending, previous, [] => pure (pending, previous)
  | i, pending, previous, field :: rest => do
    let start ← lineOf field.start
    let stop ← lineOf field.stop
    let breaks := 0 < previous && previous < start
    if 0 < i then
      if !breaks then goTo field.start
      sign ","
    let n ← if breaks then breakTo start 0 pending true else pure 0
    let pending := if 0 < n then .ignore else pending
    if n == 0 && 0 < i then space .blank
    if !field.names.isEmpty then
      names l field.names (pending != .indent)
      space .blank
    l.expr field.type.bare
    parametersFrom l (i + 1) pending stop rest

/-- Does a list of type parameters need a comma, so that it is not taken for the length of an
array? -/
def needsComma (f : Fields) : Bool :=
  match f.list with
  | [field] => f.count == 1 && combinesWithName field.type.bare
  | _ => false

/-- Writes parameters in parentheses or brackets. -/
def parameters (l : Layouts) (f : Fields) (mode : ParamMode) : Layout Unit := do
  goTo? f.opening
  sign (if mode == .values then "(" else "[")
  if !f.list.isEmpty then
    let lines := (← get).lines
    let (pending, stop) ← parametersFrom l 0 .indent (lines.lineOf? f.opening) f.list
    let closing := lines.lineOf? f.closing
    if 0 < stop && stop < closing then
      sign ","
      let _ ← breakTo closing 0 .ignore true
    else if mode == .typeTypes && needsComma f then sign ","
    if pending == .ignore then space .unindent
  goTo? f.closing
  sign (if mode == .values then ")" else "]")

/-- Writes parameters and results. A single result without a name has no parentheses. -/
def signature (l : Layouts) : Signature → Layout Unit
  | .mk _ typeParams params results _ => do
    match typeParams with
    | some f => parameters l f .functionTypes
    | none => pure ()
    parameters l params .values
    match results with
    | some f =>
      match f.list with
      | [] => pure ()
      | [.mk [] type _ _] =>
        space .blank
        l.expr type.bare
      | _ =>
        space .blank
        parameters l f .values
    | none => pure ()

/-! ### Fields -/

/-- The greatest size of a field on the line of its braces. -/
def maxFieldSize : Nat := 30

/-- Can the members stand on the line of their braces? -/
def isSmallField (l : Layouts) : List Field → Layout Bool
  | [.mk names type none false] => do
    match ← room? (l.expr type) with
    | some size => pure ((if names.isEmpty then 0 else 1) + size ≤ maxFieldSize)
    | none => pure false
  | _ => pure false

/-- Writes a method or an embedded type. -/
def method (l : Layouts) : Field → Layout Unit
  | .mk (n :: _) (.functionType s) _ _ => do
    name n
    signature l s
  | .mk _ type _ _ => l.expr type

/-- Writes names on one line. -/
def namesOnLine (l : Layouts) : List Name → Layout Unit
  | [] => pure ()
  | [n] => l.expr (.name n)
  | n :: rest => do
    l.expr (.name n)
    sign ","
    space .blank
    namesOnLine l rest

/-- Writes a member on the line of its braces. -/
def smallField (l : Layouts) (isRecord : Bool) (field : Field) : Layout Unit := do
  if isRecord then
    if !field.names.isEmpty then
      namesOnLine l field.names
      space .blank
    l.expr field.type
  else method l field

/-- Writes a field of a record, its parts in columns that `separator` ends. -/
def recordField (l : Layouts) (separator : Space) : Field → Layout Unit
  | .mk fieldNames type tag hasTrail => do
    if fieldNames.isEmpty then l.expr type
    else
      names l fieldNames true
      space separator
      l.expr type
    match tag with
    | some tag =>
      if !fieldNames.isEmpty && separator == .tab then space separator
      space separator
      l.expr (.constant tag)
    | none =>
      if hasTrail then
        space separator
        if fieldNames.isEmpty then space separator

/-- Writes parts on lines of their own. `line` is the line of the page on which the last one began:
columns end behind a part that spans lines. -/
def onLines {α : Type} (start : α → Nat) (layout : α → Layout Unit) :
    (line : Option Nat) → List α → Layout Unit
  | _, [] => pure ()
  | line, x :: rest => do
    match line with
    | some line =>
      let _ ← breakTo (← lineOf (start x)) 1 .ignore (0 < (← linesFrom line))
    | none => pure ()
    let line ← asking (layout x)
    onLines start layout (some line) rest

/-- Writes the members of a record or an interface in braces. -/
def fields (l : Layouts) (f : Fields) (isRecord : Bool) : Layout Unit := do
  let lines := (← get).lines
  let hasRemarks ← hasRemarkBefore (f.closing.getD 0)
  let isLine := !hasRemarks && lines.lineOf? f.opening == lines.lineOf? f.closing
  let isSmall ← if isLine then isSmallField l f.list else pure false
  if isLine && f.list.isEmpty then
    goTo? f.opening
    sign "\x7b"
    goTo? f.closing
    sign "\x7d"
  else if isSmall then
    goTo? f.opening
    sign "\x7b"
    space .blank
    for field in f.list do smallField l isRecord field
    space .blank
    goTo? f.closing
    sign "\x7d"
  else
    space .blank
    goTo? f.opening
    sign "\x7b"
    space .indent
    if hasRemarks || !f.list.isEmpty then space .section
    let separator : Space := if f.list.length == 1 then .blank else .tab
    onLines Field.start (if isRecord then recordField l separator else method l) none f.list
    space .unindent
    space .section
    goTo? f.closing
    sign "\x7d"

/-! ### Bodies -/

/-- Is the statement empty? -/
def isNothing : Command → Bool
  | .nothing _ => true
  | _ => false

/-- How many lines the labels in front of a statement take. -/
def labelCount : Command → Nat
  | .labelled _ _ body => labelCount body + 1
  | _ => 0

/-- Writes statements on lines of their own; empty ones are left out. `i` counts those that are
written, `count` all, and `line` is the line of the page on which the last one began. If `isFlat`,
columns end between all of them. -/
def commandsFrom (l : Layouts) (isFlat closes : Bool) (count : Nat) :
    (i line : Nat) → List Command → Layout Unit
  | _, _, [] => pure ()
  | i, line, c :: rest => do
    if isNothing c then commandsFrom l isFlat closes count i line rest
    else
      if !(← get).pieces.isEmpty then
        let below ← linesFrom line
        let _ ← breakTo (← lineOf c.start) 1 .ignore (i == 0 || isFlat || 0 < below)
      let line ← asking (l.command c (closes && i + 1 == count))
      commandsFrom l isFlat closes count (i + 1) (line + labelCount c) rest

/-- Writes statements, further in unless `isFlat`. -/
def commands (l : Layouts) (list : List Command) (isFlat closes : Bool) : Layout Unit := do
  if !isFlat then space .indent
  commandsFrom l isFlat closes list.length 0 0 list
  if !isFlat then space .unindent

/-- Writes statements in braces, on several lines. -/
def block (l : Layouts) (b : Block) (isFlat : Bool) : Layout Unit := do
  signAt b.opening "\x7b"
  commands l b.commands isFlat true
  let _ ← breakTo (← lineOf b.closing) 1 .ignore true
  signAt b.closing "\x7d"

/-- The greatest size of a function on one line. -/
def maxBodySize : Nat := 100

/-- The greatest number of statements on one line. -/
def maxBodyCount : Nat := 5

/-- The room that statements take on one line, with semicolons between them; `size` is taken
already. -/
def commandsSize (l : Layouts) : (size : Nat) → List Command → Layout Nat
  | size, [] => pure size
  | size, c :: rest => do
    if maxBodySize < size then pure size
    else
      let room ← room? (do
        match c with
        | .labelled .. => modify fun p => { p with indent := 1 }
        | _ => pure ()
        l.command c false)
      let own := min (room.getD (maxBodySize + 1)) (maxBodySize + 1)
      commandsSize l (size + own + if rest.isEmpty then 0 else 2) rest

/-- The room that a body takes on one line, if it can stand on one. -/
def bodySize? (l : Layouts) (b : Block) : Layout (Option Nat) := do
  if (← lineOf b.opening) != (← lineOf b.closing) || maxBodyCount < b.commands.length then
    pure none
  else
    let size ← commandsSize l (← remarkSizeBefore b.closing) b.commands
    pure (if maxBodySize < size then none else some size)

/-- Writes statements on one line. -/
def commandsOnLine (l : Layouts) : List Command → Layout Unit
  | [] => pure ()
  | [c] => l.command c true
  | c :: rest => do
    l.command c false
    sign ";"
    space .blank
    commandsOnLine l rest

/-- Runs a layout outside of all items in braces. -/
def atTopLevel (layout : Layout Unit) : Layout Unit := do
  let level := (← get).level
  modify fun p => { p with level := 0 }
  layout
  modify fun p => { p with level }

/-- Puts a closing brace on the page; comments in front of it get less white space. -/
def closeBrace (offset : Nat) (noBlank : Bool) : Layout Unit := do
  let p ← get
  set { p with noBreak := true, noBlank := p.noBlank || noBlank }
  signAt offset "\x7d"
  modify fun q => { q with noBreak := p.noBreak, noBlank := p.noBlank }

/-- Writes the body of a function behind its header, the size of which is known if the header is on
one line. -/
def functionBody (l : Layouts) (header : Option Nat) (separator : Space) (b : Block) :
    Layout Unit := atTopLevel do
  let size ← match header with
    | some header => pure ((← bodySize? l b).map (· + header))
    | none => pure none
  if size.any (· ≤ maxBodySize) then
    space separator
    signAt b.opening "\x7b"
    if !b.commands.isEmpty then
      space .blank
      commandsOnLine l b.commands
      space .blank
    closeBrace b.closing false
  else
    space .blank
    block l b false

end TensorLang.Emit.Layout
