import TensorLang.Emit.Layout.Signatures

/-!
# The layout of expressions

Blanks around an operator show how strongly it binds: the deeper an expression is nested and the
more kinds of operators it mixes, the fewer operators have them (`Term.cutoff`). Line ends stay
behind operators and behind the points of selections.

* `Layout.term` lays out an expression or a type.
-/

namespace TensorLang.Emit

namespace Term

/-- How strongly unary operators bind. -/
def unaryPrecedence : Nat := 6

/-- Stronger than every operator. -/
def highestPrecedence : Nat := 7

/-- What the operators of an expression ask of the blanks: operators of the strength of `+` occur,
of the strength of `*` occur, and the least strength from which on two signs would run together. -/
structure Mix where
  sums : Bool := false
  products : Bool := false
  problem : Nat := 0

/-- Both together. -/
def Mix.join (a b : Mix) : Mix :=
  ⟨a.sums || b.sums, a.products || b.products, max a.problem b.problem⟩

/-- The operators that are written without parentheses at the top of an expression. -/
def mix : Term → Mix
  | .binary lhs _ op rhs =>
    let p := Sign.precedence op
    let own : Mix := ⟨p == 4, p == 5, 0⟩
    let left : Mix := match lhs with
      | .binary _ _ inner _ => if Sign.precedence inner < p then {} else mix lhs
      | _ => {}
    let right : Mix := match rhs with
      | .binary _ _ inner _ => if Sign.precedence inner ≤ p then {} else mix rhs
      | .star _ _ => if op == "/" then { problem := 5 } else {}
      | .unary _ inner _ =>
        if (op == "&" && inner == "&") || (op == "&" && inner == "^") then { problem := 5 }
        else if (op == "+" && inner == "+") || (op == "-" && inner == "-") then { problem := 4 }
        else {}
      | _ => {}
    (own.join left).join right
  | _ => {}

/-- Operators weaker than this have blanks around them. -/
def cutoff (x : Term) (depth : Nat) : Nat :=
  let m := x.mix
  if 0 < m.problem then m.problem + 1
  else if m.sums && m.products then (if depth == 1 then 5 else 4)
  else if depth == 1 then 6 else 4

/-- Is the term an operation of this strength? -/
def continues (p : Nat) : Term → Bool
  | .binary _ _ op _ => Sign.precedence op == p
  | _ => false

/-- Do blanks go around the colons of a slice? Only at the top, and if one of several bounds is an
operation. -/
def slicesWithBlanks (depth : Nat) (bounds : List (Option Term)) : Bool :=
  let given := bounds.filterMap id
  depth ≤ 1 && 1 < given.length && given.any fun
    | .binary .. => true
    | _ => false

/-- Does a type in front of parentheses need parentheses of its own, so that it is not read as a
part of something else? -/
def needsParens : Term → Bool
  | .functionType _ => true
  | .channel _ _ receives sends _ => receives && !sends
  | _ => false

end Term

namespace Layout

/-! ### Operators -/

/-- Parentheses undo one level of nesting. -/
def lessDepth (depth : Nat) : Nat := max 1 (depth - 1)

/-- Writes a binary operation. A line end behind the operator stays. -/
def operation (l : Layouts) (depth : Nat) (x lhs : Term) (offset : Nat) (op : String)
    (rhs : Term) : Layout Unit := do
  let precedence := Sign.precedence op
  let hasBlanks := precedence < x.cutoff depth
  l.term precedence (if lhs.continues precedence then depth else depth + 1) lhs
  if hasBlanks then space .blank
  let p ← get
  let before := p.here.line
  let behind := p.lines.lineOf rhs.start
  signAt offset op
  let n ← if before != behind then breakTo behind 1 .indent true else pure 0
  if n == 0 && hasBlanks then space .blank
  l.term (precedence + 1) (depth + 1) rhs
  if 0 < n then space .unindent

/-- Writes something in parentheses. -/
def inParens (layout : Layout Unit) : Layout Unit := do
  sign "("
  layout
  sign ")"

/-! ### What follows an operand -/

/-- Writes a selection. A line end behind the point stays; then the layout is further in behind it,
which the result tells. -/
def selection (l : Layouts) (depth : Nat) (x : Term) (field : Name) : Layout Bool := do
  l.term Term.highestPrecedence depth x
  sign "."
  let p ← get
  if p.here.line < p.lines.lineOf field.offset then
    space .indent
    space .line
    name field
    pure true
  else
    name field
    pure false

/-- Writes what stands in front of the parentheses of a call. -/
def callee (l : Layouts) (depth : Nat) : Term → Layout Bool
  | .select x field => selection l depth x field
  | x => do
    if x.needsParens then inParens (l.term Term.highestPrecedence depth x)
    else l.term Term.highestPrecedence depth x
    pure false

/-- Writes the arguments of a call in parentheses. -/
def arguments (l : Layouts) (depth opening : Nat) (args : List Term) (dots : Option Nat)
    (closing : Nat) : Layout Unit := do
  signAt opening "("
  match dots with
  | some dots =>
    terms l (some opening) args depth {} (some dots)
    signAt dots "..."
    if (← lineOf dots) < (← lineOf closing) then
      sign ","
      space .section
  | none => terms l (some opening) args depth { hasLastComma := true } (some closing)
  signAt closing ")"

/-- Writes the bounds of a slice. -/
def bounds (l : Layouts) (depth : Nat) (hasBlanks : Bool) :
    (previous : Option Term) → List (Option Term) → Layout Unit
  | _, [] => pure ()
  | previous, x :: rest => do
    if previous.isSome && hasBlanks then space .blank
    sign ":"
    match x with
    | some x =>
      if hasBlanks then space .blank
      l.term 0 (depth + 1) x
    | none => pure ()
    bounds l depth hasBlanks x rest

/-- Writes an index, the bounds of a slice or the arguments of a type behind a term. -/
def bracketed (l : Layouts) (x : Term) (opening closing : Nat) (layout : Layout Unit) :
    Layout Unit := do
  l.term Term.highestPrecedence 1 x
  signAt opening "["
  layout
  signAt closing "]"

/-- Writes items in braces behind a type. -/
def composite (l : Layouts) (depth : Nat) (type : Option Term) (opening : Nat) (items : List Term)
    (closing : Nat) : Layout Unit := do
  match type with
  | some type => l.term Term.highestPrecedence depth type
  | none => pure ()
  modify fun p => { p with level := p.level + 1 }
  signAt opening "\x7b"
  terms l (some opening) items 1 { hasLastComma := true } (some closing)
  space .indent
  space .unindent
  closeBrace closing (!items.isEmpty)
  modify fun p => { p with level := p.level - 1 }

/-- Writes a function with its body. -/
def function (l : Layouts) (s : Signature) (body : Block) : Layout Unit := do
  sign "func"
  let column : Int := (← get).column - 4
  signature l s
  functionBody l (← distanceFrom s.start column) .blank body

/-! ### Types -/

/-- Writes the type of a channel. -/
def channel (l : Layouts) (arrow : Option Nat) (receives sends : Bool) (item : Term) :
    Layout Unit := do
  if !sends then sign "<-"
  sign "chan"
  if !receives then
    goTo? arrow
    sign "<-"
  space .blank
  l.expr item

/-! ### All expressions -/

/-- Writes an expression or a type. -/
def term (l : Layouts) (least depth : Nat) (x : Term) : Layout Unit := do
  goTo x.start
  match x with
  | .bad .. => put .word "BadExpr".utf8 true
  | .name n => name n
  | .constant c => constant c
  | .composite type opening items closing => composite l depth type opening items closing
  | .function s body => function l s body
  | .paren _ inner closing =>
    if inner.isParen then l.term 0 depth inner
    else
      sign "("
      l.term 0 (lessDepth depth) inner
      signAt closing ")"
  | .select x field => if ← selection l depth x field then space .unindent
  | .index x opening [arg] closing =>
    bracketed l x opening closing (l.term 0 (depth + 1) arg)
  | .index x opening args closing =>
    bracketed l x opening closing
      (terms l (some opening) args (depth + 1) { hasLastComma := true } (some closing))
  | .slice x opening list closing =>
    bracketed l x opening closing do
      match list with
      | [] => pure ()
      | low :: rest =>
        match low with
        | some low => l.term 0 (depth + 1) low
        | none => pure ()
        bounds l depth (Term.slicesWithBlanks depth list) low rest
  | .assertion x opening type closing =>
    l.term Term.highestPrecedence depth x
    sign "."
    signAt opening "("
    match type with
    | some type => l.expr type
    | none => sign "type"
    signAt closing ")"
  | .call f opening args dots closing =>
    let depth := if 1 < args.length then depth + 1 else depth
    let isIndented ← callee l depth f
    arguments l depth opening args dots closing
    if isIndented then space .unindent
  | .star _ inner =>
    let layout := do
      sign "*"
      l.expr inner
    if Term.unaryPrecedence < least then inParens layout else layout
  | .unary _ op inner =>
    if Term.unaryPrecedence < least then inParens (l.expr x)
    else
      sign op
      l.term Term.unaryPrecedence depth inner
  | .binary lhs offset op rhs =>
    if Sign.precedence op < least then inParens (l.term 0 (lessDepth depth) x)
    else operation l depth x lhs offset op rhs
  | .pair key colon value =>
    l.expr key
    signAt colon ":"
    space .blank
    l.expr value
  | .array _ length item =>
    sign "["
    match length with
    | some n => l.expr n
    | none => pure ()
    sign "]"
    l.expr item
  | .record _ f =>
    sign "struct"
    fields l f true
  | .functionType s =>
    sign "func"
    signature l s
  | .interface _ f =>
    sign "interface"
    fields l f false
  | .mapping _ key value =>
    sign "map"
    sign "["
    l.expr key
    sign "]"
    l.expr value
  | .channel _ arrow receives sends item => channel l arrow receives sends item
  | .dots _ item =>
    sign "..."
    match item with
    | some item => l.expr item
    | none => pure ()

end Layout

end TensorLang.Emit
