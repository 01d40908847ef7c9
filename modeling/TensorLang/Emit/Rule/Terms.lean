import TensorLang.Emit.Rule.Types

/-!
# Rules for expressions

Operands, what can follow them, and operators in front of them and between them. Types are read as
expressions too, because a call may be a conversion and a brace may follow a type.
-/

namespace TensorLang.Emit.Rule

/-! ### Operands -/

/-- A function with its body, or the type of a function. -/
def functionOrType (r : Rules) : Rule Term := do
  let signature ← functionType r
  if ← sees "\x7b" then return .function signature (← nested r.block)
  else pure (.functionType signature)

/-- A name, a literal, an expression in parentheses, a function or a type. -/
def operand (r : Rules) : Rule Term := do
  let t ← token
  if t.kind == .name then .name <$> ident
  else if t.kind.isValue then
    next
    pure (.constant ⟨t.offset, t.stop, t.kind, t.text⟩)
  else if t.is "(" then
    next
    let x ← nested r.value
    let closing ← expect ")"
    pure (.paren t.offset x closing)
  else if t.is "func" then functionOrType r
  else
    match ← r.type? with
    | some x => pure x
    | none =>
      fault t.offset
      skipTo statementWords
      badFrom t.offset

/-! ### What follows an operand -/

/-- What follows a point: a name or a type in parentheses. -/
def selector (r : Rules) (x : Term) : Rule Term := do
  let t ← token
  if t.kind == .name then .select x <$> ident
  else if t.is "(" then
    next
    let type ← if ← accept "type" then pure none else some <$> r.type
    let closing ← expect ")"
    pure (.assertion x t.offset type closing)
  else
    fault t.offset
    if !t.is "\x7d" then next
    pure (.select x ⟨t.offset, "_".utf8⟩)

/-- Colons, at most two, each with the bound behind it. -/
def bounds (r : Rules) : (fuel : Nat) → Rule (List (Nat × Option Term))
  | 0 => pure []
  | fuel + 1 => do
    let t ← token
    if t.is ":" then
      next
      let u ← token
      let bound ← if u.isAny [":", "]"] || u.kind == .finish then pure none
        else some <$> r.value
      return (t.offset, bound) :: (← bounds r fuel)
    else pure []

/-- Further arguments of a type, each behind a comma; the last comma may have none. -/
def moreArguments (r : Rules) : (fuel : Nat) → Rule (List Term)
  | 0 => pure []
  | fuel + 1 => do
    if ← accept "," then
      let t ← token
      if t.is "]" || t.kind == .finish then moreArguments r fuel
      else return (← r.type) :: (← moreArguments r fuel)
    else pure []

/-- An index, the bounds of a slice, or the arguments of a type. A slice with two colons needs both
bounds behind them. -/
def indexOrSlice (r : Rules) (x : Term) : Rule Term := do
  let opening ← expect "["
  let t ← token
  if t.is "]" then
    fault t.offset
    next
    pure (.index x opening [.bad t.offset t.offset] t.offset)
  else
    let (low, high, args) ← nested do
      let low ← if t.is ":" then pure none else some <$> r.value
      if ← sees ":" then return (low, ← bounds r 2, [])
      else if ← sees "," then return (low, [], ← moreArguments r r.size)
      else pure (low, [], [])
    let closing ← expect "]"
    match high with
    | [] => pure (.index x opening (low.toList ++ args) closing)
    | high =>
      if high.length == 2 then
        for (colon, bound) in high do
          if bound.isNone then fault colon
      pure (.slice x opening (low :: high.map Prod.snd) closing)

/-- The arguments of a call, and the offset of three dots behind the last one. -/
def arguments (r : Rules) : (fuel : Nat) → Rule (List Term × Option Nat)
  | 0 => pure ([], none)
  | fuel + 1 => do
    let t ← token
    if t.is ")" || t.kind == .finish then pure ([], none)
    else
      let x ← r.value
      let dots ← token
      if dots.is "..." then
        next
        if ← atComma ")" then next
        pure ([x], some dots.offset)
      else if ← atComma ")" then
        next
        let (xs, dots) ← arguments r fuel
        pure (x :: xs, dots)
      else pure ([x], none)

/-- The arguments of a call in parentheses. -/
def call (r : Rules) (x : Term) : Rule Term := do
  let opening ← expect "("
  let (args, dots) ← nested (arguments r r.size)
  let closing ← expectClosing ")"
  pure (.call x opening args dots closing)

/-- A value in braces or an expression. -/
def item (r : Rules) : Rule Term := do
  if ← sees "\x7b" then r.literalValue none else r.expr

/-- A value, possibly with a key. -/
def keyedItem (r : Rules) : Rule Term := do
  let x ← item r
  let t ← token
  if t.is ":" then
    next
    return .pair x t.offset (← item r)
  else pure x

/-- Items in braces behind a type. -/
def literalValue (r : Rules) (type : Option Term) : Rule Term := do
  let opening ← expect "\x7b"
  let items ← nested (commaItems "\x7d" (keyedItem r) r.size)
  let closing ← expectClosing "\x7d"
  pure (.composite type opening items closing)

/-- Does an opening brace behind the term belong to it? In headers of control statements only if the
term cannot be a value. -/
def takesBrace (x : Term) : Rule Bool := do
  match x.bare with
  | .bad .. | .name _ | .select .. | .index .. => return 0 ≤ (← get).level
  | .array .. | .record .. | .mapping .. => pure true
  | _ => pure false

/-- Reads on behind an operand. -/
def primaryFrom (r : Rules) : (fuel : Nat) → Term → Rule Term
  | 0, x => pure x
  | fuel + 1, x => do
    let t ← token
    if t.is "." then
      next
      let y ← selector r x
      primaryFrom r fuel y
    else if t.is "[" then
      let y ← indexOrSlice r x
      primaryFrom r fuel y
    else if t.is "(" then
      let y ← call r x
      primaryFrom r fuel y
    else if t.is "\x7b" then
      if ← takesBrace x then
        if x.isParen then fault x.bare.start
        let y ← r.literalValue (some x)
        primaryFrom r fuel y
      else pure x
    else pure x

/-- An operand with what follows it; the operand may be read already. -/
def primary (r : Rules) (x : Option Term) : Rule Term := do
  let x ← match x with
    | some x => pure x
    | none => operand r
  primaryFrom r r.size x

/-! ### Operators -/

/-- An arrow in front of the type of a channel belongs to the keyword behind it; the arrow that
stood there moves on into the type. Also gives the offsets of arrows that do not fit. -/
def receiving (arrow : Nat) : Term → Term × List Nat
  | .channel start inner receives sends item =>
    let inner := inner.getD start
    let (item, faults) :=
      if receives then (item, [])
      else
        match item with
        | .channel .. => receiving inner item
        | _ => (item, [inner])
    (.channel arrow (some arrow) true false item,
      (if receives && !sends then [inner] else []) ++ faults)
  | x => (x, [])

/-- Operators that may stand in front of an operand. -/
def unarySigns : List String := ["+", "-", "!", "^", "&", "~"]

/-- An operand with operators in front of it. -/
def unary (r : Rules) : Rule Term := do
  let t ← token
  if t.isAny unarySigns then
    next
    return .unary t.offset t.sign (← r.unary)
  else if t.is "<-" then
    next
    let x ← r.unary
    match x with
    | .channel .. =>
      let (type, faults) := receiving t.offset x
      for offset in faults do fault offset
      pure type
    | x => pure (.unary t.offset "<-" x)
  else if t.is "*" then
    next
    return .star t.offset (← r.unary)
  else primary r none

/-- Adds operators of at least a given precedence with their right operands. Where values are read,
a single sign of equality is noted and taken for a comparison. -/
def operationFrom (r : Rules) (least : Nat) : (fuel : Nat) → Term → Rule Term
  | 0, x => pure x
  | fuel + 1, x => do
    let t ← token
    let isComparison := t.is "=" && (← get).inValue
    let op := if isComparison then "==" else t.sign
    let precedence := if t.kind == .sign then Sign.precedence op else 0
    if precedence < least then pure x
    else
      if isComparison then fault t.offset
      next
      let y ← r.operation none (precedence + 1)
      operationFrom r least fuel (.binary x t.offset op y)

/-- Operands with operators of at least a given precedence between them; the first operand may be
read already. -/
def operation (r : Rules) (x : Option Term) (least : Nat) : Rule Term := do
  let x ← match x with
    | some x => pure x
    | none => r.unary
  operationFrom r least r.size x

end TensorLang.Emit.Rule
