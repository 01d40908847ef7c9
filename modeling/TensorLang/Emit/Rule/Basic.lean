import TensorLang.Emit.Tree

/-!
# Rules of the grammar

A rule reads tokens into a tree, top down with one token of look-ahead. It never stops at a token
that does not fit: it notes the offset, makes up for what is missing or skips to a place where
reading can go on, and always gives a tree. A text fits the grammar if nothing was noted.

Rules call each other through `Rules`, a collection of those that any other rule may need. The
collection is built in levels, each from the one below, so that all rules are plain functions;
`Rules.size` bounds the length of lists.
-/

namespace TensorLang.Emit

/-- Where reading stands. -/
structure Cursor where
  /-- The token to be read next and those behind it; the last is the end of the text. -/
  rest : List Remark.Step
  /-- The offsets of what does not fit. -/
  faults : List Nat := []
  /-- How deep the place is nested in parentheses and the like; negative in the headers of control
  statements, where an opening brace begins a block. -/
  level : Int := 0
  /-- Is a value read, where a single sign of equality stands for a comparison? -/
  inValue : Bool := false
  /-- Where skipping stopped last, and how often it stopped there without getting on. -/
  skippedTo : Option Nat := none
  skipCount : Nat := 0

/-- A rule of the grammar. -/
abbrev Rule := StateM Cursor

namespace Rule

/-- The next token with its comments. -/
def step : Rule Remark.Step := do
  match (← get).rest with
  | s :: _ => pure s
  | [] => pure ⟨⟨.finish, "", [], 0, 0⟩, [], []⟩

/-- The next token. -/
def token : Rule Token := return (← step).token

/-- The offset of the next token. -/
def offset : Rule Nat := return (← token).offset

/-- Is the next token this sign? -/
def sees (sign : String) : Rule Bool := return (← token).is sign

/-- Is the next token one of these signs? -/
def seesAny (signs : List String) : Rule Bool := return (← token).isAny signs

/-- Is the next token of this kind? -/
def seesKind (kind : TokenKind) : Rule Bool := return (← token).kind == kind

/-- Goes on to the token behind the next one; the end of the text stays. -/
def next : Rule Unit := modify fun c =>
  { c with
    rest := match c.rest with
      | [last] => [{ token := last.token }]
      | rest => rest.drop 1 }

/-- Notes an offset. -/
def fault (offset : Nat) : Rule Unit := modify fun c => { c with faults := offset :: c.faults }

/-- Notes the next token. -/
def faultHere : Rule Unit := do fault (← offset)

/-- Reads a sign and gives its offset. Any other token is noted and read in its place. -/
def expect (sign : String) : Rule Nat := do
  let t ← token
  if !t.is sign then fault t.offset
  next
  pure t.offset

/-- Reads a closing sign; a line end in front of it is noted and skipped. -/
def expectClosing (sign : String) : Rule Nat := do
  let t ← token
  if t.isLineEnd then
    fault t.offset
    next
  expect sign

/-- Reads a sign if it comes next. -/
def accept (sign : String) : Rule Bool := do
  if ← sees sign then
    next
    pure true
  else pure false

/-- Is there a comma, or something that should be one? Only the closing sign of the list is not. -/
def atComma (closing : String) : Rule Bool := do
  if ← sees "," then pure true
  else if ← sees closing then pure false
  else
    faultHere
    pure true

/-- How often skipping may stop at one place. -/
def maxSkips : Nat := 10

/-- Skips tokens up to one of the given signs. To make sure that reading gets on, it does not stop
too often at one place. -/
def skipToFrom (signs : List String) : (fuel : Nat) → Rule Unit
  | 0 => pure ()
  | fuel + 1 => do
    let t ← token
    if t.kind == .finish then pure ()
    else
      let c ← get
      let isLater := match c.skippedTo with
        | some last => last < t.offset
        | none => true
      if t.isAny signs && c.skippedTo == some t.offset && c.skipCount < maxSkips then
        set { c with skipCount := c.skipCount + 1 }
      else if t.isAny signs && isLater then
        set { c with skippedTo := some t.offset, skipCount := 0 }
      else
        next
        skipToFrom signs fuel

/-- Skips tokens up to one of the given signs. -/
def skipTo (signs : List String) : Rule Unit := do skipToFrom signs ((← get).rest.length + 1)

/-- Words that begin statements. -/
def statementWords : List String :=
  ["break", "const", "continue", "defer", "fallthrough", "for", "go", "goto", "if", "return",
    "select", "switch", "type", "var"]

/-- Words that begin declarations. -/
def declarationWords : List String := ["import", "const", "type", "var"]

/-- Signs that end expressions. -/
def expressionEnds : List String := [",", ":", ";", ")", "]", "\x7d"]

/-- Reads the end of a statement, which may be missing in front of a closing sign, and gives the
comment that trails the statement. -/
def statementEnd : Rule (List Remark) := do
  let s ← step
  if s.token.isAny [")", "\x7d"] then pure []
  else if s.token.isAny [",", ";"] then
    if s.token.is "," then fault s.token.offset
    next
    if s.token.text == [59] then return (← step).trail else pure s.trail
  else
    fault s.token.offset
    skipTo statementWords
    pure []

/-- Reads a name; anything else is noted and read in its place. -/
def ident : Rule Name := do
  let t ← token
  if t.kind != .name then fault t.offset
  next
  pure ⟨t.offset, if t.kind == .name then t.text else "_".utf8⟩

/-- What does not fit, from an offset to the next token. -/
def badFrom (start : Nat) : Rule Term := return .bad start (← offset)

/-- Runs a rule deeper in parentheses. -/
def nested {α : Type} (rule : Rule α) : Rule α := do
  modify fun c => { c with level := c.level + 1 }
  let x ← rule
  modify fun c => { c with level := c.level - 1 }
  pure x

/-- Runs a rule in the header of a control statement. -/
def inHeader {α : Type} (rule : Rule α) : Rule α := do
  let level := (← get).level
  modify fun c => { c with level := -1 }
  let x ← rule
  modify fun c => { c with level }
  pure x

/-- Runs a rule where values are read, or where they are not. -/
def withValue {α : Type} (inValue : Bool) (rule : Rule α) : Rule α := do
  let before := (← get).inValue
  modify fun c => { c with inValue }
  let x ← rule
  modify fun c => { c with inValue := before }
  pure x

/-- Repeats a rule as long as a test holds. -/
def whileTrue {α : Type} (test : Rule Bool) (rule : Rule α) : (fuel : Nat) → Rule (List α)
  | 0 => pure []
  | fuel + 1 => do
    if ← test then
      let x ← rule
      return x :: (← whileTrue test rule fuel)
    else pure []

/-- Reads items with commas between them up to a closing sign, which stays. -/
def commaItems {α : Type} (closing : String) (rule : Rule α) : (fuel : Nat) → Rule (List α)
  | 0 => pure []
  | fuel + 1 => do
    let t ← token
    if t.is closing || t.kind == .finish then pure []
    else
      let x ← rule
      if ← atComma closing then
        next
        return x :: (← commaItems closing rule fuel)
      else pure [x]

/-- Reads an item and further ones, each behind a comma. -/
def commaSeparated {α : Type} (rule : Rule α) (fuel : Nat) : Rule (List α) := do
  let x ← rule
  let xs ← whileTrue (sees ",") (do next; rule) fuel
  pure (x :: xs)

/-- Reads names with commas between them. -/
def idents (fuel : Nat) : Rule (List Name) := commaSeparated ident fuel

end Rule

/-- The rules that others call. -/
structure Rules where
  /-- A bound on the number of items in a list. -/
  size : Nat
  /-- An operation whose operators have at least a given precedence, with its left operand if that
  is read already. -/
  operation : Option Term → Nat → Rule Term
  /-- An operand with what stands in front of it. -/
  unary : Rule Term
  /-- A type, if one comes next. -/
  type? : Rule (Option Term)
  /-- Items in braces behind a type. -/
  literalValue : Option Term → Rule Term
  /-- A statement with its end. -/
  command : Rule Command
  /-- A statement that begins with `if`. -/
  choice : Rule Command

namespace Rules

variable (r : Rules)

/-- An expression. -/
def expr : Rule Term := r.operation none 1

/-- An expression where values are read. -/
def value : Rule Term := Rule.withValue true r.expr

/-- Expressions with commas between them. -/
def exprs (inValue : Bool) : Rule (List Term) :=
  Rule.withValue inValue (Rule.commaSeparated r.expr r.size)

/-- A type. -/
def type : Rule Term := do
  match ← r.type? with
  | some t => pure t
  | none =>
    let start ← Rule.offset
    Rule.fault start
    Rule.skipTo Rule.expressionEnds
    Rule.badFrom start

/-- Statements up to a closing brace or the next case. -/
def commands : Rule (List Command) :=
  Rule.whileTrue (do
    let t ← Rule.token
    return !(t.isAny ["case", "default", "\x7d"] || t.kind == .finish)) r.command r.size

/-- Statements in braces. -/
def block : Rule Block := do
  let opening ← Rule.expect "\x7b"
  let commands ← r.commands
  let closing ← Rule.expect "\x7d"
  pure (.mk opening commands closing)

end Rules

end TensorLang.Emit
