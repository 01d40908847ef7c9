import TensorLang.Emit.Layout.Terms

/-!
# The layout of statements

One statement per line, bodies further in. Parentheses around the condition of a control statement
go away, unless a brace in it would then begin the body.
-/

namespace TensorLang.Emit

mutual

/-- Are there items in braces behind a type name, outside of all parentheses? -/
def Term.hasNamedItems : Term → Bool
  | .composite (some type) _ _ _ => type.isTypeName
  | .composite none _ _ _ | .paren .. => false
  | .function _ body => body.hasNamedItems
  | .select x _ => x.hasNamedItems
  | .index x _ args _ => x.hasNamedItems || Term.anyNamedItems args
  | .slice x _ bounds _ => x.hasNamedItems || Term.anyNamedBounds bounds
  | .assertion x _ type _ => x.hasNamedItems || Term.optionNamedItems type
  | .call f _ args _ _ => f.hasNamedItems || Term.anyNamedItems args
  | .star _ x => x.hasNamedItems
  | .unary _ _ x => x.hasNamedItems
  | .binary lhs _ _ rhs => lhs.hasNamedItems || rhs.hasNamedItems
  | .pair key _ value => key.hasNamedItems || value.hasNamedItems
  | .array _ length item => Term.optionNamedItems length || item.hasNamedItems
  | .mapping _ key value => key.hasNamedItems || value.hasNamedItems
  | .channel _ _ _ _ item => item.hasNamedItems
  | .dots _ item => Term.optionNamedItems item
  | _ => false

/-- Is there such an item in one of the terms? -/
def Term.anyNamedItems : List Term → Bool
  | [] => false
  | x :: rest => x.hasNamedItems || Term.anyNamedItems rest

/-- Is there such an item in one of the bounds? -/
def Term.anyNamedBounds : List (Option Term) → Bool
  | [] => false
  | x :: rest => Term.optionNamedItems x || Term.anyNamedBounds rest

/-- Is there such an item in the term, if there is one? -/
def Term.optionNamedItems : Option Term → Bool
  | none => false
  | some x => x.hasNamedItems

/-- Is there such an item in one of the statements? -/
def Block.hasNamedItems : Block → Bool
  | .mk _ commands _ => Command.anyNamedItems commands

/-- Is there such an item in one of the statements? -/
def Command.anyNamedItems : List Command → Bool
  | [] => false
  | c :: rest => c.hasNamedItems || Command.anyNamedItems rest

/-- Is there such an item in the statement, if there is one? -/
def Command.optionNamedItems : Option Command → Bool
  | none => false
  | some c => c.hasNamedItems

/-- Is there such an item in the statement? -/
def Command.hasNamedItems : Command → Bool
  | .bad .. | .nothing _ | .jump .. => false
  | .declare d => d.hasNamedItems
  | .labelled _ _ body => body.hasNamedItems
  | .eval x => x.hasNamedItems
  | .send channel _ value => channel.hasNamedItems || value.hasNamedItems
  | .step x _ _ => x.hasNamedItems
  | .assign lhs _ _ rhs => Term.anyNamedItems lhs || Term.anyNamedItems rhs
  | .launch _ _ call => call.hasNamedItems
  | .giveBack _ results => Term.anyNamedItems results
  | .block body => body.hasNamedItems
  | .choice _ init test body otherwise =>
    Command.optionNamedItems init || test.hasNamedItems || body.hasNamedItems ||
      Command.optionNamedItems otherwise
  | .switch _ init tag body =>
    Command.optionNamedItems init || Term.optionNamedItems tag || body.hasNamedItems
  | .typeSwitch _ init guard body =>
    Command.optionNamedItems init || guard.hasNamedItems || body.hasNamedItems
  | .selection _ body => body.hasNamedItems
  | .loop _ init test post body =>
    Command.optionNamedItems init || Term.optionNamedItems test ||
      Command.optionNamedItems post || body.hasNamedItems
  | .each _ key value _ x body =>
    Term.optionNamedItems key || Term.optionNamedItems value || x.hasNamedItems ||
      body.hasNamedItems
  | .valueCase _ values _ body => Term.anyNamedItems values || Command.anyNamedItems body
  | .channelCase _ guard _ body =>
    Command.optionNamedItems guard || Command.anyNamedItems body

/-- Is there such an item in the declaration? -/
def Declaration.hasNamedItems : Declaration → Bool
  | .bad .. => false
  | .group _ _ _ _ specs => Spec.anyNamedItems specs
  | .function _ _ _ _ body =>
    match body with
    | some body => body.hasNamedItems
    | none => false

/-- Is there such an item in one of the items of a declaration? -/
def Spec.anyNamedItems : List Spec → Bool
  | [] => false
  | s :: rest => s.hasNamedItems || Spec.anyNamedItems rest

/-- Is there such an item in the item of a declaration? -/
def Spec.hasNamedItems : Spec → Bool
  | .values _ _ values _ => Term.anyNamedItems values
  | _ => false

end

/-- Removes parentheses around a term where a brace behind it begins a body. -/
def Term.stripParens : Term → Term
  | .paren opening inner closing =>
    if inner.hasNamedItems then .paren opening inner closing else inner.stripParens
  | x => x

namespace Layout

/-! ### Simple statements -/

/-- Does a list look better if all of it stands further in? That is so if an item does not begin on
the line on which the one before it ends, or if several items span lines. -/
def isIndentedList (lines : Lines) (list : List Term) : Bool :=
  let ends := list.map fun x => (lines.lineOf x.start, lines.lineOf x.stop)
  let gaps := (ends.zip (ends.drop 1)).any fun (a, b) => a.2 < b.1
  2 ≤ list.length && (gaps || 1 < ends.countP fun e => e.1 < e.2)

/-- Writes `return` with its values. -/
def giveBack (l : Layouts) (results : List Term) : Layout Unit := do
  sign "return"
  if !results.isEmpty then
    space .blank
    if isIndentedList (← get).lines results then
      space .indent
      terms l none results 1 { isIndented := true } none
      space .unindent
    else terms l none results 1 {} none

/-- Writes an assignment. -/
def assign (l : Layouts) (start : Nat) (lhs : List Term) (offset : Nat) (op : String)
    (rhs : List Term) : Layout Unit := do
  let depth := if 1 < lhs.length && 1 < rhs.length then 2 else 1
  terms l (some start) lhs depth {} (some offset)
  space .blank
  signAt offset op
  space .blank
  terms l (some offset) rhs depth {} none

/-- Writes a label and the statement behind it. The label stands further out. -/
def labelled (l : Layouts) (label : Name) (colon : Nat) (body : Command) (closes : Bool) :
    Layout Unit := do
  space .unindent
  l.expr (.name label)
  signAt colon ":"
  space .indent
  match body with
  | .nothing offset =>
    if closes then l.command body closes
    else
      space .line
      signAt offset ";"
  | _ =>
    let _ ← breakTo (← lineOf body.start) 1 .ignore true
    l.command body closes

/-! ### Control statements -/

/-- Writes the header of a control statement. -/
def header (l : Layouts) (isLoop : Bool) (init : Option Command) (test : Option Term)
    (post : Option Command) : Layout Unit := do
  space .blank
  let writeTest : Layout Unit := match test with
    | some test => l.expr test.stripParens
    | none => pure ()
  if init.isNone && post.isNone then
    writeTest
    if test.isSome then space .blank
  else
    match init with
    | some init => l.command init false
    | none => pure ()
    sign ";"
    space .blank
    writeTest
    if isLoop then
      sign ";"
      space .blank
      match post with
      | some post =>
        l.command post false
        space .blank
      | none => pure ()
    else if test.isSome then space .blank

/-- Writes a branch with its alternative. -/
def choice (l : Layouts) (init : Option Command) (test : Term) (body : Block)
    (otherwise : Option Command) (closes : Bool) : Layout Unit := do
  sign "if"
  header l false init (some test) none
  block l body false
  match otherwise with
  | some c =>
    space .blank
    sign "else"
    space .blank
    l.command c closes
  | none => pure ()

/-- Writes a switch over types. -/
def typeSwitch (l : Layouts) (init : Option Command) (guard : Command) (body : Block) :
    Layout Unit := do
  sign "switch"
  match init with
  | some init =>
    space .blank
    l.command init false
    sign ";"
  | none => pure ()
  space .blank
  l.command guard false
  space .blank
  block l body true

/-- Writes a choice of communications; an empty one stands on one line. -/
def communication (l : Layouts) (body : Block) : Layout Unit := do
  sign "select"
  space .blank
  if body.commands.isEmpty && !(← hasRemarkBefore body.closing) then
    signAt body.opening "\x7b"
    signAt body.closing "\x7d"
  else block l body true

/-- Writes a loop over something. -/
def each (l : Layouts) (key value : Option Term) (mark : Option (Nat × String)) (x : Term)
    (body : Block) : Layout Unit := do
  sign "for"
  space .blank
  match key, mark with
  | some key, some (offset, op) =>
    l.expr key
    match value with
    | some value =>
      signAt value.start ","
      space .blank
      l.expr value
    | none => pure ()
    space .blank
    signAt offset op
    space .blank
  | _, _ => pure ()
  sign "range"
  space .blank
  l.expr x.stripParens
  space .blank
  block l body false

/-- Writes the colon and the statements of a case. -/
def caseBody (l : Layouts) (colon : Nat) (body : List Command) (closes : Bool) :
    Layout Unit := do
  signAt colon ":"
  commands l body false closes

/-- Writes a statement. -/
def command (l : Layouts) (c : Command) (closes : Bool) : Layout Unit := do
  goTo c.start
  match c with
  | .bad .. => put .word "BadStmt".utf8 true
  | .declare d => l.declaration d
  | .nothing _ => pure ()
  | .labelled label colon body => labelled l label colon body closes
  | .eval x => l.expr x
  | .send channel arrow value =>
    l.expr channel
    space .blank
    signAt arrow "<-"
    space .blank
    l.expr value
  | .step x offset op =>
    l.term 0 2 x
    signAt offset op
  | .assign lhs offset op rhs => assign l c.start lhs offset op rhs
  | .launch _ word call =>
    sign word
    space .blank
    l.expr call
  | .giveBack _ results => giveBack l results
  | .jump _ word label =>
    sign word
    match label with
    | some label =>
      space .blank
      l.expr (.name label)
    | none => pure ()
  | .block body => block l body false
  | .choice _ init test body otherwise => choice l init test body otherwise closes
  | .switch _ init tag body =>
    sign "switch"
    header l false init tag none
    block l body true
  | .typeSwitch _ init guard body => typeSwitch l init guard body
  | .selection _ body => communication l body
  | .loop _ init test post body =>
    sign "for"
    header l true init test post
    block l body false
  | .each _ key value mark x body => each l key value mark x body
  | .valueCase offset values colon body =>
    if values.isEmpty then sign "default"
    else
      sign "case"
      space .blank
      terms l (some offset) values 1 {} (some colon)
    caseBody l colon body closes
  | .channelCase _ guard colon body =>
    match guard with
    | some guard =>
      sign "case"
      space .blank
      l.command guard false
    | none => sign "default"
    caseBody l colon body closes

end Layout

end TensorLang.Emit
