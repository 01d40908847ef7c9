import TensorLang.Emit.Rule.Declarations

/-!
# Rules for statements

Simple statements, headers of control statements and their bodies.
-/

namespace TensorLang.Emit.Rule

/-! ### Simple statements -/

/-- Where a simple statement stands. -/
inductive SimpleMode where
  /-- In a header. -/
  | plain
  /-- Where it may be a label. -/
  | labelled
  /-- Where it may be the header of a loop over something. -/
  | ranged
  deriving DecidableEq

/-- Signs between the two sides of an assignment. -/
def assignSigns : List String :=
  [":=", "=", "+=", "-=", "*=", "/=", "%=", "&=", "|=", "^=", "<<=", ">>=", "&^="]

/-- A simple statement, or the header of a loop over something. -/
inductive Simple where
  | command (c : Command)
  | range (lhs : List Term) (mark : Option (Nat × String)) (x : Term)

/-- The statement, if it is one. -/
def Simple.command? : Simple → Option Command
  | .command c => some c
  | .range .. => none

/-- A simple statement without its end. -/
def simple (r : Rules) (mode : SimpleMode) : Rule Simple := do
  let lhs ← r.exprs false
  let t ← token
  if t.isAny assignSigns then
    next
    if mode == .ranged && (← sees "range") && t.isAny [":=", "="] then
      next
      return .range lhs (some (t.offset, t.sign)) (← r.value)
    else return .command (.assign lhs t.offset t.sign (← r.exprs true))
  else
    let x := lhs.head?.getD default
    if 1 < lhs.length then fault x.start
    if t.is ":" then
      next
      match x, mode with
      | .name label, .labelled => return .command (.labelled label t.offset (← r.command))
      | _, _ =>
        fault t.offset
        pure (.command (.bad x.start (t.offset + 1)))
    else if t.is "<-" then
      next
      return .command (.send x t.offset (← r.value))
    else if t.isAny ["++", "--"] then
      next
      pure (.command (.step x t.offset t.sign))
    else pure (.command (.eval x))

/-- A simple statement in a header. -/
def plainSimple (r : Rules) : Rule (Option Command) := return (← simple r .plain).command?

/-- The expression that a statement in a header must be; any other is noted. -/
def asTerm : Option Command → Rule (Option Term)
  | none => pure none
  | some (.eval x) => pure (some x)
  | some c => do
    fault c.start
    pure (some (.bad c.start c.start))

/-- A call behind `go` or `defer`. -/
def launch (r : Rules) (word : String) : Rule Command := do
  let offset ← expect word
  let x ← r.value
  if x.isParen then fault x.start
  let bare := x.bare
  let isCall ← match bare with
    | .call .. => pure true
    | .bad .. => pure false
    | _ => do
      fault bare.stop
      pure false
  let _ ← statementEnd
  pure (if isCall then .launch offset word bare else .bad offset (offset + word.length))

/-- `return` with its values. -/
def giveBack (r : Rules) : Rule Command := do
  let offset ← expect "return"
  let results ← if ← seesAny [";", "\x7d"] then pure [] else r.exprs true
  let _ ← statementEnd
  pure (.giveBack offset results)

/-- A jump with its label, which only `goto` must have. -/
def jump (word : String) : Rule Command := do
  let offset ← expect word
  let isName ← seesKind .name
  let label ← if word == "goto" || (isName && word != "fallthrough") then some <$> ident
    else pure none
  let _ ← statementEnd
  pure (.jump offset word label)

/-! ### Branches -/

/-- The header of `if`: a statement, which may be missing, and a condition. -/
def choiceHeader (r : Rules) : Rule (Option Command × Term) := do
  if ← sees "\x7b" then
    let here ← offset
    fault here
    pure (none, .bad here here)
  else inHeader do
    let init ← if ← sees ";" then pure none
      else do
        if ← accept "var" then faultHere
        plainSimple r
    let t ← token
    let (init, test) ← if t.is "\x7b" then pure (none, init)
      else do
        let _ ← expect ";"
        let test ← if ← sees "\x7b" then pure none else plainSimple r
        if test.isNone && t.is ";" then fault t.offset
        pure (init, test)
    let here ← offset
    return (init, (← asTerm test).getD (.bad here here))

/-- A branch with its alternative. -/
def choice (r : Rules) : Rule Command := do
  let offset ← expect "if"
  let (init, test) ← choiceHeader r
  let body ← r.block
  let otherwise ← if ← accept "else" then
      if ← sees "if" then some <$> r.choice
      else if ← sees "\x7b" then do
        let body ← r.block
        let _ ← statementEnd
        pure (some (.block body))
      else do
        let t ← token
        fault t.offset
        pure (some (.bad t.offset t.offset))
    else do
      let _ ← statementEnd
      pure none
  pure (.choice offset init test body otherwise)

/-- The statements of a case, with its colon. -/
def caseBody (r : Rules) : Rule (Nat × List Command) := do
  let colon ← expect ":"
  return (colon, ← r.commands)

/-- A case with its values, or the default. -/
def valueCase (r : Rules) : Rule Command := do
  let t ← token
  let values ← if ← accept "case" then r.exprs true
    else do
      let _ ← expect "default"
      pure []
  let (colon, body) ← caseBody r
  pure (.valueCase t.offset values colon body)

/-- What a case sends or receives. -/
def channelGuard (r : Rules) : Rule Command := do
  let lhs ← r.exprs false
  let x := lhs.head?.getD default
  let t ← token
  if t.is "<-" then
    if 1 < lhs.length then fault x.start
    next
    return .send x t.offset (← r.value)
  else if t.isAny ["=", ":="] then
    if 2 < lhs.length then fault x.start
    next
    return .assign (lhs.take 2) t.offset t.sign [← r.value]
  else
    if 1 < lhs.length then fault x.start
    pure (.eval x)

/-- A case that communicates, or the default. -/
def channelCase (r : Rules) : Rule Command := do
  let t ← token
  let guard ← if ← accept "case" then some <$> channelGuard r
    else do
      let _ ← expect "default"
      pure none
  let (colon, body) ← caseBody r
  pure (.channelCase t.offset guard colon body)

/-- Cases in braces, with the end of the statement. -/
def cases (r : Rules) (rule : Rule Command) : Rule Block := do
  let opening ← expect "\x7b"
  let list ← whileTrue (seesAny ["case", "default"]) rule r.size
  let closing ← expect "\x7d"
  let _ ← statementEnd
  pure (.mk opening list closing)

/-- Is the term an assertion of any type? -/
def isTypeQuestion : Term → Bool
  | .assertion _ _ none _ => true
  | _ => false

/-- Does the statement ask for a type? One that assigns and does not define is noted. -/
def isTypeGuard : Command → Rule Bool
  | .eval x => pure (isTypeQuestion x)
  | .assign [_] offset op [x] =>
    if isTypeQuestion x && (op == "=" || op == ":=") then do
      if op == "=" then fault offset
      pure true
    else pure false
  | _ => pure false

/-- The header of `switch`: a statement and a tag, either of which may be missing. -/
def switchHeader (r : Rules) : Rule (Option Command × Option Command) := do
  if ← sees "\x7b" then pure (none, none)
  else inHeader do
    let first ← if ← sees ";" then pure none else plainSimple r
    if ← accept ";" then
      return (first, ← if ← sees "\x7b" then pure none else plainSimple r)
    else pure (none, first)

/-- A switch over a value or over types. -/
def switch (r : Rules) : Rule Command := do
  let offset ← expect "switch"
  let (init, tag) ← switchHeader r
  let isType ← match tag with
    | some c => isTypeGuard c
    | none => pure false
  let body ← cases r (valueCase r)
  match tag, isType with
  | some guard, true => pure (.typeSwitch offset init guard body)
  | tag, _ => return .switch offset init (← asTerm tag) body

/-- A choice of communications. -/
def selection (r : Rules) : Rule Command := do
  let offset ← expect "select"
  return .selection offset (← cases r (channelCase r))

/-! ### Loops -/

/-- The header of a loop: what it ranges over, or three statements that may be missing. -/
def loopHeader (r : Rules) :
    Rule (Sum (List Term × Option (Nat × String) × Term)
      (Option Command × Option Command × Option Command)) := do
  if ← sees "\x7b" then pure (.inr (none, none, none))
  else inHeader do
    if ← accept "range" then return .inl ([], none, ← r.value)
    else
      let first ← if ← sees ";" then pure none else some <$> simple r .ranged
      match first with
      | some (.range lhs mark x) => pure (.inl (lhs, mark, x))
      | first =>
        let first := first.bind Simple.command?
        if ← accept ";" then
          let test ← if ← sees ";" then pure none else plainSimple r
          let _ ← statementEnd
          let post ← if ← sees "\x7b" then pure none else plainSimple r
          pure (.inr (first, test, post))
        else pure (.inr (none, first, none))

/-- A loop. -/
def loop (r : Rules) : Rule Command := do
  let offset ← expect "for"
  let header ← loopHeader r
  let body ← r.block
  let _ ← statementEnd
  match header with
  | .inl (lhs, mark, x) =>
    match lhs with
    | [] => pure (.each offset none none none x body)
    | [key] => pure (.each offset (some key) none mark x body)
    | [key, value] => pure (.each offset (some key) (some value) mark x body)
    | lhs =>
      fault ((lhs.getLast?.map Term.start).getD offset)
      pure (.bad offset (body.closing + 1))
  | .inr (init, test, post) => return .loop offset init (← asTerm test) post body

/-! ### All statements -/

/-- Signs that begin simple statements. -/
def simpleSigns : List String :=
  ["func", "(", "[", "struct", "map", "chan", "interface", "+", "-", "*", "&", "^", "<-", "!"]

/-- A simple statement with its end; a label has none. -/
def simpleCommand (r : Rules) : Rule Command := do
  match ← simple r .labelled with
  | .command (.labelled label colon body) => pure (.labelled label colon body)
  | .command c =>
    let _ ← statementEnd
    pure c
  | .range .. => pure default

/-- A statement with its end. -/
def command (r : Rules) : Rule Command := do
  let t ← token
  if t.kind.isLiteral || t.isAny simpleSigns then simpleCommand r
  else
    match t.sign with
    | "const" | "type" | "var" => .declare <$> declaration r statementWords
    | "go" | "defer" => launch r t.sign
    | "return" => giveBack r
    | "break" | "continue" | "goto" | "fallthrough" => jump t.sign
    | "\x7b" =>
      let body ← r.block
      let _ ← statementEnd
      pure (.block body)
    | "if" => r.choice
    | "switch" => switch r
    | "select" => selection r
    | "for" => loop r
    | ";" =>
      next
      pure (.nothing t.offset)
    | "\x7d" => pure (.nothing t.offset)
    | _ =>
      fault t.offset
      skipTo statementWords
      return .bad t.offset (← offset)

end TensorLang.Emit.Rule
