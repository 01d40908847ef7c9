import TensorLang.Emit.Rule.Terms

/-!
# Rules for declarations

Imports, constants, variables, types and functions. A declaration is one item behind its keyword, or
several in parentheses.
-/

namespace TensorLang.Emit.Rule

/-- An imported path, possibly with a name or a point in front of it. -/
def importSpec : Rule Spec := do
  let t ← token
  let name ← if t.kind == .name then some <$> ident
    else if t.is "." then do
      next
      pure (some ⟨t.offset, ".".utf8⟩)
    else pure none
  let path ← token
  if path.kind == .quoted then next
  else
    fault path.offset
    if path.kind.isLiteral then next else skipTo expressionEnds
  let trail ← statementEnd
  pure (.importing name ⟨path.offset, path.stop, .quoted, path.text⟩ trail none)

/-- The values behind a sign of equality, if it comes next. -/
def initialValues (r : Rules) : Rule (List Term) := do
  if ← accept "=" then r.exprs true else pure []

/-- Constants with their type and values, either of which may be missing. -/
def constantSpec (r : Rules) : Rule Spec := do
  let names ← idents r.size
  let t ← token
  let (type, values) ← if t.kind == .finish || t.isAny [";", ")"] then pure (none, [])
    else do
      let type ← r.type?
      pure (type, ← initialValues r)
  let trail ← statementEnd
  pure (.values names type values (!trail.isEmpty))

/-- Variables with their type, their values or both. -/
def variableSpec (r : Rules) : Rule Spec := do
  let names ← idents r.size
  let type ← if ← sees "=" then pure none else some <$> r.type
  let values ← initialValues r
  let trail ← statementEnd
  pure (.values names type values (!trail.isEmpty))

/-- Cuts an expression into the name of a type parameter and its constraint, if it can be read so. A
constraint that could be a value counts only if it is `forced`. -/
def splitConstraint (forced : Bool) : Term → Option Name × Option Term
  | .name n => (some n, none)
  | .binary lhs offset op rhs =>
    let isForced := forced || rhs.isTypeElement
    if op == "*" then
      match lhs with
      | .name n => if isForced then (some n, some (.star offset rhs)) else (none, none)
      | _ => (none, none)
    else if op == "|" then
      match splitConstraint isForced lhs with
      | (some n, some lhs) => (some n, some (.binary lhs offset op rhs))
      | _ => (none, none)
    else (none, none)
  | .call (.name n) opening [x] none closing =>
    if forced || x.isTypeElement then (some n, some (.paren opening x closing)) else (none, none)
  | _ => (none, none)

/-- Type parameters behind an opening bracket, of which the first is read already, and the type. -/
def genericType (r : Rules) (n : Name) (opening : Nat) (first : Name) (type : Option Term) :
    Rule Spec := do
  let list ← parameters r (some first) type "]" false
  let closing ← expect "]"
  let t ← token
  let mark ← if t.is "=" then do
      next
      pure (some t.offset)
    else pure none
  return .type n (some (.mk (some opening) list (some closing))) mark (← r.type)

/-- What follows the name of a type and a bracket: type parameters, or the length of an array. -/
def bracketType (r : Rules) (n : Name) (opening : Nat) : Rule Spec := do
  if ← seesKind .name then
    let first ← ident
    let x ← if ← sees "[" then pure (.name first)
      else nested do
        let x ← primary r (some (.name first))
        r.operation (some x) 1
    match splitConstraint (← sees ",") x with
    | (some first, some type) => genericType r n opening first (some type)
    | (some first, none) =>
      if ← sees "]" then return .type n none none (← arrayType r opening (some x))
      else genericType r n opening first none
    | _ => return .type n none none (← arrayType r opening (some x))
  else return .type n none none (← arrayType r opening none)

/-- A type with its name, or another name for a type. -/
def typeSpec (r : Rules) : Rule Spec := do
  let n ← ident
  let t ← token
  let spec ← if t.is "[" then do
      next
      bracketType r n t.offset
    else if t.is "=" then do
      next
      pure (.type n none (some t.offset) (← r.type))
    else pure (.type n none none (← r.type))
  let _ ← statementEnd
  pure spec

/-- The rule for the items of a declaration. -/
def spec (r : Rules) (word : String) : Rule Spec :=
  match word with
  | "import" => importSpec
  | "const" => constantSpec r
  | "var" => variableSpec r
  | _ => typeSpec r

/-- A declaration that begins with this keyword. -/
def group (r : Rules) (word : String) : Rule Declaration := do
  let s ← step
  let offset ← expect word
  let t ← token
  if t.is "(" then
    next
    let specs ← whileTrue (do
      let t ← token
      return !(t.is ")" || t.kind == .finish)) (spec r word) r.size
    let closing ← expect ")"
    let _ ← statementEnd
    pure (.group (!s.lead.isEmpty) offset word (some (t.offset, closing)) specs)
  else return .group (!s.lead.isEmpty) offset word none [← spec r word]

/-- The body of a function with its end. -/
def functionBody (r : Rules) : Rule Block := do
  let body ← r.block
  let _ ← statementEnd
  pure body

/-- A function or a method. -/
def functionDeclaration (r : Rules) : Rule Declaration := do
  let s ← step
  let keyword ← expect "func"
  let receiver ← if ← sees "(" then some <$> parenParameters r true else pure none
  let n ← ident
  let opening ← offset
  let typeParams ← if ← sees "[" then typeParameters r else pure none
  if receiver.isSome && typeParams.isSome then fault opening
  let signature ← signature r (some keyword) typeParams
  let t ← token
  let body ← if t.is "\x7b" then some <$> functionBody r
    else if t.is ";" then do
      next
      if ← sees "\x7b" then
        faultHere
        some <$> functionBody r
      else pure none
    else do
      let _ ← statementEnd
      pure none
  pure (.function (!s.lead.isEmpty) receiver n signature body)

/-- A declaration. What is none is skipped up to one of the given signs. -/
def declaration (r : Rules) (signs : List String) : Rule Declaration := do
  let t ← token
  if t.isAny ["import", "const", "var", "type"] then group r t.sign
  else if t.is "func" then functionDeclaration r
  else
    fault t.offset
    skipTo signs
    return .bad t.offset (← offset)

/-- Declarations up to the end of the text. Imports come first: one behind anything else is noted.
`wasImport` tells that the declaration in front was an import. -/
def declarations (r : Rules) : (fuel : Nat) → (wasImport : Bool) → Rule (List Declaration)
  | 0, _ => pure []
  | fuel + 1, wasImport => do
    let t ← token
    if t.kind == .finish then pure []
    else
      let isImport := t.is "import"
      if isImport && !wasImport then fault t.offset
      let d ← declaration r declarationWords
      return d :: (← declarations r fuel isImport)

/-- A file: its package and its declarations. -/
def sourceFile (r : Rules) : Rule (Nat × Name × List Declaration) := do
  let package ← expect "package"
  let name ← ident
  let _ ← statementEnd
  return (package, name, ← declarations r r.size true)

end TensorLang.Emit.Rule
