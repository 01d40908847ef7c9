import TensorLang.Emit.Rule.Basic

/-!
# Rules for types

Type names with arguments, arrays, records, functions, interfaces, maps and channels. Parameters are
read in one way whether they have names or not, because that shows only at the end of their list.
-/

namespace TensorLang.Emit.Rule

/-- An index or the arguments of a type. -/
def packIndex (x : Term) (opening : Nat) (args : List Term) (closing : Nat) : Term :=
  .index x opening args closing

/-- A name, or a name of a package and one of its names. -/
def typeName (first : Option Name) : Rule Term := do
  let n ← match first with
    | some n => pure n
    | none => ident
  if ← accept "." then return .select (.name n) (← ident) else pure (.name n)

/-- The arguments of a type. -/
def typeInstance (r : Rules) (x : Term) : Rule Term := do
  let opening ← expect "["
  let args ← nested (commaItems "]" r.type r.size)
  let closing ← expectClosing "]"
  if args.isEmpty then
    fault closing
    pure (.index x opening [.bad (opening + 1) closing] closing)
  else pure (packIndex x opening args closing)

/-- A type name, with its arguments if it has some. -/
def qualifiedName (r : Rules) (first : Option Name) : Rule Term := do
  let x ← typeName first
  if ← sees "[" then typeInstance r x else pure x

/-- The type of an array, behind its opening bracket and possibly its length. -/
def arrayType (r : Rules) (opening : Nat) (length : Option Term) : Rule Term := do
  let length ← match length with
    | some n => pure (some n)
    | none => nested do
      let t ← token
      if t.is "..." then
        next
        pure (some (.dots t.offset none))
      else if t.is "]" then pure none
      else some <$> r.value
  if ← sees "," then
    faultHere
    next
  let _ ← expect "]"
  return .array opening length (← r.type)

/-- Values with commas between them up to a closing bracket, and the offset of a comma in front of
it. -/
def bracketValues (r : Rules) : (fuel : Nat) → Rule (List Term × Option Nat)
  | 0 => pure ([], none)
  | fuel + 1 => do
    let x ← r.value
    let t ← token
    if t.is "," then
      next
      if ← sees "]" then pure ([x], some t.offset)
      else
        let (xs, comma) ← bracketValues r fuel
        pure (x :: xs, comma)
    else pure ([x], none)

/-- After a name and before a bracket: a name with the type of an array, or a type with arguments
and no name. -/
def arrayOrInstance (r : Rules) (n : Name) : Rule (Option Name × Term) := do
  let opening ← expect "["
  let (args, comma) ← if ← sees "]" then pure ([], none) else nested (bracketValues r r.size)
  let closing ← expect "]"
  match args with
  | [] => return (some n, .array opening none (← r.type))
  | [length] =>
    match ← r.type? with
    | some item =>
      match comma with
      | some comma => fault comma
      | none => pure ()
      pure (some n, .array opening (some length) item)
    | none => pure (none, packIndex (.name n) opening args closing)
  | args => pure (none, packIndex (.name n) opening args closing)

/-! ### Records -/

/-- An embedded type: a name, or a pointer to one. -/
def embedded (r : Rules) : Rule Term := do
  let t ← token
  if t.is "*" then
    next
    return .star t.offset (← qualifiedName r none)
  else qualifiedName r none

/-- A rule in parentheses, which are noted. The closing one may be missing. -/
def inNotedParens (rule : Rule Term) : Rule Term := do
  faultHere
  next
  let x ← rule
  let _ ← accept ")"
  pure x

/-- The names and the type of a field; an embedded type has no name. -/
def fieldType (r : Rules) : Rule (List Name × Term) := do
  let t ← token
  if t.kind == .name then
    let n ← ident
    let u ← token
    if u.is "." then return ([], ← qualifiedName r (some n))
    else if u.kind == .quoted || u.is ";" || u.is "\x7d" then pure ([], .name n)
    else
      let more ← whileTrue (sees ",") (do next; ident) r.size
      if more.isEmpty && (← sees "[") then
        let (named, type) ← arrayOrInstance r n
        pure (named.toList, type)
      else return (n :: more, ← r.type)
  else if t.is "*" then
    next
    let x ← if ← sees "(" then inNotedParens (qualifiedName r none) else qualifiedName r none
    pure ([], .star t.offset x)
  else if t.is "(" then return ([], ← inNotedParens (embedded r))
  else
    fault t.offset
    skipTo expressionEnds
    return ([], ← badFrom t.offset)

/-- A field with its tag. -/
def field (r : Rules) : Rule Field := do
  let (names, type) ← fieldType r
  let t ← token
  let tag ← if t.kind == .quoted then do
      next
      pure (some ⟨t.offset, t.stop, t.kind, t.text⟩)
    else pure none
  let trail ← statementEnd
  pure (.mk names type tag (!trail.isEmpty))

/-- A record. -/
def record (r : Rules) : Rule Term := do
  let start ← expect "struct"
  let opening ← expect "\x7b"
  let fields ← whileTrue (do
    let t ← token
    return t.kind == .name || t.isAny ["*", "("]) (field r) r.size
  let closing ← expect "\x7d"
  pure (.record start (.mk (some opening) fields (some closing)))

/-! ### Unions -/

/-- A type, or the types with the same representation. -/
def unionTerm (r : Rules) : Rule Term := do
  let t ← token
  if t.is "~" then
    next
    return .unary t.offset "~" (← r.type)
  else
    match ← r.type? with
    | some x => pure x
    | none =>
      fault t.offset
      skipTo expressionEnds
      badFrom t.offset

/-- Adds types behind bars. -/
def unionFrom (r : Rules) : (fuel : Nat) → Term → Rule Term
  | 0, x => pure x
  | fuel + 1, x => do
    let t ← token
    if t.is "|" then
      next
      let y ← unionTerm r
      unionFrom r fuel (.binary x t.offset "|" y)
    else pure x

/-- Types with bars between them; the first one may be read already. -/
def union (r : Rules) (first : Option Term) : Rule Term := do
  let x ← match first with
    | some x => pure x
    | none => unionTerm r
  unionFrom r r.size x

/-! ### Parameters -/

/-- A parameter: a name, a type or both. -/
structure Param where
  name : Option Name := none
  type : Option Term := none

/-- Signs that begin a type behind a name. -/
def typeSigns : List String := ["*", "<-", "func", "chan", "map", "struct", "interface", "("]

/-- A type behind three dots. -/
def dotsType (r : Rules) : Rule Term := do
  let start ← expect "..."
  return .dots start (some (← r.type))

/-- A parameter behind its name. The flag says that it needs no bars behind it. -/
def paramFrom (r : Rules) (n : Name) (hasUnions : Bool) : Rule (Param × Bool) := do
  let t ← token
  if t.kind == .name || t.isAny typeSigns then return (⟨some n, some (← r.type)⟩, false)
  else if t.is "[" then
    let (n, type) ← arrayOrInstance r n
    pure (⟨n, some type⟩, false)
  else if t.is "..." then return (⟨some n, some (← dotsType r)⟩, true)
  else if t.is "." then return (⟨none, some (← qualifiedName r (some n))⟩, false)
  else if hasUnions && t.is "~" then return (⟨some n, some (← union r none)⟩, true)
  else if hasUnions && t.is "|" then return (⟨none, some (← union r (some (.name n)))⟩, true)
  else pure (⟨some n, none⟩, false)

/-- A parameter, the name of which may be read already. The flag says that it needs no bars behind
it. -/
def plainParam (r : Rules) (first : Option Name) (hasUnions : Bool) : Rule (Param × Bool) := do
  let t ← token
  match first with
  | some n => paramFrom r n hasUnions
  | none =>
    if t.kind == .name then
      let n ← ident
      paramFrom r n hasUnions
    else if t.isAny ("[" :: typeSigns) then return (⟨none, some (← r.type)⟩, false)
    else if t.is "..." then return (⟨none, some (← dotsType r)⟩, true)
    else
      fault t.offset
      skipTo expressionEnds
      pure ({}, false)

/-- A parameter, the name of which may be read already. Type parameters may have unions. -/
def param (r : Rules) (first : Option Name) (hasUnions : Bool) : Rule Param := do
  if first.isNone && hasUnions && (← sees "~") then return ⟨none, some (← union r none)⟩
  else
    let (p, isDone) ← plainParam r first hasUnions
    match p.type with
    | some type =>
      if !isDone && hasUnions && (← sees "|") then
        return { p with type := some (← union r (some type)) }
      else pure p
    | none => pure p

/-- Parameters up to the closing sign. The first one may be read already, at least its name. -/
def paramsFrom (r : Rules) (closing : String) :
    (fuel : Nat) → (first : Option Name) → (firstType : Option Term) → Rule (List Param)
  | 0, _, _ => pure []
  | fuel + 1, first, firstType => do
    let t ← token
    if first.isNone && (t.is closing || t.kind == .finish) then pure []
    else
      let isTypes := closing == "]"
      let p ← match firstType with
        | some type => do
          let type ← if isTypes then union r (some type) else pure type
          pure ⟨first, some type⟩
        | none => param r first isTypes
      let here := if p.name.isSome || p.type.isSome then [p] else []
      if ← atComma closing then
        next
        return here ++ (← paramsFrom r closing fuel none none)
      else pure here

/-- A parameter with its name and its type; `owns` tells that the type is written behind it and not
behind a later name. -/
structure NamedParam where
  name : Name
  type : Term
  owns : Bool

/-- Gives each parameter the type that follows it. Also gives the offset of the first parameter that
has no name or no type; `stop` is the end of the list. -/
def shareTypes (stop : Nat) : List Param → List NamedParam × Option Term × Option Nat
  | [] => ([], none, none)
  | p :: rest =>
    let (named, type, bad) := shareTypes stop rest
    match p.type, p.name with
    | some t, some n => (⟨n, t, true⟩ :: named, some t, bad)
    | some t, none => (⟨⟨t.start, "_".utf8⟩, t, true⟩ :: named, some t, some t.start)
    | none, n =>
      let n := n.getD default
      match type with
      | some t => (⟨n, t, false⟩ :: named, type, bad)
      | none => (⟨n, .bad n.offset stop, true⟩ :: named, none, some n.offset)

/-- Puts names that share a type into one field. -/
def fieldsOf (names : List Name) : List NamedParam → List Field
  | [] => []
  | p :: rest =>
    if p.owns then .mk (names ++ [p.name]) p.type none false :: fieldsOf [] rest
    else fieldsOf (names ++ [p.name]) rest

/-- Three dots may stand in front of the type of the last parameter, if at all; notes the first that
stands elsewhere. -/
def checkDots (allowed : Bool) (types : List Term) : Rule Unit :=
  let isDots : Term → Bool
    | .dots .. => true
    | _ => false
  let checked := if allowed then types.dropLast else types
  match checked.find? isDots with
  | some t => fault t.start
  | none => pure ()

/-- The parameters up to the closing sign. -/
def parameters (r : Rules) (first : Option Name) (firstType : Option Term) (closing : String)
    (dotsAllowed : Bool) : Rule (List Field) := do
  let isTypes := closing == "]"
  let here ← offset
  let start := ((first.map Name.offset).or (firstType.map Term.start)).getD here
  let params ← paramsFrom r closing r.size first firstType
  let stop ← offset
  let named := params.countP fun p => p.name.isSome && p.type.isSome
  let typed := params.countP fun p => p.type.isSome
  if params.isEmpty then pure []
  else if named == 0 then
    let types := params.map fun p => p.type.getD (.name (p.name.getD default))
    if isTypes then fault (if typed == 0 then stop else start)
    checkDots dotsAllowed types
    pure (types.map fun t => .mk [] t none false)
  else
    let (list, _, bad) := shareTypes stop params
    match bad with
    | some bad => if named != params.length then fault (if named == typed then stop else bad)
    | none => pure ()
    checkDots dotsAllowed (list.map NamedParam.type)
    pure (fieldsOf [] list)

/-- Type parameters in brackets; an empty list is noted. -/
def typeParameters (r : Rules) : Rule (Option Fields) := do
  let opening ← expect "["
  let list ← parameters r none none "]" false
  let closing ← expect "]"
  if list.isEmpty then
    fault closing
    pure none
  else pure (some (.mk (some opening) list (some closing)))

/-- Parameters or results in parentheses. -/
def parenParameters (r : Rules) (dotsAllowed : Bool) : Rule Fields := do
  let opening ← expect "("
  let list ← if ← sees ")" then pure [] else parameters r none none ")" dotsAllowed
  let closing ← expect ")"
  pure (.mk (some opening) list (some closing))

/-- Results: in parentheses, a single type, or none. -/
def results (r : Rules) : Rule (Option Fields) := do
  if ← sees "(" then some <$> parenParameters r false
  else
    match ← r.type? with
    | some t => pure (some (.mk none [.mk [] t none false] none))
    | none => pure none

/-- The offset behind a list of parameters or results. -/
def fieldsStop (f : Fields) : Nat :=
  match f.closing with
  | some closing => closing + 1
  | none => ((f.list.getLast?).map Field.stop).getD 0

/-- Parameters and results. -/
def signature (r : Rules) (keyword : Option Nat) (typeParams : Option Fields) :
    Rule Signature := do
  let params ← parenParameters r true
  let results ← results r
  pure (.mk keyword typeParams params results (fieldsStop (results.getD params)))

/-- The type of a function. Type parameters are noted. -/
def functionType (r : Rules) : Rule Signature := do
  let start ← expect "func"
  let opening ← token
  if opening.is "[" then
    if (← typeParameters r).isSome then fault opening.offset
  signature r (some start) none

/-! ### Interfaces -/

/-- What follows the name of a method or an embedded type and a bracket: type parameters of a
method, which are noted, or arguments of the type. -/
def genericMethod (r : Rules) (n : Name) : Rule (List Name × Term) := do
  let opening ← expect "["
  let x ← nested r.expr
  let t ← token
  match x, t.isAny [",", "]"] with
  | .name first, false =>
    let _ ← parameters r (some first) none "]" false
    let _ ← expect "]"
    fault opening
    return ([n], .functionType (← signature r none none))
  | x, _ =>
    let more ← if ← atComma "]" then nested (do next; commaItems "]" r.type r.size) else pure []
    let closing ← expectClosing "]"
    pure ([], packIndex (.name n) opening (x :: more) closing)

/-- A method or an embedded type that begins with a name. -/
def method (r : Rules) : Rule (List Name × Term) := do
  match ← typeName none with
  | .name n =>
    if ← sees "[" then genericMethod r n
    else if ← sees "(" then return ([n], .functionType (← signature r none none))
    else pure ([], .name n)
  | x => if ← sees "[" then return ([], ← typeInstance r x) else pure ([], x)

/-- A method or an embedded union of types, if one comes next. -/
def member? (r : Rules) : Rule (Option (List Name × Term)) := do
  let t ← token
  if t.kind == .name then
    let (names, type) ← method r
    if names.isEmpty then return some ([], ← union r (some type))
    else pure (some (names, type))
  else if t.is "~" then return some ([], ← union r none)
  else
    match ← r.type? with
    | some type => return some ([], ← union r (some type))
    | none => pure none

/-- The methods and embedded types of an interface, up to the closing brace. -/
def members (r : Rules) : (fuel : Nat) → Rule (List Field)
  | 0 => pure []
  | fuel + 1 => do
    match ← member? r with
    | some (names, type) =>
      let trail ← statementEnd
      return .mk names type none (!trail.isEmpty) :: (← members r fuel)
    | none => pure []

/-- An interface. -/
def interface (r : Rules) : Rule Term := do
  let start ← expect "interface"
  let opening ← expect "\x7b"
  let list ← members r r.size
  let closing ← expect "\x7d"
  pure (.interface start (.mk (some opening) list (some closing)))

/-! ### All types -/

/-- A channel. -/
def channel (r : Rules) : Rule Term := do
  let t ← token
  if t.is "chan" then
    next
    let arrow ← token
    if arrow.is "<-" then
      next
      return .channel t.offset (some arrow.offset) false true (← r.type)
    else return .channel t.offset none true true (← r.type)
  else
    let arrow ← expect "<-"
    let _ ← expect "chan"
    return .channel t.offset (some arrow) true false (← r.type)

/-- A type, if one comes next. -/
def type? (r : Rules) : Rule (Option Term) := do
  let t ← token
  if t.kind == .name then some <$> qualifiedName r none
  else if t.kind != .sign then pure none
  else
    match t.sign with
    | "[" =>
      next
      some <$> arrayType r t.offset none
    | "struct" => some <$> record r
    | "*" =>
      next
      return some (.star t.offset (← r.type))
    | "func" => return some (.functionType (← functionType r))
    | "interface" => some <$> interface r
    | "map" =>
      next
      let _ ← expect "["
      let key ← r.type
      let _ ← expect "]"
      return some (.mapping t.offset key (← r.type))
    | "chan" | "<-" => some <$> channel r
    | "(" =>
      next
      let x ← r.type
      let closing ← expect ")"
      pure (some (.paren t.offset x closing))
    | _ => pure none

end TensorLang.Emit.Rule
