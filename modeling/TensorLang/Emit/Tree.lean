import TensorLang.Emit.Remark

/-!
# Trees of emitted code

The structure of a source file: terms (expressions and types), commands and declarations. Tokens
keep the offsets that layout depends on, because line ends and comments stay where they were.

* `Term.start` and `Term.stop` are the ends of a term; `Command.start`, `Spec.start` and
  `Declaration.start` say where the others begin.
-/

namespace TensorLang.Emit

/-- A name and where it stands. -/
structure Name where
  offset : Nat
  text : Bytes
  deriving DecidableEq, Inhabited, Repr

/-- The offset behind a name. -/
def Name.stop (n : Name) : Nat := n.offset + n.text.length

/-- A number, a character or a text in quotes. -/
structure Constant where
  offset : Nat
  stop : Nat
  kind : TokenKind
  text : Bytes
  deriving DecidableEq, Inhabited, Repr

mutual

/-- Expressions and types. -/
inductive Term where
  /-- What does not fit the grammar. -/
  | bad (start stop : Nat)
  | name (n : Name)
  | constant (c : Constant)
  /-- A type, if any, and items in braces. -/
  | composite (type : Option Term) (opening : Nat) (items : List Term) (closing : Nat)
  | function (signature : Signature) (body : Block)
  | paren (opening : Nat) (inner : Term) (closing : Nat)
  /-- `x.field` -/
  | select (x : Term) (field : Name)
  /-- `x[a, b]` -/
  | index (x : Term) (opening : Nat) (args : List Term) (closing : Nat)
  /-- `x[a:b]` or `x[a:b:c]` -/
  | slice (x : Term) (opening : Nat) (bounds : List (Option Term)) (closing : Nat)
  /-- `x.(T)`, or `x.(type)` -/
  | assertion (x : Term) (opening : Nat) (type : Option Term) (closing : Nat)
  /-- `f(a, b)`, or `f(a, b...)` -/
  | call (callee : Term) (opening : Nat) (args : List Term) (dots : Option Nat) (closing : Nat)
  | star (offset : Nat) (x : Term)
  | unary (offset : Nat) (op : String) (x : Term)
  | binary (lhs : Term) (offset : Nat) (op : String) (rhs : Term)
  /-- `key: value` -/
  | pair (key : Term) (colon : Nat) (value : Term)
  /-- `[n]T`, or `[]T` -/
  | array (opening : Nat) (length : Option Term) (item : Term)
  | record (offset : Nat) (fields : Fields)
  | functionType (signature : Signature)
  | interface (offset : Nat) (methods : Fields)
  | mapping (offset : Nat) (key value : Term)
  /-- A channel; its arrow stands in front of it if it only receives. -/
  | channel (start : Nat) (arrow : Option Nat) (receives sends : Bool) (item : Term)
  /-- `...T`, or `...` alone -/
  | dots (offset : Nat) (item : Option Term)

/-- Parameters and results. The keyword is missing in methods, and `stop` is where all ends. -/
inductive Signature where
  | mk (keyword : Option Nat) (typeParams : Option Fields) (params : Fields)
      (results : Option Fields) (stop : Nat)

/-- Fields, methods or parameters; a single result stands without parentheses. -/
inductive Fields where
  | mk (opening : Option Nat) (list : List Field) (closing : Option Nat)

/-- Names of one type, possibly with a tag; without names it is the type alone. -/
inductive Field where
  | mk (names : List Name) (type : Term) (tag : Option Constant) (hasTrail : Bool)

/-- Statements and cases. -/
inductive Command where
  | bad (start stop : Nat)
  | declare (d : Declaration)
  | nothing (offset : Nat)
  | labelled (label : Name) (colon : Nat) (body : Command)
  | eval (x : Term)
  | send (channel : Term) (arrow : Nat) (value : Term)
  /-- `x++`, `x--` -/
  | step (x : Term) (offset : Nat) (op : String)
  | assign (lhs : List Term) (offset : Nat) (op : String) (rhs : List Term)
  /-- `go f()`, `defer f()` -/
  | launch (offset : Nat) (word : String) (call : Term)
  | giveBack (offset : Nat) (results : List Term)
  /-- `break`, `continue`, `goto`, `fallthrough` -/
  | jump (offset : Nat) (word : String) (label : Option Name)
  | block (body : Block)
  | choice (offset : Nat) (init : Option Command) (test : Term) (body : Block)
      (otherwise : Option Command)
  | switch (offset : Nat) (init : Option Command) (tag : Option Term) (body : Block)
  | typeSwitch (offset : Nat) (init : Option Command) (guard : Command) (body : Block)
  | selection (offset : Nat) (body : Block)
  | loop (offset : Nat) (init : Option Command) (test : Option Term) (post : Option Command)
      (body : Block)
  /-- `for key, value := range x` -/
  | each (offset : Nat) (key value : Option Term) (mark : Option (Nat × String)) (x : Term)
      (body : Block)
  /-- A case with its values; the default has none. -/
  | valueCase (offset : Nat) (values : List Term) (colon : Nat) (body : List Command)
  /-- A case with what it communicates; the default has nothing. -/
  | channelCase (offset : Nat) (guard : Option Command) (colon : Nat) (body : List Command)

/-- Statements in braces. -/
inductive Block where
  | mk (opening : Nat) (commands : List Command) (closing : Nat)

/-- Declarations: a keyword with one item or several in parentheses, or a function. -/
inductive Declaration where
  | bad (start stop : Nat)
  | group (hasLead : Bool) (offset : Nat) (word : String) (parens : Option (Nat × Nat))
      (specs : List Spec)
  | function (hasLead : Bool) (receiver : Option Fields) (name : Name) (signature : Signature)
      (body : Option Block)

/-- The items of declarations. -/
inductive Spec where
  /-- An imported path with the comment behind it; `stop` replaces the end of the path. -/
  | importing (name : Option Name) (path : Constant) (trail : List Remark) (stop : Option Nat)
  | values (names : List Name) (type : Option Term) (values : List Term) (hasTrail : Bool)
  /-- A type; `mark` is the sign of equality if it is another name for one. -/
  | type (name : Name) (params : Option Fields) (mark : Option Nat) (type : Term)

end

instance : Inhabited Term := ⟨.bad 0 0⟩
instance : Inhabited Command := ⟨.bad 0 0⟩
instance : Inhabited Declaration := ⟨.bad 0 0⟩
instance : Inhabited Block := ⟨.mk 0 [] 0⟩
instance : Inhabited Fields := ⟨.mk none [] none⟩
instance : Inhabited Field := ⟨.mk [] default none false⟩
instance : Inhabited Signature := ⟨.mk none none default none 0⟩
instance : Inhabited Spec := ⟨.importing none default [] none⟩

/-- A source file: its declarations, all groups of comments in order, and its lines. -/
structure SourceFile where
  package : Nat
  name : Name
  declarations : List Declaration
  remarks : List (List Remark)
  lines : Lines
  deriving Inhabited

namespace Fields

/-- Where the list begins, if it has an opening sign. -/
def opening : Fields → Option Nat
  | .mk opening _ _ => opening

/-- Where the list ends, if it has a closing sign. -/
def closing : Fields → Option Nat
  | .mk _ _ closing => closing

/-- The members of the list. -/
def list : Fields → List Field
  | .mk _ list _ => list

/-- The number of members, each name counted. -/
def count (f : Fields) : Nat :=
  (f.list.map fun
    | .mk names _ _ _ => max 1 names.length).foldr (· + ·) 0

end Fields

namespace Block

/-- The offset of the opening brace. -/
def opening : Block → Nat
  | .mk opening _ _ => opening

/-- The statements. -/
def commands : Block → List Command
  | .mk _ commands _ => commands

/-- The offset of the closing brace. -/
def closing : Block → Nat
  | .mk _ _ closing => closing

end Block

/-- Where a signature begins. -/
def Signature.start : Signature → Nat
  | .mk keyword _ params _ _ => (keyword.or params.opening).getD 0

/-- Where a signature ends. -/
def Signature.stop : Signature → Nat
  | .mk _ _ _ _ stop => stop

namespace Term

/-- Where a term begins. -/
def start : Term → Nat
  | bad start _ => start
  | name n => n.offset
  | constant c => c.offset
  | composite (some type) _ _ _ => type.start
  | composite none opening _ _ => opening
  | function signature _ => signature.start
  | paren opening _ _ => opening
  | select x _ => x.start
  | index x _ _ _ => x.start
  | slice x _ _ _ => x.start
  | assertion x _ _ _ => x.start
  | call callee _ _ _ _ => callee.start
  | star offset _ => offset
  | unary offset _ _ => offset
  | binary lhs _ _ _ => lhs.start
  | pair key _ _ => key.start
  | array opening _ _ => opening
  | record offset _ => offset
  | functionType signature => signature.start
  | interface offset _ => offset
  | mapping offset _ _ => offset
  | channel start _ _ _ _ => start
  | dots offset _ => offset

/-- The offset behind a term. -/
def stop : Term → Nat
  | bad _ stop => stop
  | name n => n.stop
  | constant c => c.stop
  | composite _ _ _ closing => closing + 1
  | function _ (.mk _ _ closing) => closing + 1
  | paren _ _ closing => closing + 1
  | select _ field => field.stop
  | index _ _ _ closing => closing + 1
  | slice _ _ _ closing => closing + 1
  | assertion _ _ _ closing => closing + 1
  | call _ _ _ _ closing => closing + 1
  | star _ x => x.stop
  | unary _ _ x => x.stop
  | binary _ _ _ rhs => rhs.stop
  | pair _ _ value => value.stop
  | array _ _ item => item.stop
  | record _ fields => (fields.closing.getD 0) + 1
  | functionType signature => signature.stop
  | interface _ methods => (methods.closing.getD 0) + 1
  | mapping _ _ value => value.stop
  | channel _ _ _ _ item => item.stop
  | dots _ (some item) => item.stop
  | dots offset none => offset + 3

/-- Removes all parentheses around a term. -/
def bare : Term → Term
  | paren _ inner _ => inner.bare
  | x => x

/-- Is the term in parentheses? -/
def isParen : Term → Bool
  | paren .. => true
  | _ => false

/-- Is the term a name, or a name selected from names? -/
def isTypeName : Term → Bool
  | name _ => true
  | select x _ => x.isTypeName
  | _ => false

/-- Can the term be read as part of a constraint only, and not as a value? -/
def isTypeElement : Term → Bool
  | array .. | record .. | functionType .. | interface .. | mapping .. | channel .. => true
  | binary lhs _ _ rhs => lhs.isTypeElement || rhs.isTypeElement
  | unary _ op _ => op == "~"
  | paren _ inner _ => inner.isTypeElement
  | _ => false

end Term

namespace Field

/-- Where a field begins. -/
def start : Field → Nat
  | .mk (n :: _) _ _ _ => n.offset
  | .mk [] type _ _ => type.start

/-- The offset behind a field. -/
def stop : Field → Nat
  | .mk _ _ (some tag) _ => tag.stop
  | .mk _ type none _ => type.stop

/-- The names of a field. -/
def names : Field → List Name
  | .mk names _ _ _ => names

/-- The type of a field. -/
def type : Field → Term
  | .mk _ type _ _ => type

end Field

/-- Where an item of a declaration begins. -/
def Spec.start : Spec → Nat
  | .importing (some n) _ _ _ => n.offset
  | .importing none path _ _ => path.offset
  | .values names _ _ _ => (names.head?.map Name.offset).getD 0
  | .type n _ _ _ => n.offset

/-- Where a declaration begins. -/
def Declaration.start : Declaration → Nat
  | .bad start _ => start
  | .group _ offset _ _ _ => offset
  | .function _ _ _ signature _ => signature.start

/-- Where a statement begins. -/
def Command.start : Command → Nat
  | .bad start _ => start
  | .declare d => d.start
  | .nothing offset => offset
  | .labelled label _ _ => label.offset
  | .eval x => x.start
  | .send channel _ _ => channel.start
  | .step x _ _ => x.start
  | .assign lhs _ _ _ => (lhs.head?.map Term.start).getD 0
  | .launch offset _ _ => offset
  | .giveBack offset _ => offset
  | .jump offset _ _ => offset
  | .block b => b.opening
  | .choice offset _ _ _ _ => offset
  | .switch offset _ _ _ => offset
  | .typeSwitch offset _ _ _ => offset
  | .selection offset _ => offset
  | .loop offset _ _ _ _ => offset
  | .each offset _ _ _ _ _ => offset
  | .valueCase offset _ _ _ => offset
  | .channelCase offset _ _ _ => offset

end TensorLang.Emit
