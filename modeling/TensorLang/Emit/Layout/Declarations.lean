import TensorLang.Emit.Layout.Commands
import TensorLang.Text.Quoted

/-!
# The layout of declarations and files

* `Layout.declaration` lays out a declaration; names, types and values of several constants or
  variables stand in columns.
* `layouts` puts all layouts together.
* `SourceFile.pieces` lays out a file.
-/

namespace TensorLang.Emit

namespace Layout

/-! ### Items of declarations -/

/-- May the code point stand in a path? -/
def isPathCode (code : Nat) : Bool :=
  Text.isPrintable code && !Text.isBlank code && code != 0xFFFD &&
    !("!\"#$%&'()*,:;<=>?[\\]^\x7b|\x7d\x60".utf8.any fun b => b.toNat == code)

/-- An imported path in its usual spelling: in double quotes, without needless escapes. -/
def plainPath (path : Constant) : Constant :=
  match Literal.unquote? path.text with
  | some text =>
    if !text.isEmpty && (Utf8.codes text).all isPathCode then
      { path with text := Quoted.string text }
    else path
  | none => path

/-- Writes the values behind a sign of equality, if there are some. -/
def initialValues (l : Layouts) (separator : Space) (values : List Term) : Layout Unit := do
  if !values.isEmpty then
    space separator
    sign "="
    space .blank
    terms l none values 1 {} none

/-- Writes constants or variables in columns. `keepsType` tells that there is a column for the type
even if it is empty. -/
def alignedValues (l : Layouts) (keepsType : Bool) : Spec → Layout Unit
  | .values valueNames type values hasTrail => do
    names l valueNames true
    if type.isSome || keepsType then space .tab
    match type with
    | some type => l.expr type
    | none => pure ()
    initialValues l .tab values
    if hasTrail then
      let used := (if type.isSome || keepsType then 1 else 0) + (if values.isEmpty then 0 else 1)
      for _ in [0:3 - used] do space .tab
  | _ => pure ()

/-- Writes an item of a declaration of `count` items. -/
def spec (l : Layouts) (count : Nat) (isAlone : Bool) : Spec → Layout Unit
  | .importing n path _ stop => do
    match n with
    | some n =>
      l.expr (.name n)
      space .blank
    | none => pure ()
    l.expr (.constant (plainPath path))
    goTo? stop
  | .values valueNames type values _ => do
    names l valueNames (!isAlone)
    match type with
    | some type =>
      space .blank
      l.expr type
    | none => pure ()
    initialValues l .blank values
  | .type n params mark type => do
    l.expr (.name n)
    match params with
    | some f => parameters l f .typeTypes
    | none => pure ()
    space (if count == 1 then .blank else .tab)
    if mark.isSome then
      sign "="
      space .blank
    l.expr type

/-! ### Groups -/

/-- Has the item values? -/
def hasValues : Spec → Bool
  | .values _ _ values _ => !values.isEmpty
  | _ => false

/-- Has the item a type? -/
def hasType : Spec → Bool
  | .values _ type _ _ => type.isSome
  | _ => false

/-- For each item, whether there is a column for its type: there is one for items with values that
follow each other, if one of them has a type. -/
def typeColumns (specs : List Spec) : List Bool :=
  (specs.splitBy fun a b => hasValues a == hasValues b).flatMap fun run =>
    let keeps := run.all hasValues && run.any hasType
    run.map fun _ => keeps

/-- Writes the items of a declaration on lines of their own. -/
def specs (l : Layouts) (word : String) (list : List Spec) : Layout Unit :=
  if 1 < list.length && (word == "const" || word == "var") then
    onLines (fun s => s.1.start) (fun s => alignedValues l s.2 s.1) none
      (list.zip (typeColumns list))
  else onLines Spec.start (spec l list.length false) none list

/-- Writes a declaration of one item, or several in parentheses. -/
def group (l : Layouts) (offset : Nat) (word : String) (parens : Option (Nat × Nat))
    (list : List Spec) : Layout Unit := do
  signAt offset word
  space .blank
  match parens with
  | some (opening, closing) =>
    signAt opening "("
    if !list.isEmpty then
      space .indent
      space .section
      specs l word list
      space .unindent
      space .section
    signAt closing ")"
  | none =>
    for s in list.take 1 do spec l 1 true s

/-- Writes a function or a method. -/
def functionDeclaration (l : Layouts) (receiver : Option Fields) (n : Name) (s : Signature)
    (body : Option Block) : Layout Unit := do
  signAt s.start "func"
  space .blank
  let column : Int := (← get).column - 5
  match receiver with
  | some f =>
    parameters l f .values
    space .blank
  | none => pure ()
  l.expr (.name n)
  signature l s
  match body with
  | some body => functionBody l (← distanceFrom s.start column) .tab body
  | none => pure ()

/-- Writes a declaration. -/
def declaration (l : Layouts) : Declaration → Layout Unit
  | .bad start _ => do
    goTo start
    put .word "BadDecl".utf8 true
  | .group _ offset word parens list => group l offset word parens list
  | .function _ receiver n s body => functionDeclaration l receiver n s body

/-! ### Files -/

/-- The keyword of a declaration. -/
def wordOf : Declaration → String
  | .bad .. => ""
  | .group _ _ word _ _ => word
  | .function .. => "func"

/-- Has the declaration comments right above it? -/
def hasLead : Declaration → Bool
  | .bad .. => false
  | .group hasLead _ _ _ _ => hasLead
  | .function hasLead _ _ _ _ => hasLead

/-- Where a function ends. -/
def functionStop : Declaration → Option Nat
  | .function _ _ _ _ (some body) => some (body.closing + 1)
  | .function _ _ _ s none => some s.stop
  | _ => none

/-- Writes declarations. A blank line goes in front of one with comments above it and where the
keyword changes; `word` is the keyword of the declaration in front. -/
def declarations (l : Layouts) : (word : String) → List Declaration → Layout Unit
  | _, [] => pure ()
  | word, d :: rest => do
    let p ← get
    let start := p.lines.lineOf d.start
    let spans := (functionStop d).any fun stop => start < p.lines.lineOf stop
    let _ ← breakTo start (if word != wordOf d || hasLead d then 2 else 1) .ignore spans
    l.declaration d
    declarations l (wordOf d) rest

end Layout

/-- The layouts with `level` levels below them. -/
def layouts : (level : Nat) → Layouts
  | 0 =>
    { term := fun _ _ _ => pure ()
      command := fun _ _ => pure ()
      declaration := fun _ => pure () }
  | level + 1 =>
    { term := fun least depth x p => Layout.term (layouts level) least depth x p
      command := fun c closes p => Layout.command (layouts level) c closes p
      declaration := fun d p => Layout.declaration (layouts level) d p }

namespace SourceFile

/-- Lays out a file. -/
def layout (l : Layouts) (f : SourceFile) : Layout Unit := do
  Layout.signAt f.package "package"
  Layout.space .blank
  l.expr (.name f.name)
  Layout.declarations l "" f.declarations
  Layout.space .line
  modify fun p => { p with endsStatement := false }
  let _ ← Layout.flush Layout.finish .finish

/-- The file in pieces. No tree is deeper than a few levels for each byte of its text. -/
def pieces (f : SourceFile) : List Columns.Piece :=
  let l := layouts (4 * f.lines.size + 16)
  (StateT.run (f.layout l) ({ lines := f.lines, remarks := f.remarks } : Page)).2.finished

/-- The text of the file in its layout. -/
def text (f : SourceFile) : Bytes := Columns.render f.pieces

end SourceFile

end TensorLang.Emit
