import TensorLang.Emit.Fragment
import TensorLang.Emit.ImportPath
import TensorLang.Emit.Imports

/-!
# Emitted files

Fragments become the body of a `main` function. The file is checked against the grammar before it is
laid out, because names and targets come from the outside and may not fit; a failure points at the
fragment where the check stopped.

* `Target.wrap` is the text around a body.
* `Target.print` checks and lays out.
* `Program.compile` emits a program from its tree.
* `Target.problem?` tells what is wrong with a target before anything is emitted.
-/

namespace TensorLang

/-- Emitted text that does not fit the grammar, before it is laid out or afterwards. -/
structure MalformedOutput where
  /-- The span of the fragment where the check stopped. -/
  span : Span
  /-- The text before it is laid out. -/
  text : Bytes
  /-- What is said about the failure. -/
  message : Bytes
  deriving DecidableEq, Repr

/-- The diagnostic for malformed output. -/
def MalformedOutput.diagnostic (m : MalformedOutput) : Diagnostic :=
  (Diagnostic.ofError Code.malformedOutput m.span m.message).withLabel "generated from here".utf8

namespace Target

/-- The comment on top of every emitted file. -/
def banner : Bytes := "// Code generated by tensa. DO NOT EDIT.".utf8

/-- Do the fragments mention the qualifier of the constructors? -/
def isUsedBy (t : Target) (fs : List Fragment) : Bool := fs.any fun f => f.text == t.packageAlias

/-- The text of a file in front of its body. -/
def opening (t : Target) (usesPackage : Bool) : Bytes :=
  banner ++ "\n\npackage main\n\nimport (".utf8 ++
    (if usesPackage then "\n\t".utf8 ++ t.packageAlias ++ " \"".utf8 ++ t.package ++ "\"".utf8
      else []) ++
    (if t.backendPackage.isEmpty then []
      else "\n\t\"".utf8 ++ t.backendPackage ++ "\"".utf8) ++
    "\n)\n\nfunc main() \x7b\n\t".utf8 ++ t.deviceVar ++ " := ".utf8 ++ t.device ++ "\n\t".utf8

/-- The text of a file behind its body. -/
def closing (t : Target) : Bytes := "\n\t_ = ".utf8 ++ t.deviceVar ++ "\n\x7d\n".utf8

/-- What stands for the body until it is filled in. -/
def bodyMark : Bytes := "/*tensa:body*/".utf8

/-- The file without its body. -/
def frame (t : Target) (fs : List Fragment) : Bytes :=
  t.opening (t.isUsedBy fs) ++ bodyMark ++ t.closing

/-- Where the body begins. A target can have the mark too; the body takes the place of the first
one. -/
def bodyStart (t : Target) (fs : List Fragment) : Nat :=
  (Bytes.find? bodyMark (t.frame fs)).getD 0

/-- The file around a body. -/
def wrap (t : Target) (fs : List Fragment) : Bytes :=
  let frame := t.frame fs
  let start := t.bodyStart fs
  frame.take start ++ Fragment.layout fs ++ frame.drop (start + bodyMark.length)

/-- What is said about a text that is not a file. -/
def unread (misfit : Emit.Misfit) : Bytes :=
  "generated code is not valid Go: ".utf8 ++ misfit.reason

/-- What is said about a file that cannot be laid out. -/
def untidy (misfit : Emit.Misfit) : Bytes :=
  "cannot format generated code: ".utf8 ++ misfit.reason

/-- The file for a list of fragments, in its final layout. A text that is not a file is blamed on
the fragment where the first fault is, and a file that cannot be laid out on the first fragment. -/
def print (t : Target) (fs : List Fragment) : Except MalformedOutput Bytes :=
  let text := t.wrap fs
  match Emit.SourceFile.read text with
  | .ok file =>
    file.tidy.mapError fun misfit => ⟨Fragment.lookup fs 0, text, untidy misfit⟩
  | .error misfit =>
    let offset : Int := (misfit.offset : Int) - (t.bodyStart fs : Int)
    .error ⟨Fragment.lookup fs (.ofInt offset), text, unread misfit⟩

/-- What can be wrong with a target. -/
inductive Problem where
  | package (path : Bytes) (problem : ImportPath.Problem)
  | backendPackage (path : Bytes) (problem : ImportPath.Problem)
  /-- A text that should be a name; `role` says of what. -/
  | notAName (role : String) (text : Bytes)
  | device (text reason : Bytes)
  /-- An operator without a method name. -/
  | noMethod (op : Bytes)
  | unknownStyle (text : Bytes)
  deriving DecidableEq, Repr

/-- What is said about a problem. -/
def Problem.message : Problem → Bytes
  | package path problem => "target package: ".utf8 ++ ImportPath.message path problem
  | backendPackage path problem => "backend package: ".utf8 ++ ImportPath.message path problem
  | notAName role text => role.utf8 ++ [32] ++ Quoted.string text ++ " is not a Go identifier".utf8
  | device text reason => "device expression ".utf8 ++ Quoted.string text ++ ": ".utf8 ++ reason
  | noMethod op => "no method name for operator ".utf8 ++ op
  | unknownStyle text =>
    "unknown operator style ".utf8 ++ Quoted.string text ++ " (expected infix or methods)".utf8

/-- The names of a target and what they are for. -/
def names (t : Target) : List (String × Bytes) :=
  [("alias", t.packageAlias), ("device variable", t.deviceVar), ("zeros constructor", t.zeros),
    ("ones constructor", t.ones), ("full constructor", t.full), ("arange constructor", t.arange),
    ("stepped arange constructor", t.arangeStep)]

/-- The first thing that is wrong with the operators of a target. -/
def operatorProblem? (t : Target) : Option Problem :=
  if t.operators == infixStyle then none
  else if t.operators == methodStyle then
    (["+".utf8, "-".utf8, "*".utf8].find? fun op => !Emit.Token.isIdentifier (t.method op)).map
      .noMethod
  else some (.unknownStyle t.operators)

/-- The first thing that is wrong with a target. -/
def problem? (t : Target) : Option Problem :=
  ((ImportPath.problem? t.package).map (.package t.package))
  |>.or (if t.backendPackage.isEmpty then none
    else (ImportPath.problem? t.backendPackage).map (.backendPackage t.backendPackage))
  |>.or ((t.names.find? fun n => !Emit.Token.isIdentifier n.2).map fun n => .notAName n.1 n.2)
  |>.or (if Emit.Term.fits t.device then none
    else some (.device t.device Emit.Misfit.words))
  |>.or t.operatorProblem?

end Target

/-- Why a program has no output. -/
inductive CompileError where
  | emit (e : EmitError)
  | print (m : MalformedOutput)
  deriving DecidableEq, Repr

/-- The file that a program stands for. -/
def Program.compile (p : Program) (t : Target) : Except CompileError Bytes := do
  let fs ← (p.fragments t).mapError .emit
  (t.print fs).mapError .print

end TensorLang
