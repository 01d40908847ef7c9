import TensorLang.Emit.Rule.Commands

/-!
# Reading emitted code

Puts the rules of the grammar together and reads texts with them.

* `SourceFile.read` reads a file; if the text does not fit, it gives the first fault.
* `Term.fits` tells whether a text is one expression.
-/

namespace TensorLang.Emit

/-- The rules with `level` levels below them; lists have at most `size` items. -/
def rules (size : Nat) : (level : Nat) → Rules
  | 0 =>
    { size
      operation := fun _ _ => pure default
      unary := pure default
      type? := pure none
      literalValue := fun _ => pure default
      command := pure default
      choice := pure default }
  | level + 1 =>
    { size
      operation := fun x least c => Rule.operation (rules size level) x least c
      unary := fun c => Rule.unary (rules size level) c
      type? := fun c => Rule.type? (rules size level) c
      literalValue := fun type c => Rule.literalValue (rules size level) type c
      command := fun c => Rule.command (rules size level) c
      choice := fun c => Rule.choice (rules size level) c }

/-- Reads tokens with a rule; gives its result and the offsets of faults. No list is longer than the
tokens, and no tree is deeper than a few levels for each of them. -/
def Rule.readAll {α : Type} (rule : Rules → Rule α) (steps : List Remark.Step) : α × List Nat :=
  let count := steps.length
  let (x, c) := StateT.run (rule (rules (12 * count + 12) (16 * count + 64)))
    ({ rest := steps } : Cursor)
  (x, c.faults)

/-- Why a text does not fit the grammar. -/
structure Misfit where
  /-- The offset of the first fault. -/
  offset : Nat
  /-- What is said about it. -/
  reason : Bytes
  deriving DecidableEq, Repr

/-- What is said about any fault. The grammar decides where texts fail to fit; the words for it are
not modelled, and nothing depends on them. -/
def Misfit.words : Bytes := "<go>".utf8

/-- Reads a file, or gives the first fault. -/
def SourceFile.read (text : Bytes) : Except Misfit SourceFile :=
  let scan := Scan.ofText text
  let (steps, remarks) := Remark.attach scan
  let ((package, name, declarations), faults) := Rule.readAll Rule.sourceFile steps
  match scan.faults ++ faults with
  | [] => .ok ⟨package, name, declarations, remarks, scan.places.lines⟩
  | fault :: faults => .error ⟨scan.places.first fault faults, Misfit.words⟩

/-- An expression and nothing behind it but the end of its line. -/
def Rule.onlyTerm (r : Rules) : Rule Term := do
  let x ← r.value
  if (← token).isLineEnd then next
  if !(← seesKind .finish) then faultHere
  pure x

/-- Is the text one expression? -/
def Term.fits (text : Bytes) : Bool :=
  let scan := Scan.ofText text
  let (steps, _) := Remark.attach scan
  (scan.faults ++ (Rule.readAll Rule.onlyTerm steps).2).isEmpty

end TensorLang.Emit
