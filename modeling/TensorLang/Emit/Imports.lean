import TensorLang.Emit.Grammar
import TensorLang.Emit.Layout.Declarations

/-!
# The order of imports

Imports on lines that follow each other are sorted by path, name and comment, and of equal ones only
the last is kept, together with all that have comments. The imports take the places of those that
stood there before, in order, and their comments go with them.

* `SourceFile.sortImports` sorts the imports of a file.
* `SourceFile.tidy` gives a file its final layout.
-/

namespace TensorLang.Emit

/-- The lines and comments of a file. -/
structure Setting where
  lines : Lines
  remarks : List (List Remark)

namespace Imports

/-- The path that is imported. -/
def pathOf : Spec → Bytes
  | .importing _ path _ _ => (Literal.unquote? path.text).getD []
  | _ => []

/-- The name under which it is imported, possibly empty. -/
def nameOf : Spec → Bytes
  | .importing (some n) _ _ _ => n.text
  | _ => []

/-- The comment behind an import. -/
def trailOf : Spec → List Remark
  | .importing _ _ trail _ => trail
  | _ => []

/-- Where an import ends. -/
def stopOf : Spec → Nat
  | .importing _ path _ stop => stop.getD path.stop
  | _ => 0

/-- The order of imports. -/
def le (a b : Spec) : Bool :=
  let keys (s : Spec) : List Bytes := [pathOf s, nameOf s, RemarkText.plain (trailOf s)]
  match ((keys a).zip (keys b)).find? fun pair => pair.1 != pair.2 with
  | some (a, b) => Bytes.lt a b
  | none => true

/-- Can an import go away in front of another one? -/
def isCovered (a b : Spec) : Bool :=
  pathOf a == pathOf b && nameOf a == nameOf b && (trailOf a).isEmpty

/-- Where a group of comments begins. -/
def groupStart (group : List Remark) : Nat := (group.head?.map Remark.offset).getD 0

/-- Where a group of comments ends. -/
def groupStop (group : List Remark) : Nat := (group.getLast?.map Remark.stop).getD 0

/-- The import to which a comment belongs, counted from zero, and whether the comment stands in
front of it. `i` is the import that the comment before belongs to, and `starts` are the beginnings
of the imports. -/
def ownerOf (lines : Lines) (starts : List Nat) (i : Nat) (group : List Remark) : Nat × Bool :=
  let start := groupStart group
  let i := i + ((starts.drop (i + 1)).takeWhile (· ≤ start)).length
  let own := starts.getD i 0
  if i == 0 && start < own then (i, true)
  else if i + 1 < starts.length && lines.lineOf own + 1 == lines.lineOf start then (i + 1, true)
  else (i, false)

/-- The owners of comments in order. -/
def ownersFrom (lines : Lines) (starts : List Nat) : (i : Nat) → List (List Remark) →
    List (List Remark × Nat × Bool)
  | _, [] => []
  | i, group :: rest =>
    let owner := ownerOf lines starts i group
    (group, owner) :: ownersFrom lines starts owner.1 rest

/-- Leaves out imports that are covered by the next one; the lines on which they stood are joined
with the next ones. -/
def dropCovered (lines : Lines) : List (Spec × Nat) → List (Spec × Nat) × Lines
  | a :: b :: rest =>
    if isCovered a.1 b.1 then dropCovered (lines.merge (lines.lineOf a.1.start)) (b :: rest)
    else
      let (kept, lines) := dropCovered lines (b :: rest)
      (a :: kept, lines)
  | list => (list, lines)

/-- Moves an import to a place. -/
def moveTo (start stop : Nat) : Spec → Spec
  | .importing n path trail _ =>
    .importing (n.map fun n => { n with offset := start }) { path with offset := start } trail
      (some stop)
  | s => s

/-- Moves a group of comments to the import that it belongs to, if that is kept. -/
def moveGroup (kept : List (Spec × Nat)) (places : List (Nat × Nat))
    (entry : List Remark × Nat × Bool) : List Remark :=
  let (group, owner, isFront) := entry
  match (kept.zip places).find? fun k => k.1.2 == owner with
  | some (_, start, stop) =>
    group.map fun r => { r with offset := if isFront then start - 1 else stop }
  | none => group

/-- Sorts imports that follow each other. -/
def sortRun (s : Setting) (specs : List Spec) : List Spec × Setting :=
  match specs.head?, specs.getLast? with
  | some first, some last =>
    if specs.length ≤ 1 then (specs, s)
    else
      let places := specs.map fun spec => (spec.start, stopOf spec)
      let beginning := s.lines.startOf (s.lines.lineOf first.start)
      let endLine := s.lines.lineOf (stopOf last)
      let ending := if endLine == s.lines.count then stopOf last else s.lines.startOf (endLine + 1)
      let before := s.remarks.takeWhile fun g => groupStart g < beginning && groupStop g < ending
      let inside := (s.remarks.drop before.length).takeWhile fun g => groupStop g < ending
      let behind := s.remarks.drop (before.length + inside.length)
      let owned := ownersFrom s.lines (places.map Prod.fst) 0 inside
      let (kept, lines) := dropCovered s.lines (specs.zipIdx.mergeSort fun a b => le a.1 b.1)
      let groups := (owned.map (moveGroup kept places)).mergeSort fun a b =>
        groupStart a ≤ groupStart b
      ((kept.zip places).map fun k => moveTo k.2.1 k.2.2 k.1.1,
        ⟨lines, before ++ groups ++ behind⟩)
  | _, _ => (specs, s)

/-- Sorts the imports of a declaration, those in front of each blank line for themselves. `run` are
those since the last blank line. -/
def sortRuns (s : Setting) (run : List Spec) : List Spec → List Spec × Setting
  | [] => sortRun s run
  | spec :: rest =>
    let begins := run.getLast?.any fun last =>
      s.lines.lineOf (stopOf last) + 1 < s.lines.lineOf spec.start
    if begins then
      let (sorted, s) := sortRun s run
      let (others, s) := sortRuns s [spec] rest
      (sorted ++ others, s)
    else sortRuns s (run ++ [spec]) rest

/-- Joins lines between the last import and the closing parenthesis until none is left in
between. -/
def joinLines (last : Nat) : (line : Nat) → Lines → Lines
  | 0, lines => lines
  | line + 1, lines =>
    if last < line then joinLines last line (lines.merge line) else lines

/-- Sorts the imports at the beginning of a list of declarations. -/
def sortAll (s : Setting) : List Declaration → List Declaration × Setting
  | .group hasLead offset "import" (some (opening, closing)) specs :: rest =>
    let (specs, s) := sortRuns s [] specs
    let lines := match specs.getLast? with
      | some last => joinLines (s.lines.lineOf last.start) (s.lines.lineOf closing) s.lines
      | none => s.lines
    let (rest, s) := sortAll { s with lines } rest
    (.group hasLead offset "import" (some (opening, closing)) specs :: rest, s)
  | .group hasLead offset "import" none specs :: rest =>
    let (rest, s) := sortAll s rest
    (.group hasLead offset "import" none specs :: rest, s)
  | declarations => (declarations, s)

end Imports

namespace SourceFile

/-- Sorts the imports of a file. -/
def sortImports (f : SourceFile) : SourceFile :=
  let (declarations, s) := Imports.sortAll ⟨f.lines, f.remarks⟩ f.declarations
  { f with declarations, lines := s.lines, remarks := s.remarks }

/-- The file in its final layout. Imports are sorted by the lines of a first layout, which is read
again for that; a constraint that moves to the top can take the end of its line along, and then the
first layout does not fit the grammar. -/
def tidy (f : SourceFile) : Except Misfit Bytes :=
  (read f.text).map fun g => g.sortImports.text

end SourceFile

end TensorLang.Emit
