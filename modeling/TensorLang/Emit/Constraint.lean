import TensorLang.Emit.Remark
import TensorLang.Text.Blank
import TensorLang.Text.Letter

/-!
# Build constraints

A comment can say for which builds a file is meant: with tags, negation, conjunction and
disjunction. There are two notations for it, a new one on one line, and an old one in which lines
are joined by *and*, words on a line by *or*, and parts of a word by *and* again.

* `Constraint.ofLine?` reads a line in either notation.
* `Constraint.text` writes a constraint in the new notation.
* `Constraint.oldLines?` writes it in the old one.
-/

namespace TensorLang.Emit

/-- For which builds a file is meant. -/
inductive Constraint where
  | tag (name : Bytes)
  | not (c : Constraint)
  | both (c d : Constraint)
  | either (c d : Constraint)
  deriving DecidableEq, Inhabited, Repr

namespace Constraint

/-! ### Lines -/

/-- What follows a word on a line, if nothing does or a blank is in between. -/
def behind? (word line : Bytes) : Option Bytes := do
  let rest ← Bytes.dropPrefix? word line
  if rest.isEmpty || Text.trim rest != rest then some (Text.trim rest) else none

/-- The text of a line in the new notation. -/
def newText? (line : Bytes) : Option Bytes :=
  if Bytes.startsWith line "//go:build".utf8 then behind? "//go:build".utf8 (Text.trim line)
  else none

/-- The text of a line in the old notation. -/
def oldText? (line : Bytes) : Option Bytes := do
  let rest ← Bytes.dropPrefix? "//".utf8 line
  behind? "+build".utf8 (Text.trim rest)

/-! ### The new notation -/

/-- What a constraint in the new notation is made of. -/
inductive Symbol where
  | tag (name : Bytes)
  | sign (sign : String)
  deriving DecidableEq, Inhabited, Repr

/-- Can the code point be in a tag? -/
def isTagCode (code : Nat) : Bool :=
  Text.isLetter code || Text.isDigit code || code == 95 || code == 46

/-- Is the text a tag? -/
def isTag (text : Bytes) : Bool :=
  !text.isEmpty && (Utf8.split text).all fun piece => isTagCode piece.1

/-- Cuts a text into symbols. -/
def symbols? : (fuel : Nat) → Bytes → Option (List Symbol)
  | 0, _ => none
  | _ + 1, [] => some []
  | fuel + 1, b :: rest =>
    let sign (s : String) (rest : Bytes) := (symbols? fuel rest).map (Symbol.sign s :: ·)
    match b, rest with
    | 32, _ | 9, _ => symbols? fuel rest
    | 33, _ => sign "!" rest
    | 40, _ => sign "(" rest
    | 41, _ => sign ")" rest
    | 38, 38 :: rest => sign "&&" rest
    | 124, 124 :: rest => sign "||" rest
    | _, _ =>
      let name := ((Utf8.split (b :: rest)).takeWhile fun piece => isTagCode piece.1).flatMap
        Prod.snd
      if name.isEmpty then none
      else (symbols? fuel ((b :: rest).drop name.length)).map (Symbol.tag name :: ·)

mutual

/-- Reads a tag or a constraint in parentheses. -/
def readAtom : (fuel : Nat) → List Symbol → Option (Constraint × List Symbol)
  | _ + 1, .tag name :: rest => some (.tag name, rest)
  | fuel + 1, .sign "(" :: rest =>
    match readAny fuel rest with
    | some (c, .sign ")" :: rest) => some (c, rest)
    | _ => none
  | _, _ => none

/-- Reads a constraint that may be negated once. -/
def readNot : (fuel : Nat) → List Symbol → Option (Constraint × List Symbol)
  | fuel + 1, .sign "!" :: rest => (readAtom fuel rest).map fun r => (.not r.1, r.2)
  | fuel + 1, symbols => readAtom fuel symbols
  | 0, _ => none

/-- Reads what follows `c` in a conjunction. -/
def readAllFrom : (fuel : Nat) → (c : Constraint) → List Symbol →
    Option (Constraint × List Symbol)
  | fuel + 1, c, .sign "&&" :: rest => do
    let (d, rest) ← readNot fuel rest
    readAllFrom fuel (.both c d) rest
  | _, c, symbols => some (c, symbols)

/-- Reads what follows `c` in a disjunction. -/
def readAnyFrom : (fuel : Nat) → (c : Constraint) → List Symbol →
    Option (Constraint × List Symbol)
  | fuel + 1, c, .sign "||" :: rest => do
    let (d, rest) ← readNot fuel rest
    let (d, rest) ← readAllFrom fuel d rest
    readAnyFrom fuel (.either c d) rest
  | _, c, symbols => some (c, symbols)

/-- Reads a disjunction of conjunctions. -/
def readAny : (fuel : Nat) → List Symbol → Option (Constraint × List Symbol)
  | fuel + 1, symbols => do
    let (c, rest) ← readNot fuel symbols
    let (c, rest) ← readAllFrom fuel c rest
    readAnyFrom fuel c rest
  | 0, _ => none

end

/-- How many tags and parentheses a constraint in the new notation can have. -/
def maxAtoms : Nat := 1000

/-- Does the symbol begin a tag or a constraint in parentheses? -/
def Symbol.isAtom : Symbol → Bool
  | .tag _ => true
  | .sign s => s == "("

/-- Reads the new notation. -/
def ofNew? (text : Bytes) : Option Constraint := do
  let symbols ← symbols? (text.length + 1) text
  let (c, rest) ← readAny (4 * symbols.length + 4) symbols
  if rest.isEmpty && symbols.countP Symbol.isAtom ≤ maxAtoms then some c else none

/-! ### The old notation -/

/-- The tag that stands for what is no tag. -/
def ignored : Constraint := .tag "ignore".utf8

/-- Reads a part of a word. -/
def ofPart (part : Bytes) : Constraint :=
  match part with
  | [33] | 33 :: 33 :: _ => ignored
  | 33 :: rest => .not (if isTag rest then .tag rest else ignored)
  | _ => if isTag part then .tag part else ignored

/-- Joins constraints, the first ones first. -/
def join (op : Constraint → Constraint → Constraint) : List Constraint → Constraint
  | [] => ignored
  | c :: rest => rest.foldl op c

/-- How many times parts can be joined in the old notation. -/
def maxJoins : Nat := 100

/-- Reads the old notation. -/
def ofOld? (text : Bytes) : Option Constraint :=
  let words := (Text.fields text).map (Bytes.splitOn 44)
  if words.flatten.length ≤ maxJoins + 1 then
    some (join .either (words.map fun parts => join .both (parts.map ofPart)))
  else none

/-- Reads a line in either notation. -/
def ofLine? (line : Bytes) : Option Constraint :=
  match newText? line with
  | some text => ofNew? text
  | none => (oldText? line).bind ofOld?

/-! ### Writing -/

/-- Puts a text in parentheses. -/
def inParens (text : Bytes) : Bytes := 40 :: text ++ [41]

/-- Writes a constraint in the new notation. A conjunction in a disjunction has parentheses too. -/
def text : Constraint → Bytes
  | tag name => name
  | not c => 33 :: (match c with
    | both .. | either .. => inParens c.text
    | _ => c.text)
  | both c d =>
    let part (c : Constraint) (text : Bytes) := match c with
      | either .. => inParens text
      | _ => text
    part c c.text ++ " && ".utf8 ++ part d d.text
  | either c d =>
    let part (c : Constraint) (text : Bytes) := match c with
      | both .. => inParens text
      | _ => text
    part c c.text ++ " || ".utf8 ++ part d d.text

/-- Moves negation to the tags. `isNegated` tells whether the constraint is to be negated. -/
def sink (isNegated : Bool) : Constraint → Constraint
  | tag name => if isNegated then .not (.tag name) else .tag name
  | not c => sink (!isNegated) c
  | both c d =>
    (if isNegated then either else both) (sink isNegated c) (sink isNegated d)
  | either c d =>
    (if isNegated then both else either) (sink isNegated c) (sink isNegated d)

/-- The parts of a conjunction. -/
def conjuncts : Constraint → List Constraint
  | both c d => conjuncts c ++ conjuncts d
  | c => [c]

/-- The parts of a disjunction. -/
def disjuncts : Constraint → List Constraint
  | either c d => disjuncts c ++ disjuncts d
  | c => [c]

/-- Is the constraint a tag or the negation of one? -/
def isPlain : Constraint → Bool
  | tag _ | not _ => true
  | _ => false

/-- The constraint as a conjunction of disjunctions of conjunctions, if it is not more complex. If
nothing is joined by *or*, there is one conjunction only. -/
def layers? (c : Constraint) : Option (List (List (List Constraint))) :=
  let layers := (conjuncts (sink false c)).map fun d => (disjuncts d).map conjuncts
  if !layers.all fun d => d.all fun e => e.all isPlain then none
  else if layers.all fun d => d.length ≤ 1 then some [[layers.flatten.flatten]]
  else some layers

/-- Writes a constraint in the old notation, if this can be done. -/
def oldLines? (c : Constraint) : Option (List Bytes) :=
  (layers? c).map fun layers => layers.map fun words =>
    "// +build".utf8 ++ words.flatMap fun parts => 32 :: Bytes.joinWith [44] (parts.map text)

/-- The lines in the old notation; one line says if there are none. -/
def oldLines (c : Constraint) : List Bytes :=
  (oldLines? c).getD
    ["// +build error: expression too complex for // +build lines".utf8]

end Constraint

end TensorLang.Emit
