import TensorLang.Text.Quoted

/-!
# Import paths

Which texts may be used as import paths. A path consists of elements between slashes; an element
holds letters, digits and a few marks, and is no name that some file systems keep for themselves.

* `ImportPath.problem?` is the first thing that is wrong with a path.
-/

namespace TensorLang.ImportPath

/-- What can be wrong with an import path. -/
inductive Problem where
  | malformedText
  | emptyText
  | leadingDash
  | doubleSlash
  | trailingSlash
  | emptyElement
  | dotsOnly (element : Bytes)
  | trailingDot
  | badChar (code : Nat)
  | reservedName (stem : Bytes)
  | trailingTilde
  deriving DecidableEq, Repr

/-- What is said about a problem. -/
def Problem.message : Problem → Bytes
  | malformedText => "invalid UTF-8".utf8
  | emptyText => "empty string".utf8
  | leadingDash => "leading dash".utf8
  | doubleSlash => "double slash".utf8
  | trailingSlash => "trailing slash".utf8
  | emptyElement => "empty path element".utf8
  | dotsOnly element => "invalid path element ".utf8 ++ Quoted.string element
  | trailingDot => "trailing dot in path element".utf8
  | badChar code => "invalid char ".utf8 ++ Quoted.code code
  | reservedName stem =>
    Quoted.string stem ++ " disallowed as path element component on Windows".utf8
  | trailingTilde => "trailing tilde and digits in path element".utf8

/-- May the code point stand in an element? -/
def isAllowed (code : Nat) : Bool :=
  (48 ≤ code && code ≤ 57) || (65 ≤ code && code ≤ 90) || (97 ≤ code && code ≤ 122) ||
    [43, 45, 46, 95, 126].contains code

/-- Names that cannot be files on every system, in any mixture of cases. -/
def deviceNames : List Bytes :=
  (["con", "prn", "aux", "nul"] ++
    (List.range 9).flatMap fun n => ["com" ++ toString (n + 1), "lpt" ++ toString (n + 1)]).map
    String.utf8

/-- Does the text end in a tilde and at least one digit, with something before the tilde or not? -/
def endsInTildeDigits (text : Bytes) : Bool :=
  let rest := text.reverse.dropWhile Decimal.isDigit
  rest.length < text.length && rest.head? == some 126

/-- The first thing that is wrong with an element. -/
def elementProblem? (element : Bytes) : Option Problem :=
  if element.isEmpty then some .emptyElement
  else if element.all (· == 46) then some (.dotsOnly element)
  else if element.getLast? == some 46 then some .trailingDot
  else
    match (Utf8.codes element).find? fun c => !isAllowed c with
    | some c => some (.badChar c)
    | none =>
      let stem := element.takeWhile (· != 46)
      if deviceNames.contains (Bytes.toLowerAscii stem) then some (.reservedName stem)
      else if endsInTildeDigits stem then some .trailingTilde
      else none

/-- The first thing that is wrong with a path. -/
def problem? (path : Bytes) : Option Problem :=
  if !Utf8.isValid path then some .malformedText
  else if path.isEmpty then some .emptyText
  else if path.head? == some 45 then some .leadingDash
  else if Bytes.contains path "//".utf8 then some .doubleSlash
  else if path.getLast? == some 47 then some .trailingSlash
  else (Bytes.splitOn 47 path).findSome? elementProblem?

/-- What is said about a bad path. -/
def message (path : Bytes) (problem : Problem) : Bytes :=
  "malformed import path ".utf8 ++ Quoted.string path ++ ": ".utf8 ++ problem.message

end TensorLang.ImportPath
