import TensorLang.Emit.Remark
import TensorLang.Text.Blank

/-!
# The text of comments

A comment that spans lines moves as a whole when its first line moves: what all its lines begin with
is taken away, and the page indents them anew.

* `RemarkText.straighten` takes away what the lines of a comment have in common.
* `RemarkText.plain` is what a group of comments says, without the marks of comments.
-/

namespace TensorLang.Emit.RemarkText

/-- Is there nothing but white space and control characters? -/
def isWhite (line : Bytes) : Bool := line.all (· ≤ 32)

/-- The white space and stars that two lines begin with. -/
def commonStart : Bytes → Bytes → Bytes
  | a :: as, b :: bs => if a == b && (a ≤ 32 || a == 42) then a :: commonStart as bs else []
  | _, _ => []

/-- Takes `tail` away from the end of a text that ends with it. -/
def dropTail (tail text : Bytes) : Bytes :=
  if Bytes.endsWith text tail then text.take (text.length - tail.length) else text

/-- Removes blanks of any kind from the end of a text. -/
def trimRight (text : Bytes) : Bytes :=
  ((Utf8.split text).reverse.dropWhile fun piece => Text.isBlank piece.1).reverse.flatMap Prod.snd

/-- What lines begin with, less the room that the opening of the comment takes on its first line. -/
def shorten (first start : Bytes) : Bytes :=
  let body := first.drop 2
  if isWhite body then
    let blanks := min 3 (start.reverse.takeWhile (· == 32)).length
    if blanks == 0 && start.getLast? == some 9 then start.dropLast
    else start.take (start.length - blanks)
  else
    let white := body.takeWhile (· ≤ 32)
    dropTail (if white.head? == some 9 then white else 32 :: 32 :: white) start

/-- What the lines behind the first one begin with. Blank lines do not count, and the last line
counts only if there is no other. -/
def startOf (inner : List Bytes) (last : Bytes) : Bytes :=
  match inner.filter fun line => !line.isEmpty with
  | [] => commonStart last last
  | line :: lines => lines.foldl commonStart (commonStart line line)

/-- Takes away what the lines of a comment begin with. A closing mark on a line of its own is
aligned with the opening one, or with a column of stars. -/
def straighten : List Bytes → List Bytes
  | [] => []
  | [line] => [line]
  | first :: rest =>
    let inner := rest.dropLast.map fun line => if isWhite line then [] else line
    let last := rest.getLast?.getD []
    let start := startOf inner last
    let hasStars := start.any (· == 42)
    let start := if hasStars then dropTail [32] (start.takeWhile (· != 42)) else shorten first start
    if isWhite (last.take (last.length - 2)) then
      first :: inner.map (·.drop start.length) ++ [if hasStars then " */".utf8 else "*/".utf8]
    else
      let start := commonStart start last
      first :: inner.map (·.drop start.length) ++ [last.drop start.length]

/-- Does a comment speak to a tool? Then a word and a colon follow its opening directly, or one of a
few words. The text begins behind the opening. -/
def isDirective (text : Bytes) : Bool :=
  let isPlain (b : UInt8) : Bool := (97 ≤ b && b ≤ 122) || (48 ≤ b && b ≤ 57)
  let word := text.takeWhile (· != 58)
  ["line ".utf8, "extern ".utf8, "export ".utf8].any (Bytes.startsWith text) ||
    (!word.isEmpty && word.all isPlain && (text[word.length + 1]?).any isPlain)

/-- The lines of a comment without its marks. -/
def linesOf (r : Remark) : List Bytes :=
  let body := r.text.drop 2
  if r.isLine then
    match body with
    | 32 :: rest => [rest]
    | _ => if isDirective body then [] else [body]
  else Bytes.splitLines (body.take (body.length - 2))

/-- Leaves out blank lines at the beginning and all but one of those that follow each other. -/
def squeeze (wasBlank : Bool) : List Bytes → List Bytes
  | [] => []
  | line :: rest =>
    if line.isEmpty then if wasBlank then squeeze true rest else [] :: squeeze true rest
    else line :: squeeze false rest

/-- What a group of comments says. -/
def plain (group : List Remark) : Bytes :=
  let isSpace (b : UInt8) : Bool := b == 32 || b == 9 || b == 10 || b == 13
  let lines := squeeze true ((group.flatMap linesOf).map (Bytes.trimRight isSpace))
  let lines := match lines.getLast? with
    | some [] | none => lines
    | some _ => lines ++ [[]]
  Bytes.joinWith [10] lines

end TensorLang.Emit.RemarkText
