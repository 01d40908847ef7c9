import TensorLang.Emit.RemarkText
import TensorLang.Text.Letter

/-!
# Prose in comments

A comment right above a declaration is prose: paragraphs, headings, code, lists and the targets of
links. It is written in one way only, with a blank line between its parts, code behind a tab, and
the items of lists indented by the width of their marks.

* `Prose.ofLines` reads prose.
* `Prose.text` writes it.
* `Prose.tidy` gives a group of comments the form in which prose is written.
-/

namespace TensorLang.Emit

namespace Prose

/-- An item of a list. -/
structure Item where
  /-- The number of the item, empty in lists without numbers. -/
  number : Bytes
  paragraphs : List (List Bytes) := []
  deriving DecidableEq, Inhabited, Repr

/-- A part of prose. -/
inductive Block where
  | paragraph (lines : List Bytes)
  | heading (text : Bytes)
  | code (lines : List Bytes)
  /-- A list. `isApart` if a blank line is in front of it, `isLoose` if there is one inside it. -/
  | list (isApart isLoose : Bool) (items : List Item)
  deriving DecidableEq, Inhabited, Repr

/-- A name and the place that it links to. -/
structure Link where
  name : Bytes
  target : Bytes
  deriving DecidableEq, Inhabited, Repr

end Prose

/-- Prose: its parts, and the links that it gives targets for. -/
structure Prose where
  blocks : List Prose.Block := []
  links : List Prose.Link := []
  deriving DecidableEq, Inhabited, Repr

namespace Prose

/-! ### Lines -/

/-- Is the byte a blank or a tab? -/
def isGap (b : UInt8) : Bool := b == 32 || b == 9

/-- Does a line begin with a blank or a tab? -/
def isIndented (line : Bytes) : Bool := line.head?.any isGap

/-- What two lines have in common at the beginning. -/
def sharedStart : Bytes → Bytes → Bytes
  | a :: as, b :: bs => if a == b then a :: sharedStart as bs else []
  | _, _ => []

/-- Removes empty lines at both ends. -/
def trimLines (lines : List Bytes) : List Bytes :=
  ((lines.dropWhile List.isEmpty).reverse.dropWhile List.isEmpty).reverse

/-- Takes away the indentation that all lines have in common, and empty lines at both ends. -/
def outdent (lines : List Bytes) : List Bytes :=
  match (trimLines lines).filter fun line => !line.isEmpty with
  | [] => []
  | first :: rest =>
    let gap := rest.foldl (fun gap line => sharedStart gap (line.takeWhile isGap))
      (first.takeWhile isGap)
    trimLines ((trimLines lines).map fun line =>
      let line := if Bytes.startsWith line gap then line.drop gap.length else line
      if (Text.trim line).isEmpty then [] else line)

/-! ### Lists -/

/-- The number, possibly empty, and the text of the first line of an item. -/
def itemStart? (line : Bytes) : Option (Bytes × Bytes) :=
  let line := Text.trim line
  let digits := line.takeWhile fun b => 48 ≤ b && b ≤ 57
  let start : Option (Bytes × Bytes) := match digits with
    | [] => ["•".utf8, "*".utf8, "+".utf8, "-".utf8].findSome? fun mark =>
        (Bytes.dropPrefix? mark line).map fun rest => ([], rest)
    | _ :: _ => match line.drop digits.length with
      | 46 :: rest | 41 :: rest => some (digits, rest)
      | _ => none
  start.filter fun s => isIndented s.2 && !(Text.trim s.2).isEmpty

/-- Can the line be the first one of an item? -/
def isItem (line : Bytes) : Bool := (itemStart? line).isSome

/-- Adds a paragraph to the last item. -/
def closeParagraph (items : List Item) (lines : List Bytes) : List Item :=
  match items.getLast? with
  | some item => items.dropLast ++ [{ item with paragraphs := item.paragraphs ++ [lines] }]
  | none => items

/-- Reads items. `numbered` tells whether they have numbers, and `lines` are those of the paragraph
that is read. -/
def itemsFrom (numbered : Bool) (items : List Item) (lines : List Bytes) :
    List Bytes → List Item
  | [] => closeParagraph items lines
  | line :: rest =>
    match (itemStart? line).filter fun s => !s.1.isEmpty == numbered with
    | some (number, text) =>
      itemsFrom numbered (closeParagraph items lines ++ [{ number }]) [Text.trim text] rest
    | none =>
      let text := Text.trim line
      if text.isEmpty then itemsFrom numbered (closeParagraph items lines) [] rest
      else itemsFrom numbered items (lines ++ [text]) rest

/-! ### Headings and links -/

/-- Is the line marked as a heading? -/
def isHeading : Bytes → Bool
  | 35 :: rest => isIndented rest && !(Text.trim rest).isEmpty
  | _ => false

/-- Does `allowed` hold for the rest behind each byte `mark` of a text? -/
def allAfter (mark : UInt8) (allowed : Bytes → Bool) : Bytes → Bool
  | [] => true
  | b :: rest => (b != mark || allowed rest) && allAfter mark allowed rest

/-- Does a line between empty ones read like a heading? It is short of punctuation, begins with a
capital letter and ends with a letter or a digit. -/
def looksLikeHeading (line : Bytes) : Bool :=
  let line := Text.trim line
  let codes := (Utf8.split line).map Prod.fst
  let banned := (Utf8.split ";:!?+*/=[]\x7b\x7d_^°&§~%#@<\">\\".utf8).map Prod.fst
  (codes.head?.any fun c => Text.isLetter c && Text.isCapital c) &&
    (codes.getLast?.any fun c => Text.isLetter c || Text.isDigit c) &&
    !(codes.any fun c => banned.contains c) &&
    allAfter 39 (fun rest => rest == "s".utf8 || Bytes.startsWith rest "s ".utf8) line &&
    allAfter 46 (fun rest => rest.head?.any (· != 32)) line

/-- What the target of a link can begin with. -/
def schemes : List Bytes :=
  ["file", "ftp", "gopher", "http", "https", "mailto", "nntp"].map String.utf8

/-- Reads a line that gives the target of a link. -/
def link? (line : Bytes) : Option Link := do
  let rest ← Bytes.dropPrefix? "[".utf8 line
  let size ← Bytes.find? "]:".utf8 rest
  let tail := rest.drop (size + 2)
  let target := Text.trim (tail.drop 1)
  let scheme := target.take (← Bytes.find? "://".utf8 target)
  if isIndented tail && 2 ≤ tail.length && schemes.contains scheme then
    some ⟨rest.take size, target⟩
  else none

/-- The links that lines give targets for, if all lines do. -/
def links? (lines : List Bytes) : Option (List Link) := lines.mapM link?

/-! ### Stretches of lines -/

/-- Lines that belong together. -/
structure Stretch where
  /-- Is there an empty line in front of them? -/
  isApart : Bool
  /-- Are they indented, or meant to be? -/
  isInner : Bool
  /-- Is there an empty line behind them, and no indentation behind that? -/
  isAbove : Bool
  lines : List Bytes
  deriving DecidableEq, Inhabited, Repr

/-- The lines that continue indented ones. The next `forced` lines count as indented. Where
`takesItems`, so do lines that begin items, up to the first empty line. -/
def innerLines (forced : Nat) (takesItems : Bool) : List Bytes → List Bytes
  | [] => []
  | line :: rest =>
    if line.isEmpty then line :: innerLines (forced - 1) false rest
    else if 0 < forced || isIndented line || (takesItems && isItem line) then
      line :: innerLines (forced - 1) takesItems rest
    else []

/-- The number of lines in the first stretch, the first of which is indented. A closing brace right
behind them belongs to them. -/
def innerSize (forced : Nat) : List Bytes → Nat
  | [] => 0
  | first :: rest =>
    let lines := first :: innerLines (forced - 1) (isItem first && 0 < forced) rest
    let size := (lines.reverse.dropWhile List.isEmpty).length
    if ((first :: rest).drop size).head?.any fun line => line.head? == some 125 then size + 1
    else size

/-- The number of lines in the first stretch, the first of which is not indented, and the number of
lines that count as indented. Items, and a line that opens a brace or goes on, belong to indented
lines right behind them. -/
def outerSize (lines : List Bytes) : Nat × Nat :=
  let outer := lines.takeWhile fun line => !line.isEmpty && !isIndented line
  let next := (lines.drop outer.length).head?.getD []
  let last := outer.getLast?.getD []
  if next.isEmpty || isItem next then (outer.length, 0)
  else if isItem last then ((outer.reverse.dropWhile isItem).length, outer.length)
  else if last.getLast? == some 123 || last.getLast? == some 92 then
    (outer.length - 1, outer.length)
  else (outer.length, 0)

/-- Cuts lines into stretches. The first `forced` lines count as indented. -/
def stretches : (fuel forced : Nat) → List Bytes → List Stretch
  | 0, _, _ => []
  | fuel + 1, forced, lines =>
    let rest := lines.dropWhile List.isEmpty
    let gap := lines.length - rest.length
    let forced := forced - gap
    match rest with
    | [] => []
    | first :: _ =>
      let (outer, forced) :=
        if 0 < forced || isIndented first then (0, forced) else outerSize rest
      let size := if outer == 0 then innerSize forced rest else outer
      let behind := rest.drop size
      let isAbove := behind.head? == some [] &&
        (behind.tail.head?.any fun line => !isIndented line)
      ⟨0 < gap, outer == 0, isAbove, rest.take size⟩ :: stretches fuel (forced - size) behind

/-- Reads a stretch. One that only gives targets of links is no block. -/
def Stretch.read (s : Stretch) : List Block × List Link :=
  if s.isInner then
    match s.lines.head?.bind itemStart? with
    | some (number, _) =>
      let items := itemsFrom (!number.isEmpty) [] [] s.lines
      let isLoose := s.lines.any fun line => (Text.trim line).isEmpty
      let prose (item : Item) := item.paragraphs.filter fun lines => (links? lines).isNone
      ([.list s.isApart isLoose (items.map fun item => { item with paragraphs := prose item })],
        items.flatMap fun item => (item.paragraphs.filterMap links?).flatten)
    | none => ([.code (outdent s.lines)], [])
  else
    match s.lines, links? s.lines with
    | [line], links =>
      if isHeading line then ([.heading (Text.trim (line.drop 1))], [])
      else if s.isApart && s.isAbove && looksLikeHeading line then
        ([.heading (Text.trim line)], [])
      else match links with
        | some links => ([], links)
        | none => ([.paragraph [line]], [])
    | _, some links => ([], links)
    | lines, none => ([.paragraph lines], [])

/-- Reads prose. -/
def ofLines (lines : List Bytes) : Prose :=
  let lines := outdent lines
  let parts := (stretches (lines.length + 1) 0 lines).map Stretch.read
  ⟨parts.flatMap Prod.fst, parts.flatMap Prod.snd⟩

/-! ### Writing -/

/-- Replaces pairs of quotes by typographic ones; three opening quotes or more are left alone. `run`
is the number of opening quotes in front. -/
def curlQuotes : (run : Nat) → Bytes → Bytes
  | _, [] => []
  | run, 96 :: 96 :: rest =>
    if 0 < run || rest.head? == some 96 then 96 :: 96 :: curlQuotes (run + 2) rest
    else "“".utf8 ++ curlQuotes 0 rest
  | _, 39 :: 39 :: rest => "”".utf8 ++ curlQuotes 0 rest
  | run, b :: rest => b :: curlQuotes (if b == 96 then run + 1 else 0) rest

/-- Writes a paragraph, the lines behind the first one behind `indent`. -/
def paragraphText (indent : Bytes) (lines : List Bytes) : Bytes :=
  Bytes.joinWith (10 :: indent) (lines.map (curlQuotes 0))

/-- Writes an item. -/
def Item.text (item : Item) : Bytes :=
  let mark := if item.number.isEmpty then "  - ".utf8 else 32 :: item.number ++ ". ".utf8
  mark ++ Bytes.joinWith "\n    ".utf8
    (item.paragraphs.map fun lines => paragraphText "    ".utf8 lines ++ [10])

/-- Are there empty lines between the items of a list? -/
def isSpread (isLoose : Bool) (items : List Item) : Bool :=
  isLoose || items.any fun item => item.paragraphs.length != 1

/-- Is there an empty line in front of a block? -/
def Block.isApart : Block → Bool
  | .list isApart isLoose items => isApart || isSpread isLoose items
  | _ => true

/-- Writes a block. -/
def Block.text : Block → Bytes
  | .paragraph lines => paragraphText [] lines ++ [10]
  | .heading text => "# ".utf8 ++ text ++ [10]
  | .code lines => lines.flatMap fun line => (if line.isEmpty then [] else 9 :: line) ++ [10]
  | .list _ isLoose items =>
    Bytes.joinWith (if isSpread isLoose items then [10] else []) (items.map Item.text)

/-- Writes blocks, each behind an empty line if there should be one. -/
def blocksText : List Block → Bytes
  | [] => []
  | first :: rest =>
    first.text ++ rest.flatMap fun block => (if block.isApart then [10] else []) ++ block.text

/-- The lines of the paragraphs of a block. -/
def Block.paragraphs : Block → List (List Bytes)
  | .paragraph lines => [lines]
  | .list _ _ items => items.flatMap Item.paragraphs
  | _ => []

/-- What stands in brackets. `found` is what has been read of it since the last closing bracket. -/
def bracketed (isOpen : Bool) (found : Bytes) : Bytes → List Bytes
  | [] => []
  | 91 :: rest => bracketed true found rest
  | 93 :: rest => (if isOpen then [found] else []) ++ bracketed false [] rest
  | b :: rest =>
    if isOpen then bracketed true (found ++ [if b == 10 || b == 9 then 32 else b]) rest
    else bracketed false found rest

/-- Writes targets of links behind an empty line. -/
def linksText (links : List Link) : Bytes :=
  if links.isEmpty then []
  else 10 :: links.flatMap fun l => "[".utf8 ++ l.name ++ "]: ".utf8 ++ l.target ++ [10]

/-- Writes prose. The targets of links come last, those of links that do not occur behind the
others. -/
def text (p : Prose) : Bytes :=
  let names := p.blocks.flatMap fun block => block.paragraphs.flatMap fun lines =>
    bracketed false [] (Bytes.joinWith [10] lines)
  let isFirst (i : Nat) (l : Link) := !((p.links.take i).any fun k => k.name == l.name)
  let links := p.links.zipIdx.map fun (l, i) => (l, names.contains l.name && isFirst i l)
  blocksText p.blocks ++ linksText ((links.filter Prod.snd).map Prod.fst) ++
    linksText ((links.filter fun l => !l.2).map Prod.fst)

/-! ### Comments -/

/-- Does each line of a comment behind the first one begin with a star? -/
def isStarred (text : Bytes) : Bool :=
  (Bytes.splitLines text).tail.all fun line =>
    (line.dropWhile isGap).head?.all (· == 42)

/-- A line of prose as a comment. -/
def lineRemark (line : Bytes) : Bytes :=
  "//".utf8 ++ (if line.isEmpty || line.head? == some 9 then line else 32 :: line)

/-- The lines of a text, each of which ends with a line end; it can be missing at the end. -/
def linesOf (text : Bytes) : List Bytes :=
  let lines := Bytes.splitLines text
  if lines.getLast? == some [] then lines.dropLast else lines

/-- Gives a group of comments the form in which prose is written. What speaks to tools goes to the
end. Comments of both kinds in one group are left alone, and so is a comment on one line between
marks or with a column of stars. -/
def tidy (group : List Remark) : List Remark :=
  match group with
  | [] => []
  | first :: rest =>
    if first.isLine then
      let (directives, others) := group.partition fun r => RemarkText.isDirective (r.text.drop 2)
      if !group.all Remark.isLine || others.isEmpty then group
      else
        let body := others.map fun r =>
          let line := r.text.drop 2
          if line.head? == some 32 then line.drop 1 else line
        let lines := (linesOf (text (ofLines body))).map lineRemark
        let ends := if directives.isEmpty then [] else "//".utf8 :: directives.map Remark.text
        (lines ++ ends).map fun text => { first with text }
    else if !rest.isEmpty || !first.text.any (· == 10) || isStarred first.text then group
    else
      let body := (first.text.drop 2).take (first.text.length - 4)
      [{ first with text :=
        "/*\n".utf8 ++ text (ofLines (Bytes.splitLines body)) ++ "*/".utf8 }]

end Prose

end TensorLang.Emit
