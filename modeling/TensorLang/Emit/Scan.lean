import TensorLang.Emit.Literal
import TensorLang.Emit.Places

/-!
# Cutting emitted code into tokens

Line ends count: after a token that can end a statement, the end of the line is a semicolon.
Comments are tokens too; one that spans lines brings the semicolon with it.

* `Scan.ofText` gives the tokens of a text, the last of which is the end, and the offsets of what is
  no token at all.
-/

namespace TensorLang.Emit

/-- A text in tokens. -/
structure Scan where
  tokens : List Token
  /-- The offsets of faults. -/
  faults : List Nat
  places : Places
  deriving Inhabited

namespace Scan

/-- The longest beginning of a text that consists of code points of a class. -/
def takeCodes (p : Nat → Bool) : Bytes → Bytes
  | [] => []
  | b :: rest =>
    let (code, size) := Utf8.decode (b :: rest)
    if p code then (b :: rest).take size ++ takeCodes p (rest.drop (size - 1)) else []
termination_by text => text.length
decreasing_by simp only [List.length_drop, List.length_cons]; omega

/-- Removes carriage returns. -/
def dropReturns (text : Bytes) : Bytes := text.filter (· != 13)

/-- Removes carriage returns from a comment of the kind that can span lines, except between a star
and a slash, which would end the comment. `kept` counts the bytes kept so far and `last` is the last
of them. -/
def dropCommentReturns (kept : Nat) (last : UInt8) : Bytes → Bytes
  | [] => []
  | b :: rest =>
    if b != 13 || (2 < kept && last == 42 && rest.head? == some 47) then
      b :: dropCommentReturns (kept + 1) b rest
    else dropCommentReturns kept last rest

/-- The length of a comment up to and including its closing, if it is closed. The text begins behind
the opening. -/
def closingLength? : Bytes → Option Nat
  | [] => none
  | 42 :: 47 :: _ => some 2
  | _ :: rest => (closingLength? rest).map (· + 1)

/-- A comment at the beginning of a text. -/
structure Comment where
  length : Nat
  isClosed : Bool
  /-- The text without carriage returns. -/
  text : Bytes
  /-- The text with its carriage returns, the last one apart if it ends the line. -/
  spelled : Bytes
  /-- Where the first line end is in it. -/
  lineEnd : Option Nat
  /-- Can the comment span lines? -/
  isWide : Bool

/-- Reads a comment, if the text begins with one. -/
def comment? (text : Bytes) : Option Comment :=
  match text with
  | 47 :: 47 :: _ =>
    let spelled := text.takeWhile (· != 10)
    let kept := if spelled.getLast? == some 13 then spelled.dropLast else spelled
    some ⟨spelled.length, true, dropReturns kept, kept, none, false⟩
  | 47 :: 42 :: rest =>
    let length := (closingLength? rest).map (· + 2)
    let spelled := text.take (length.getD text.length)
    let lineEnd := spelled.findIdx (· == 10)
    some ⟨spelled.length, length.isSome, dropCommentReturns 0 0 spelled, spelled,
      if lineEnd < spelled.length then some lineEnd else none, true⟩
  | _ => none

/-- What a comment says about the lines behind it, if it says anything. A comment that cannot span
lines counts only at the beginning of a line. -/
def renamingOf (places : Places) (c : Comment) (offset lineStart : Nat) (atEnd : Bool) :
    Except Nat (Option Renaming) :=
  let isMarked := Bytes.startsWith (c.spelled.drop 2) "line ".utf8
  if isMarked && c.isClosed && (c.isWide || offset == lineStart) then
    let body := if c.isWide then c.spelled.take (c.spelled.length - 2) else c.spelled
    Renaming.ofComment places body offset
      (if c.isWide || atEnd then offset + c.length else offset + c.length + 1)
  else .ok none

/-- Adds a renaming, if it stands behind the last one and before the end. -/
def addRenaming (places : Places) (r : Renaming) : Places :=
  let isLater := match places.renamings.getLast? with
    | some last => last.offset < r.offset
    | none => true
  if isLater && r.offset < places.lines.size then
    { places with renamings := places.renamings ++ [r] }
  else places

/-- A token without its place: its kind, sign, text and length, and the offsets of its faults. -/
structure Lexeme where
  kind : TokenKind
  sign : String := ""
  text : Bytes
  length : Nat
  faults : List Nat := []

/-- The lexeme of a literal. -/
def ofLiteral (l : Literal) (text : Bytes) (isRaw : Bool) : Lexeme :=
  let spelled := text.take l.length
  ⟨l.kind, "", if isRaw then dropReturns spelled else spelled, l.length, l.faults⟩

/-- The token at the beginning of a text that begins with no white space and no comment. -/
def lexeme (text : Bytes) : Lexeme :=
  match text with
  | [] => ⟨.finish, "", [], 0, []⟩
  | b :: rest =>
    let (code, size) := Utf8.decode text
    if Token.isNameStart code then
      let word := takeCodes Token.isNameRest text
      match Token.keywordTable.lookup word with
      | some keyword => ⟨.sign, keyword, word, word.length, []⟩
      | none => ⟨.name, "", word, word.length, []⟩
    else if Decimal.isDigit b || (b == 46 && rest.head?.any Decimal.isDigit) then
      ofLiteral (Literal.number text) text false
    else if b == 34 then ofLiteral (Literal.string text) text false
    else if b == 39 then ofLiteral (Literal.char text) text false
    else if b == 96 then ofLiteral (Literal.raw text) text true
    else
      match Token.signTable.find? fun entry => Bytes.startsWith text entry.1 with
      | some (spelled, sign) => ⟨.sign, sign, spelled, spelled.length, []⟩
      | none => ⟨.illegal, "", text.take size, size, if code == 0xFEFF then [] else [0]⟩

/-- What has been scanned: tokens and faults, the last one first. -/
structure Progress where
  tokens : List Token := []
  faults : List Nat := []
  places : Places
  /-- Where the line begins. -/
  lineStart : Nat := 0

/-- The semicolon that the end of a line stands for. -/
def lineEndToken (offset : Nat) : Token := ⟨.sign, ";", [10], offset, offset⟩

/-- Scans a text. `ends` says whether a line end would end a statement here. -/
def scanFrom : (fuel : Nat) → (ends : Bool) → (offset : Nat) → Progress → Bytes → Progress
  | 0, _, _, p, _ => p
  | fuel + 1, ends, offset, p, text =>
    match text with
    | [] =>
      let last : Token := ⟨.finish, "", [], offset, offset⟩
      { p with tokens := last :: (if ends then lineEndToken offset :: p.tokens else p.tokens) }
    | b :: rest =>
      if b == 32 || b == 9 || b == 13 then scanFrom fuel ends (offset + 1) p rest
      else if b == 10 then
        let p := { p with lineStart := offset + 1 }
        scanFrom fuel false (offset + 1)
          (if ends then { p with tokens := lineEndToken offset :: p.tokens } else p) rest
      else
        match comment? text with
        | some c =>
          let after := text.drop c.length
          let token : Token := ⟨.comment, "", c.text, offset, offset + c.length⟩
          let p := { p with
            lineStart := match c.lineEnd with
              | some _ => offset + c.length -
                  ((c.spelled.reverse.takeWhile (· != 10)).length)
              | none => p.lineStart }
          let (faults, places) :=
            match renamingOf p.places c offset p.lineStart after.isEmpty with
            | .error fault => ([fault], p.places)
            | .ok (some r) => ([], addRenaming p.places r)
            | .ok none => ([], p.places)
          let faults := if c.isClosed then faults else [offset]
          match ends, c.lineEnd with
          | true, some lineEnd =>
            scanFrom fuel false (offset + c.length)
              { p with
                tokens := lineEndToken (offset + lineEnd) :: token :: p.tokens
                faults := faults ++ p.faults
                places } after
          | ends, _ =>
            scanFrom fuel ends (offset + c.length)
              { p with tokens := token :: p.tokens, faults := faults ++ p.faults, places } after
        | none =>
          let l := lexeme text
          let size := max 1 l.length
          let token : Token := ⟨l.kind, l.sign, l.text, offset, offset + size⟩
          let ends := if l.kind == .illegal then ends else Token.endsStatement l.kind l.sign
          let spelled := text.take size
          let p := { p with
            tokens := token :: p.tokens
            faults := l.faults.map (· + offset) ++ p.faults
            lineStart := if spelled.contains 10 then
                offset + size - (spelled.reverse.takeWhile (· != 10)).length
              else p.lineStart }
          scanFrom fuel ends (offset + size) p (text.drop size)

/-- The offsets of code points that may stand nowhere, not even in comments: the zero byte,
malformed bytes, and a byte order mark after the beginning. -/
def strayOffsets (offset : Nat) : List (Nat × Bytes) → List Nat
  | [] => []
  | piece :: rest =>
    let bad := piece.1 == 0 || Utf8.isMalformed piece || (piece.1 == 0xFEFF && 0 < offset)
    (if bad then [offset] else []) ++ strayOffsets (offset + piece.2.length) rest

/-- The tokens of a text. A byte order mark at its beginning is left out. -/
def ofText (text : Bytes) : Scan :=
  let places : Places := { lines := Lines.ofText text }
  let skip := if Bytes.startsWith text [0xEF, 0xBB, 0xBF] then 3 else 0
  let p := scanFrom (text.length + 2) false skip { places } (text.drop skip)
  ⟨p.tokens.reverse, strayOffsets 0 (Utf8.split text) ++ p.faults, p.places⟩

end Scan

end TensorLang.Emit
