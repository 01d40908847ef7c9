import TensorLang.Syntax.Error
import TensorLang.Text.Blank

/-!
# Readers

A reader recognises a beginning of the text at a cursor. It answers with a value and the cursor
behind it, or with nothing, and in both cases with a log of complaints: every token that was looked
for in vain and every literal that was rejected on the way. Going back never removes a complaint, so
the log of the whole text explains a failure however it came about. The answer also tells whether
all spans that were made on the way fit into 32-bit words; where one does not, the program stops
there, and the answer counts for nothing.

* `Reader.orElse` tries a second reader at the same place.
* `Reader.many` repeats a reader; it stops where the reader fails or does not move, and so it ends.
* `Reader.located` gives a value the span of the text that was read for it. Readers skip the blanks
  behind a token, so the blanks at the end of that text are taken off again.
* `ParseError.ofLog` turns the log of a failed attempt into the error: rejected literals if there
  are any, and otherwise what was expected at the furthest place.
-/

namespace TensorLang

/-- A place in the text of a file: how many bytes are behind it and the bytes ahead. -/
structure Cursor where
  file : Nat
  pos : Nat
  rest : Bytes
  deriving DecidableEq, Repr

namespace Cursor

/-- The beginning of a text. -/
def start (file : Nat) (text : Bytes) : Cursor := ⟨file, 0, text⟩

/-- Moves over `n` bytes. -/
def advance (c : Cursor) (n : Nat) : Cursor := ⟨c.file, c.pos + n, c.rest.drop n⟩

/-- Moves over blanks. -/
def skipBlanks (c : Cursor) : Cursor := c.advance (Text.blankLength c.rest)

/-- The span of the next `n` bytes. -/
def spanOf (c : Cursor) (n : Nat) : Span := ⟨c.file, c.pos, c.pos + n⟩

/-- The span from here to a later place of the text. -/
def spanTo (c c' : Cursor) : Span := ⟨c.file, c.pos, c'.pos⟩

/-- The span from here to a later place of the text, without the blanks before that place. -/
def trimmedTo (c c' : Cursor) : Span :=
  c.spanOf (Text.trimRight (c.rest.take (c'.pos - c.pos))).length

end Cursor

/-- A remark made while reading. -/
inductive Complaint where
  /-- `label` was looked for at the offset `pos` in vain. -/
  | expected (pos : Nat) (label : Label)
  /-- The literal under the span was rejected. -/
  | rejected (span : Span) (problem : LiteralProblem)
  deriving DecidableEq, Repr

/-- The answer of a reader. -/
structure Reply (α : Type) where
  value : Option (α × Cursor)
  log : List Complaint
  /-- Do all spans that were made fit into 32-bit words? -/
  fits : Bool

/-- A reader of values of type `α`. -/
def Reader (α : Type) := Cursor → Reply α

namespace Reader

/-- Succeeds without reading anything. -/
protected def pure {α : Type} (a : α) : Reader α := fun c => ⟨some (a, c), [], true⟩

/-- Reads one thing and then another, which may depend on the first. -/
protected def bind {α β : Type} (p : Reader α) (f : α → Reader β) : Reader β := fun c =>
  match p c with
  | ⟨none, log, fits⟩ => ⟨none, log, fits⟩
  | ⟨some (a, c'), log, fits⟩ =>
    let r := f a c'
    ⟨r.value, log ++ r.log, fits && r.fits⟩

instance : Monad Reader where
  pure := Reader.pure
  bind := Reader.bind

/-- Reads the first thing if possible and otherwise, from the same place, the second. -/
def orElse {α : Type} (p q : Reader α) : Reader α := fun c =>
  match p c with
  | ⟨some v, log, fits⟩ => ⟨some v, log, fits⟩
  | ⟨none, log, fits⟩ =>
    let r := q c
    ⟨r.value, log ++ r.log, fits && r.fits⟩

/-- Reads a thing if it is there. -/
def optional {α : Type} (p : Reader α) : Reader (Option α) := fun c =>
  match p c with
  | ⟨some (a, c'), log, fits⟩ => ⟨some (some a, c'), log, fits⟩
  | ⟨none, log, fits⟩ => ⟨some (none, c), log, fits⟩

/-- Reads a thing as often as it is there and takes up text. -/
def many {α : Type} (p : Reader α) (c : Cursor) : Reply (List α) :=
  match p c with
  | ⟨none, log, fits⟩ => ⟨some ([], c), log, fits⟩
  | ⟨some (a, c'), log, fits⟩ =>
    if c'.rest.length < c.rest.length then
      let more := many p c'
      ⟨more.value.map fun (as, c'') => (a :: as, c''), log ++ more.log, fits && more.fits⟩
    else ⟨some ([], c), log, fits⟩
termination_by c.rest.length

/-- Reads things with `sep` between them, or none at all. A separator that nothing follows is
left. -/
def separated {α β : Type} (p : Reader α) (sep : Reader β) : Reader (List α) := do
  match ← optional p with
  | none => pure []
  | some a =>
    let more ← many (do let _ ← sep; p)
    pure (a :: more)

/-- Allows blanks on both sides. -/
def padded {α : Type} (p : Reader α) : Reader α := fun c =>
  let r := p c.skipBlanks
  ⟨r.value.map fun (a, c') => (a, c'.skipBlanks), r.log, r.fits⟩

/-- Builds something from what was read and from its span, to which blanks at the end do not
belong. -/
def located {α β : Type} (p : Reader α) (f : α → Span → β) : Reader β := fun c =>
  match p c with
  | ⟨none, log, fits⟩ => ⟨none, log, fits⟩
  | ⟨some (a, c'), log, fits⟩ =>
    let span := c.trimmedTo c'
    ⟨some (f a span, c'), log, fits && span.fits⟩

/-- Converts what was read, or rejects it. -/
def convert {α β : Type} (p : Reader α) (f : α → Except LiteralProblem β) : Reader β := fun c =>
  match p c with
  | ⟨none, log, fits⟩ => ⟨none, log, fits⟩
  | ⟨some (a, c'), log, fits⟩ =>
    match f a with
    | .ok b => ⟨some (b, c'), log, fits⟩
    | .error problem =>
      let span := c.spanTo c'
      ⟨none, log ++ [.rejected span problem], fits && span.fits⟩

/-- Reads exactly `text`. -/
def exactly (text : Bytes) : Reader Span := fun c =>
  if Bytes.startsWith c.rest text then
    let span := c.spanOf text.length
    ⟨some (span, c.advance text.length), [], span.fits⟩
  else ⟨none, [.expected c.pos (.token text)], true⟩

/-- Reads a byte that passes `first` and all bytes after it that pass `rest`. -/
def run (label : Label) (first rest : UInt8 → Bool) : Reader Bytes := fun c =>
  match c.rest with
  | b :: bs =>
    if first b then
      let word := b :: bs.takeWhile rest
      ⟨some (word, c.advance word.length), [], true⟩
    else ⟨none, [.expected c.pos label], true⟩
  | [] => ⟨none, [.expected c.pos label], true⟩

/-- Succeeds at the end of the text only. -/
def atEnd : Reader Unit := fun c =>
  match c.rest with
  | [] => ⟨some ((), c), [], true⟩
  | _ :: _ => ⟨none, [.expected c.pos .endOfInput], true⟩

end Reader

namespace Complaint

/-- The furthest place where something was looked for in vain, and what was looked for there, each
thing once, in the order of the log. -/
def furthest (log : List Complaint) : Option (Nat × List Label) :=
  log.foldl (fun best complaint =>
    match complaint, best with
    | .rejected _ _, _ => best
    | .expected pos label, none => some (pos, [label])
    | .expected pos label, some (far, labels) =>
      if far < pos then some (pos, [label])
      else if pos = far && !labels.contains label then some (far, labels ++ [label])
      else best) none

/-- The rejected literals in the order of the log, each once. -/
def rejections (log : List Complaint) : List SyntaxError :=
  log.foldl (fun errors complaint =>
    match complaint with
    | .rejected span problem =>
      let e := SyntaxError.rejected span problem.message
      if errors.contains e then errors else errors ++ [e]
    | .expected _ _ => errors) []

end Complaint

namespace ParseError

/-- What stands at the offset `pos` of a text: its first code point in quotes, or the end. -/
def foundAt (text : Bytes) (pos : Nat) : Bytes :=
  match text.drop pos with
  | [] => Label.endOfInput.text
  | rest => Quoted.code (Utf8.decode rest).1

/-- How many bytes of `rest` an error at its beginning covers: one byte and the continuation bytes
behind it. -/
def coveredBytes : Bytes → Nat
  | [] => 0
  | _ :: rest => 1 + (rest.takeWhile Utf8.isTail).length

/-- The error of a failed attempt to read `text`, from its log. -/
def ofLog (file : Nat) (text : Bytes) (log : List Complaint) : ParseError :=
  match Complaint.rejections log with
  | first :: more => ⟨first, more⟩
  | [] =>
    match Complaint.furthest log with
    | some (pos, labels) =>
      let span : Span := ⟨file, pos, pos + coveredBytes (text.drop pos)⟩
      ⟨.mismatch span (labels.map Label.text) (foundAt text pos), []⟩
    | none => ⟨.rejected ⟨file, 0, 0⟩ "unexpected input".utf8, []⟩

end ParseError

end TensorLang
