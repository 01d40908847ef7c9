import TensorLang.Hash.Sha256
import TensorLang.Search
import TensorLang.Source.Normalize
import TensorLang.Source.Path
import TensorLang.Source.Span

/-!
# Files and positions

A file set numbers the files of one run and turns offsets into lines and columns. Lines and columns
count from one, and a column counts bytes.

* `File.lineStarts` is the table of the offsets at which lines begin.
* `File.position` searches the table for the line of an offset, and tells the distance from the
  line's beginning.
* `File.line` cuts a line without its newline out of the content, from one start to the next.
* `File.formatPath` shows the path of a file in one of several ways.
-/

namespace TensorLang

/-- A place as a line and a column, both from one; zero for both means an unknown place. -/
structure LineCol where
  line : Nat
  col : Nat
  deriving DecidableEq, Inhabited, Repr

/-- A source file. -/
structure File where
  id : Nat
  path : Bytes
  content : Bytes
  flags : Nat
  deriving DecidableEq, Inhabited, Repr

namespace File

/-- The offsets at which lines begin when the text from `offset` on is the given one; the line that
is already open is not counted. -/
def lineStartsFrom (offset : Nat) : Bytes → List Nat
  | [] => []
  | b :: rest =>
    if b = 10 then (offset + 1) :: lineStartsFrom (offset + 1) rest
    else lineStartsFrom (offset + 1) rest

/-- The offsets at which the lines begin. -/
def lineStarts (f : File) : List Nat := 0 :: lineStartsFrom 0 f.content

/-- The hash of the content. -/
def hash (f : File) : Bytes := Sha256.hash f.content

/-- The span of the whole content. -/
def fullSpan (f : File) : Span := ⟨f.id, 0, f.content.length⟩

/-- The index in a table of line starts of the line with an offset. -/
def lineIndex (starts : List Nat) (offset : Nat) : Nat :=
  let place := Search.first (fun start => offset ≤ start) starts
  -- an offset that begins no line belongs to the line before
  if starts[place]? = some offset then place else place - 1

/-- The line and column of an offset, both 32-bit numbers. -/
def position (f : File) (offset : Nat) : LineCol :=
  let index := lineIndex f.lineStarts offset
  ⟨(index + 1) % UInt32.size, (offset - f.lineStarts[index]?.getD 0 + 1) % UInt32.size⟩

/-- The text under a span, as far as the content reaches. -/
def slice (f : File) (span : Span) : Bytes := (f.content.take span.stop).drop span.start

/-- The text of line `n`, counted from one, without its newline; nothing if there is no such
line. -/
def line (f : File) (n : Nat) : Bytes :=
  if n = 0 then []
  else
    match f.lineStarts[n - 1]? with
    | none => []
    | some start =>
      -- a line ends at the newline before the next line, or with the content
      let stop := (f.lineStarts[n]?.map (· - 1)).getD f.content.length
      (f.content.take stop).drop start

end File

/-- How the path of a file is shown. -/
inductive PathStyle where
  /-- As it is, but a long path from the root is cut down to its last element. -/
  | auto
  /-- From the root. -/
  | absolute
  /-- From the base directory, if the file is below it. -/
  | relative
  /-- The last element. -/
  | basename
  /-- As it is. -/
  | plain
  deriving DecidableEq, Inhabited, Repr

namespace PathStyle

/-- The style with the given name; an unknown name means the path as it is. -/
def ofName (name : Bytes) : PathStyle :=
  if name = "absolute".utf8 then absolute
  else if name = "relative".utf8 then relative
  else if name = "basename".utf8 then basename
  else if name = "auto".utf8 then auto
  else plain

/-- The style with the given number. -/
def ofNumber : Nat → PathStyle
  | 1 => absolute
  | 2 => relative
  | 3 => basename
  | _ => auto

/-- The number of a style. -/
def number : PathStyle → Nat
  | absolute => 1
  | relative => 2
  | basename => 3
  | _ => 0

/-- The name of a style. -/
def name : PathStyle → Bytes
  | absolute => "absolute".utf8
  | relative => "relative".utf8
  | basename => "basename".utf8
  | _ => "auto".utf8

end PathStyle

/-- A path relative to `baseDir`, or from the root if it is not below `baseDir`. Both are meant in
the directory `cwd`. -/
def Path.relativeTo (cwd path baseDir : Bytes) : Bytes :=
  let target := Path.abs cwd path
  match Path.rel? (Path.abs cwd baseDir) target with
  | some rel =>
    if rel = "..".utf8 || Bytes.startsWith rel "../".utf8 then Path.clean target else Path.clean rel
  | none => Path.clean target

/-- The path of a file in the given style. -/
def File.formatPath (f : File) (style : PathStyle) (cwd baseDir : Bytes) : Bytes :=
  match style with
  | .absolute => Path.clean (Path.abs cwd f.path)
  | .relative => Path.relativeTo cwd f.path (if baseDir.isEmpty then cwd else baseDir)
  | .basename => Path.base f.path
  | .auto => if Path.isAbs f.path && 40 ≤ f.path.length then Path.base f.path else f.path
  | .plain => f.path

/-- The files of one run, numbered from zero. -/
structure FileSet where
  files : Array File := #[]
  /-- What relative paths are computed against, if it is set. -/
  baseSetting : Bytes := []
  /-- The working directory. -/
  cwd : Bytes := []
  deriving Inhabited

namespace FileSet

/-- The base directory: the one that was set, or the working directory. -/
def baseDir (fs : FileSet) : Bytes := if fs.baseSetting.isEmpty then fs.cwd else fs.baseSetting

/-- Adds normalised content under the next number. The same path may be added again. -/
def add (fs : FileSet) (path content : Bytes) (flags : Nat) : FileSet × Nat :=
  let id := fs.files.size
  ({ fs with files := fs.files.push ⟨id, Path.clean path, content, flags⟩ }, id)

/-- Normalises content that was read from a file, and adds it. -/
def addRead (fs : FileSet) (path content : Bytes) : FileSet × Nat :=
  let (text, flags) := Source.normalize content
  fs.add path text flags

/-- Normalises content that did not come from a file, and adds it. -/
def addVirtual (fs : FileSet) (path content : Bytes) : FileSet × Nat :=
  let (text, flags) := Source.normalize content
  fs.add path text (flags ||| Source.virtualFlag)

/-- The file with the given number. -/
def get? (fs : FileSet) (id : Nat) : Option File := fs.files[id]?

/-- The number of files. -/
def size (fs : FileSet) : Nat := fs.files.size

/-- The number of the newest file with the given path. -/
def latest? (fs : FileSet) (path : Bytes) : Option Nat :=
  (fs.files.toList.reverse.find? fun f => f.path = Path.clean path).map File.id

/-- The positions of both ends of a span; unknown places for an unknown file. -/
def resolve (fs : FileSet) (span : Span) : LineCol × LineCol :=
  match fs.get? span.file with
  | some f => (f.position span.start, f.position span.stop)
  | none => (⟨0, 0⟩, ⟨0, 0⟩)

/-- The path of a file in the given style. -/
def pathOf (fs : FileSet) (f : File) (style : PathStyle) : Bytes :=
  f.formatPath style fs.cwd fs.baseDir

end FileSet

end TensorLang
