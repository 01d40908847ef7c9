import TensorLang.Text.Bytes

/-!
# Lexical paths

Paths with `/` between elements, taken as text: no file system is asked.

* `Path.clean` is the shortest path that means the same: no empty elements, no `.`, and no `..`
  behind a name.
* `Path.join` puts elements together and cleans the result.
* `Path.rel?` goes from one path to another.
-/

namespace TensorLang.Path

/-- The separator. -/
def slash : UInt8 := 47

/-- Does the path begin at the root? -/
def isAbs (p : Bytes) : Bool := p.head? == some slash

/-- The elements between separators that are neither empty nor `.`. -/
def elements (p : Bytes) : List Bytes :=
  (Bytes.splitOn slash p).filter fun e => e ≠ [] ∧ e ≠ ".".utf8

/-- Resolves `..` against the element before it. `done` holds what is kept, the last element first.
A `..` that nothing precedes is dropped at the root and kept elsewhere. -/
def resolve (rooted : Bool) (done : List Bytes) : List Bytes → List Bytes
  | [] => done.reverse
  | e :: rest =>
    if e = "..".utf8 then
      match done with
      | last :: before =>
        if last = "..".utf8 then resolve rooted (e :: done) rest else resolve rooted before rest
      | [] => if rooted then resolve rooted [] rest else resolve rooted [e] rest
    else resolve rooted (e :: done) rest

/-- The elements of the cleaned path. -/
def parts (p : Bytes) : List Bytes := resolve (isAbs p) [] (elements p)

/-- The path with the given elements. -/
def ofParts (rooted : Bool) (es : List Bytes) : Bytes :=
  let body := Bytes.joinWith [slash] es
  if rooted then slash :: body else if body.isEmpty then ".".utf8 else body

/-- The shortest path that means the same. -/
def clean (p : Bytes) : Bytes := ofParts (isAbs p) (parts p)

/-- The non-empty elements put together and cleaned; nothing if all are empty. -/
def join (es : List Bytes) : Bytes :=
  match es.filter (· ≠ []) with
  | [] => []
  | es => clean (Bytes.joinWith [slash] es)

/-- The last element: without trailing separators, `.` for nothing, and the root for the root. -/
def base (p : Bytes) : Bytes :=
  if p.isEmpty then ".".utf8
  else
    let trimmed := Bytes.trimRight (· == slash) p
    if trimmed.isEmpty then [slash] else ((Bytes.splitOn slash trimmed).getLast?).getD []

/-- The ending of the last element, from its last point on, or nothing. -/
def ext (p : Bytes) : Bytes :=
  let last := ((Bytes.splitOn slash p).getLast?).getD []
  let tail := last.reverse.takeWhile (· ≠ 46)
  if tail.length = last.length then [] else 46 :: tail.reverse

/-- Everything but the last element, cleaned. -/
def dir (p : Bytes) : Bytes :=
  let tail := p.reverse.takeWhile (· ≠ slash)
  clean (p.take (p.length - tail.length))

/-- The path from the root, `p` being meant in the directory `cwd`. -/
def abs (cwd p : Bytes) : Bytes := if isAbs p then clean p else join [cwd, p]

/-- Drops what two lists have in common at their beginnings. -/
def dropCommon : List Bytes → List Bytes → List Bytes × List Bytes
  | a :: as, b :: bs => if a = b then dropCommon as bs else (a :: as, b :: bs)
  | as, bs => (as, bs)

/-- The path that leads from `from` to `to`; there is none between a path from the root and another
one, or from a place above an unknown directory. -/
def rel? (start target : Bytes) : Option Bytes :=
  let s := clean start
  let t := clean target
  if s = t then some ".".utf8
  else
    let s := if s = ".".utf8 then [] else s
    if isAbs s != isAbs t then none
    else
      let sp := if s.isEmpty then [] else parts s
      let tp := parts t
      let (up, down) := dropCommon sp tp
      if up.head? = some "..".utf8 then none
      else some (ofParts false (up.map (fun _ => "..".utf8) ++ down))

end TensorLang.Path
