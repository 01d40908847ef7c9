import TensorLang.Storage.Tree
import TensorLang.Text.Decimal

/-!
# The cache of results

Results are kept in a directory of a file tree, one file for each key. The file is named after the
key in hexadecimal digits.
-/

namespace TensorLang.Storage

/-- A cache below a directory. -/
structure ResultCache where
  dir : Bytes
  deriving DecidableEq, Inhabited, Repr

namespace ResultCache

/-- The directory of the entries. -/
def runs (c : ResultCache) : Bytes := Path.join [c.dir, "runs".utf8]

/-- The ending of entries. -/
def ending : Bytes := ".mp".utf8

/-- The file for a key. -/
def entryPath (c : ResultCache) (key : Bytes) : Bytes :=
  Path.join [c.runs, Hex.ofBytes key ++ ending]

/-- Makes the directory of the cache. -/
def create (c : ResultCache) (t : Tree) : Except Failure Tree := t.makeDir c.runs

/-- The entry for a key. -/
def get? (c : ResultCache) (t : Tree) (key : Bytes) : Option Bytes :=
  (t.read (c.entryPath key)).toOption

/-- Why no entry can be written, if that is so: an entry begins as a file of its own next to the
others. -/
def writeFailure? (c : ResultCache) (t : Tree) : Option Failure :=
  match t.write (Path.join [c.runs, "tmp-".utf8]) [] with
  | .ok _ => none
  | .error f => some f

/-- Writes an entry, if that is possible. -/
def put (c : ResultCache) (t : Tree) (key content : Bytes) : Tree :=
  (t.write (c.entryPath key) content).toOption.getD t

/-- The paths of the entries directly in the cache. -/
def entries (c : ResultCache) (t : Tree) : List Bytes :=
  match t.locate c.runs with
  | .ok (place, some .dir) =>
    t.entries.filterMap fun (p, _) =>
      if p.dropLast == place && p.length == place.length + 1 &&
          Bytes.endsWith (p.getLast?.getD []) ending then
        some (p.getLast?.getD [])
      else none
  | _ => []

/-- Removes all entries and answers how many there were. -/
def clear (c : ResultCache) (t : Tree) : Except Failure (Tree × Nat) := do
  let t' ← (t.remove c.runs).makeDir c.runs
  .ok (t', (c.entries t).length)

end ResultCache

end TensorLang.Storage
