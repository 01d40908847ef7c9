import TensorLang.Source.Path

/-!
# File trees

Directories and files, as far as the program sees them: no links, no permissions. A tree is a list
of places, each the list of names that leads to it from the root; every place lies in a directory of
the tree. Paths that do not begin at the root are meant in the working directory.

* `Tree.read`, `Tree.write`, `Tree.makeDir` and `Tree.remove` are the operations; a failure names
  the operation, the path and the fault.
* `Tree.filesBelow` lists the files of a directory in the order of their paths.
* `Tree.changes` is what leads from one tree to another, place by place.
-/

namespace TensorLang.Storage

/-- Why an operation on files fails. -/
inductive Fault where
  | missing
  | notADirectory
  | isADirectory
  deriving DecidableEq, Inhabited, Repr

/-- The words for a fault. -/
def Fault.text : Fault → Bytes
  | missing => "no such file or directory".utf8
  | notADirectory => "not a directory".utf8
  | isADirectory => "is a directory".utf8

/-- A failed operation. -/
structure Failure where
  action : String
  path : Bytes
  fault : Fault
  deriving DecidableEq, Inhabited, Repr

/-- What is said about a failed operation. -/
def Failure.message (f : Failure) : Bytes :=
  f.action.utf8 ++ " ".utf8 ++ f.path ++ ": ".utf8 ++ f.fault.text

/-- The names that lead to a place from the root. -/
abbrev Place := List Bytes

/-- What is at a place. -/
inductive Node where
  | dir
  | file (content : Bytes)
  deriving DecidableEq, Inhabited, Repr

/-- A file tree and the working directory in it. -/
structure Tree where
  cwd : Place := []
  entries : List (Place × Node) := []
  deriving DecidableEq, Inhabited, Repr

namespace Tree

/-- What is at a place. The root is always a directory. -/
def node? (t : Tree) (p : Place) : Option Node :=
  if p.isEmpty then some .dir else t.entries.lookup p

/-- Puts a node at a place, in place of what was there. -/
def put (t : Tree) (p : Place) (n : Node) : Tree :=
  { t with entries := (p, n) :: t.entries.filter fun e => e.1 != p }

/-- Follows the names of a path from the directory `here`. The answer is the place of the last name
and what is there, which may be nothing; everything before it must be a directory. -/
def follow (t : Tree) (here : Place) : List Bytes → Except Fault (Place × Option Node)
  | [] => .ok (here, some .dir)
  | name :: rest =>
    if name.isEmpty || name == ".".utf8 then t.follow here rest
    else if name == "..".utf8 then t.follow here.dropLast rest
    else
      match t.node? (here ++ [name]), rest with
      | found, [] => .ok (here ++ [name], found)
      | some .dir, rest => t.follow (here ++ [name]) rest
      | some (.file _), _ => .error .notADirectory
      | none, _ => .error .missing

/-- Finds the place of a path. -/
def locate (t : Tree) (path : Bytes) : Except Fault (Place × Option Node) :=
  if path.isEmpty then .error .missing
  else t.follow (if Path.isAbs path then [] else t.cwd) (Bytes.splitOn Path.slash path)

/-- The working directory as a path. -/
def workingDir (t : Tree) : Bytes := Path.ofParts true t.cwd

/-- What is at a path. -/
def stat (t : Tree) (path : Bytes) : Except Failure (Place × Node) :=
  match t.locate path with
  | .ok (place, some node) => .ok (place, node)
  | .ok (_, none) => .error ⟨"stat", path, .missing⟩
  | .error fault => .error ⟨"stat", path, fault⟩

/-- Is there a directory at the path? -/
def isDir (t : Tree) (path : Bytes) : Bool :=
  match t.stat path with
  | .ok (_, .dir) => true
  | _ => false

/-- The content of a file. -/
def read (t : Tree) (path : Bytes) : Except Failure Bytes :=
  match t.locate path with
  | .ok (_, some (.file content)) => .ok content
  | .ok (_, some .dir) => .error ⟨"read", path, .isADirectory⟩
  | .ok (_, none) => .error ⟨"open", path, .missing⟩
  | .error fault => .error ⟨"open", path, fault⟩

/-- Writes a file; its directory must exist. -/
def write (t : Tree) (path content : Bytes) : Except Failure Tree :=
  match t.locate path with
  | .ok (_, some .dir) => .error ⟨"open", path, .isADirectory⟩
  | .ok (place, _) => .ok (t.put place (.file content))
  | .error fault => .error ⟨"open", path, fault⟩

/-- Makes all directories that lead to a place. -/
def putDirs (t : Tree) (here : Place) : Place → Tree
  | [] => t
  | name :: rest =>
    let p := here ++ [name]
    (match t.node? p with
      | some _ => t
      | none => t.put p .dir).putDirs p rest

/-- The beginnings of a path at its separators, the shortest first, and the path itself. -/
def beginnings (path : Bytes) : List Bytes :=
  let trimmed := Bytes.trimRight (· == Path.slash) path
  let pieces := Bytes.splitOn Path.slash trimmed
  ((List.range pieces.length).map fun n => Bytes.joinWith [Path.slash] (pieces.take (n + 1))).filter
    fun p => !p.isEmpty

/-- Makes a directory and the directories it lies in. -/
def makeDir (t : Tree) (path : Bytes) : Except Failure Tree :=
  (beginnings path).foldlM (fun t p =>
    match t.locate p with
    | .ok (_, some .dir) => .ok t
    | .ok (_, some (.file _)) => .error ⟨"mkdir", p, .notADirectory⟩
    | .ok (place, none) => .ok (t.put place .dir)
    | .error fault => .error ⟨"mkdir", p, fault⟩) t

/-- Removes a file, or a directory with everything in it. -/
def remove (t : Tree) (path : Bytes) : Tree :=
  match t.locate path with
  | .ok (place, _) => { t with entries := t.entries.filter fun e => !place.isPrefixOf e.1 }
  | .error _ => t

/-- Writes a file and makes the directories it lies in; a path that ends in a separator is a
directory. -/
def install (t : Tree) (path content : Bytes) : Tree :=
  let place := (if Path.isAbs path then [] else t.cwd) ++ Path.elements path
  if path.getLast? == some Path.slash then t.putDirs [] place
  else (t.putDirs [] place.dropLast).put place (.file content)

/-- The order of places: name by name. -/
def placeLe : Place → Place → Bool
  | [], _ => true
  | _ :: _, [] => false
  | a :: as, b :: bs => Bytes.lt a b || (a == b && placeLe as bs)

/-- The files below a place, each with the path that leads to it from there, in the order of
places. -/
def filesBelow (t : Tree) (p : Place) : List (Bytes × Bytes) :=
  let below := t.entries.filterMap fun
    | (q, .file content) => if p.isPrefixOf q then some (q.drop p.length, content) else none
    | (_, .dir) => none
  (below.mergeSort fun a b => placeLe a.1 b.1).map fun e =>
    (Bytes.joinWith [Path.slash] e.1, e.2)

end Tree

/-- A change at one place. -/
inductive Change where
  | erase (place : Place) (old : Node)
  | makeDir (place : Place)
  | write (place : Place) (content : Bytes)
  deriving DecidableEq, Repr

/-- The change that puts a node at a place. -/
def Change.ofNode (place : Place) : Node → Change
  | .dir => makeDir place
  | .file content => write place content

/-- The changes that lead from a tree to another one, in an order in which they can be made: what is
gone is erased first, from the inside out, and directories are made before what lies in them. -/
def Tree.changes (before after : Tree) : List Change :=
  let gone := before.entries.filter fun e => (after.node? e.1).isNone
  let fresh := after.entries.filter fun e => before.node? e.1 != some e.2
  ((gone.mergeSort fun a b => b.1.length ≤ a.1.length).map fun e => .erase e.1 e.2) ++
    (fresh.mergeSort fun a b => a.1.length ≤ b.1.length).map fun e => .ofNode e.1 e.2

end TensorLang.Storage
