import TensorLang.Toml.Reader

/-!
# TOML documents

The tables that the lines of a text build together, and the keys in the order in which they are
written.

A key may be given only once. Tables are the exception: one that exists only because a longer key
leads through it is *implied*, and an implied table may be given once more. A key that holds an
array can also be given anew, and then the new value counts.

* `Builder.define` gives a value to a name of a table and keeps that rule.
* `Builder.enter` goes to a table and makes the tables on the way.
* `Document.ofText?` reads a text.
-/

namespace TensorLang.Toml

/-- A value in a document. Arrays, floats and moments are kept without their content, since no
setting takes them. -/
inductive Value where
  | text (value : Bytes)
  | integer (value : Int)
  | boolean (value : Bool)
  | table (entries : List (Bytes × Value))
  /-- A list of tables, each with a header of its own. -/
  | tables (items : List (List (Bytes × Value)))
  | array
  | other
  deriving Inhabited

/-- The named values of a table, in the order in which they are given. -/
abbrev Table := List (Bytes × Value)

namespace Table

/-- The value of a name. -/
def get? (t : Table) (name : Bytes) : Option Value := t.lookup name

/-- Gives a value to a name, in place of the one it had. -/
def set (t : Table) (name : Bytes) (v : Value) : Table :=
  if t.any (·.1 == name) then t.map fun e => if e.1 == name then (name, v) else e
  else t ++ [(name, v)]

/-- The table at a key; of a list of tables the last one counts. -/
def at? : Table → Key → Option Table
  | t, [] => some t
  | t, name :: rest =>
    match t.get? name with
    | some (.table inner) => at? inner rest
    | some (.tables items) => items.getLast?.bind fun inner => at? inner rest
    | _ => none

/-- Changes the table at a key. -/
def change? (f : Table → Option Table) : Key → Table → Option Table
  | [], t => f t
  | name :: rest, t =>
    match t.get? name with
    | some (.table inner) => (change? f rest inner).map fun inner => t.set name (.table inner)
    | some (.tables items) => do
      let inner ← change? f rest (← items.getLast?)
      some (t.set name (.tables (items.dropLast ++ [inner])))
    | _ => none

end Table

/-- A document while it is read. -/
structure Builder where
  root : Table := []
  /-- The keys so far. -/
  keys : List Key := []
  /-- The keys of implied tables. -/
  implied : List Key := []
  /-- The keys that hold arrays. -/
  arrays : List Key := []

namespace Builder

/-- Marks a key as an implied table. -/
def imply (b : Builder) (key : Key) : Builder := { b with implied := key :: b.implied }

/-- Takes the mark of an implied table from a key. -/
def unimply (b : Builder) (key : Key) : Builder := { b with implied := b.implied.filter (· != key) }

/-- Notes whether a key holds an array. -/
def noteArray (b : Builder) (key : Key) (isArray : Bool) : Builder :=
  let others := b.arrays.filter (· != key)
  { b with arrays := if isArray then key :: others else others }

/-- The key under which it is noted whether a value is an array. A name without letters is noted
under its table. -/
def noteKey (place : Key) (name : Bytes) : Key :=
  if name.isEmpty && !place.isEmpty then place else place ++ [name]

/-- Gives a value to a name of the table at `place`. -/
def define (b : Builder) (place : Key) (name : Bytes) (v : Value) : Option Builder := do
  let t ← b.root.at? place
  let key := place ++ [name]
  let store (b : Builder) : Option Builder :=
    (b.root.change? (fun t => some (t.set name v)) place).map fun root => { b with root }
  if (t.get? name).isNone then store b
  else if List.contains b.arrays key then store (b.unimply key)
  else if List.contains b.implied key then some (b.unimply key)
  else none

/-- Makes the tables on the way from `here` that do not exist yet; they are implied. -/
def open? (b : Builder) (here : Key) : Key → Option Builder
  | [] => some b
  | name :: rest => do
    let t ← b.root.at? here
    match t.get? name with
    | none =>
      let root ← b.root.change? (fun t => some (t.set name (.table []))) here
      ({ b with root }.imply (here ++ [name])).open? (here ++ [name]) rest
    | some (.table _) | some (.tables _) => b.open? (here ++ [name]) rest
    | some _ => none

/-- Adds one more table to the list of tables at a name. -/
def addTable? (name : Bytes) (t : Table) : Option Table :=
  match t.get? name with
  | none => some (t.set name (.tables [[]]))
  | some (.tables items) => some (t.set name (.tables (items ++ [[]])))
  | some _ => none

/-- Goes to the table at a key, or to one more table in the list of tables there. -/
def enter (b : Builder) (key : Key) (isListed : Bool) : Option Builder := do
  let name ← key.getLast?
  let b ← b.open? [] key.dropLast
  if isListed then (b.root.change? (addTable? name) key.dropLast).map fun root => { b with root }
  else b.define key.dropLast name (.table [])

/-- Goes through the tables that the names before the last one of a key imply. The answer is the
place where the value belongs. -/
def enterAll (b : Builder) (place : Key) : Key → Option (Builder × Key)
  | [] => some (b, place)
  | name :: rest => do
    let b ← (b.imply (place ++ [name])).enter (place ++ [name]) false
    b.enterAll (place ++ [name]) rest

mutual

/-- The value of a literal for a name of the table at `place`. Tables on one line are built where
they belong. -/
def value? (b : Builder) (place : Key) (name : Bytes) (isItem : Bool) :
    Literal → Option (Builder × Value)
  | .text s => some (b, .text s)
  | .integer n => some (b, .integer n)
  | .boolean v => some (b, .boolean v)
  | .float | .moment => some (b, .other)
  | .array items => do
    let b ← (b.noteArray (noteKey place name) true).items? place name items
    some (b, .array)
  | .table fields => do
    let here := place ++ [name]
    let b ← (b.imply here).enter here isItem
    let (b, entries) ← b.fields? here fields
    some (b, .table entries)

/-- Goes through the items of an array. -/
def items? (b : Builder) (place : Key) (name : Bytes) : List Literal → Option Builder
  | [] => some b
  | item :: rest => do
    let (b, _) ← b.value? place name true item
    b.items? place name rest

/-- Goes through the fields of a table on one line. -/
def fields? (b : Builder) (place : Key) : List (Key × Literal) → Option (Builder × Table)
  | [] => some (b, [])
  | (key, literal) :: rest => do
    let name ← key.getLast?
    let (b, inner) ← b.enterAll place key.dropLast
    let b := { b with keys := b.keys ++ [inner ++ [name]] }
    let (b, v) ← b.value? inner name false literal
    let b ← b.define inner name v
    let b := b.noteArray (noteKey inner name) (v matches .array)
    let (b, entries) ← b.fields? place rest
    some (b, if (Table.get? entries name).isSome then entries else (name, v) :: entries)

end

/-- Adds an entry below the table at `place`. The answer is the place for the next entry. -/
def add (b : Builder) (place : Key) : Entry → Option (Builder × Key)
  | .header key isListed => do
    let b ← b.enter key isListed
    let b := b.noteArray key false
    some ({ b with keys := b.keys ++ [key] }, key)
  | .setting key literal => do
    let (b, _) ← b.fields? place [(key, literal)]
    some (b, place)

/-- Adds entries one after the other. -/
def addAll (b : Builder) (place : Key) : List Entry → Option Builder
  | [] => some b
  | entry :: rest => do
    let (b, place) ← b.add place entry
    b.addAll place rest

end Builder

/-- A document: its tables, and its keys in the order in which they are written. -/
structure Document where
  root : Table := []
  keys : List Key := []

/-- Reads a document. -/
def Document.ofText? (text : Bytes) : Option Document := do
  let b ← ({} : Builder).addAll [] (← readEntries? text)
  some ⟨b.root, b.keys⟩

/-! ### Writing keys -/

/-- The escapes of control codes in quotes that have a letter. -/
def letterEscapes : List (UInt8 × String) :=
  [(34, "\\\""), (92, "\\\\"), (8, "\\b"), (9, "\\t"), (10, "\\n"), (12, "\\f"), (13, "\\r")]

/-- A name of a key, in quotes if it needs them. -/
def nameText (name : Bytes) : Bytes :=
  if !name.isEmpty && name.all isBareByte then name
  else
    ([34] : Bytes) ++ name.flatMap (fun b =>
      match letterEscapes.lookup b with
      | some escape => escape.utf8
      | none => if b < 32 || b == 127 then "\\u".utf8 ++ Hex.fixed 4 b.toNat else [b]) ++ [34]

/-- A key as it is written. -/
def keyText (key : Key) : Bytes := Bytes.joinWith ".".utf8 (key.map nameText)

end TensorLang.Toml
