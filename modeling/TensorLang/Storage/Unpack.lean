import TensorLang.Storage.Pack

/-!
# Reading packed values

Packed values are read into records that exist already: a field that is not written keeps its value,
and one that is written twice is read twice, the second time into what the first time left. Fields
with unknown names are skipped.

* `Unpack.word`, `Unpack.text` and `Unpack.binary` read single values.
* `Unpack.record` reads the fields of a record, by name from a map or by place from an array.
* `Unpack.slots` reads a list.
-/

namespace TensorLang.Storage

/-- Reads from the beginning of a byte string, or fails. -/
abbrev Unpack := StateT Bytes Option

/-- A list that can be read again: all items that were ever read, of which only the first `count`
belong to it. -/
structure Slots (α : Type) where
  items : List α
  count : Nat
  deriving DecidableEq, Inhabited, Repr

/-- The items that belong to the list. -/
def Slots.toList {α : Type} (s : Slots α) : List α := s.items.take s.count

namespace Unpack

/-- Reads `n` bytes. -/
def bytes (n : Nat) : Unpack Bytes := fun text =>
  if text.length < n then none else some (text.take n, text.drop n)

/-- Reads the byte that tells the kind of a value. -/
def kind : Unpack Nat := fun text =>
  match text with
  | [] => none
  | b :: rest => some (b.toNat, rest)

/-- Reads a number of `size` bytes. -/
def number (size : Nat) : Unpack Nat := return Pack.ofBigEndian (← bytes size)

/-- Is it the kind of a value that is nothing? -/
def isNil (kind : Nat) : Bool := kind == 0xC0

/-- Reads the length that a kind announces. Lengths of at most `limit` belong to the kinds from
`base` on; greater ones follow the kinds of `wide`, each with the number of their bytes. -/
def length (base limit : Nat) (wide : List (Nat × Nat)) (kind : Nat) : Unpack Nat :=
  if base ≤ kind && kind ≤ base + limit then pure (kind - base)
  else
    match wide.lookup kind with
    | some size => number size
    | none => failure

/-- Reads the length of a text or byte string. -/
def textLength (kind : Nat) : Unpack Nat :=
  length 0xA0 31 [(0xD9, 1), (0xDA, 2), (0xDB, 4), (0xC4, 1), (0xC5, 2), (0xC6, 4)] kind

/-- Reads the length of an array. -/
def arrayLength (kind : Nat) : Unpack Nat := length 0x90 15 [(0xDC, 2), (0xDD, 4)] kind

/-- Reads the length of a map. -/
def mapLength (kind : Nat) : Unpack Nat := length 0x80 15 [(0xDE, 2), (0xDF, 4)] kind

/-- Is it the kind of a map? -/
def isMap (kind : Nat) : Bool := (0x80 ≤ kind && kind < 0x90) || kind == 0xDE || kind == 0xDF

/-- Is it the kind of an array? -/
def isArray (kind : Nat) : Bool := (0x90 ≤ kind && kind < 0xA0) || kind == 0xDC || kind == 0xDD

/-- Is it the kind of a text or byte string? -/
def isText (kind : Nat) : Bool :=
  (0xA0 ≤ kind && kind < 0xC0) || (0xD9 ≤ kind && kind < 0xDC) || (0xC4 ≤ kind && kind < 0xC7)

/-! ### Single values -/

/-- The numbers of bytes of signed and unsigned numbers by their kinds. -/
def wordSizes : List (Nat × Nat) := [(0xCC, 1), (0xCD, 2), (0xCE, 4), (0xCF, 8)]

/-- The numbers of bytes of signed numbers by their kinds. -/
def signedSizes : List (Nat × Nat) := [(0xD0, 1), (0xD1, 2), (0xD2, 4), (0xD3, 8)]

/-- A number of `size` bytes with its sign spread over eight bytes. -/
def spreadSign (size value : Nat) : Nat :=
  if value < Nat.pow 2 (8 * size - 1) then value else UInt64.size - Nat.pow 256 size + value

/-- Reads a number and keeps its lowest `size` bytes. Nothing counts as zero. -/
def word (size : Nat) : Unpack Nat := do
  let k ← kind
  let value ← if isNil k then pure 0
    else if k < 0x80 then pure k
    else if 0xE0 ≤ k then pure (spreadSign 1 k)
    else
      match wordSizes.lookup k, signedSizes.lookup k with
      | some n, _ => number n
      | none, some n => spreadSign n <$> number n
      | none, none => failure
  pure (value % Nat.pow 256 size)

/-- Reads a byte string, or nothing. -/
def binary : Unpack (Option Bytes) := do
  let k ← kind
  if isNil k then pure none else return some (← bytes (← textLength k))

/-- Reads a text; nothing counts as an empty one. -/
def text : Unpack Bytes := return (← binary).getD []

/-- Reads a byte string over the beginning of another one of fixed length. One that is too long is
refused. -/
def overlay (old : Bytes) : Unpack Bytes := do
  let k ← kind
  if isNil k then pure old
  else
    let n ← textLength k
    if old.length < n then failure else return (← bytes n) ++ old.drop n

/-! ### Skipping -/

/-- Does something `n` times. -/
def times (step : Unpack Unit) : (n : Nat) → Unpack Unit
  | 0 => pure ()
  | n + 1 => do
    step
    times step n

/-- The numbers of bytes behind kinds of fixed size. -/
def fixedSizes : List (Nat × Nat) :=
  [(0xC0, 0), (0xC2, 0), (0xC3, 0), (0xCA, 4), (0xCB, 8), (0xD4, 2), (0xD5, 3), (0xD6, 5),
    (0xD7, 9), (0xD8, 17)] ++ wordSizes ++ signedSizes

/-- The numbers of bytes of the lengths of values with a type of their own. -/
def typedSizes : List (Nat × Nat) := [(0xC7, 1), (0xC8, 2), (0xC9, 4)]

/-- Skips a value that is nested at most `depth` times. -/
def skipFrom : (depth : Nat) → Unpack Unit
  | 0 => failure
  | depth + 1 => do
    let k ← kind
    if k < 0x80 || 0xE0 ≤ k then pure ()
    else if isMap k then times (skipFrom depth) (2 * (← mapLength k))
    else if isArray k then times (skipFrom depth) (← arrayLength k)
    else if isText k then
      let _ ← bytes (← textLength k)
    else
      match fixedSizes.lookup k, typedSizes.lookup k with
      | some n, _ =>
        let _ ← bytes n
      | none, some n =>
        let _ ← bytes ((← number n) + 1)
      | none, none => failure

/-- Skips a value. It is not nested deeper than it has bytes. -/
def skip : Unpack Unit := do skipFrom ((← get).length + 1)

/-! ### Records and lists -/

/-- The fields of a record: their names, and how each is read into the record. -/
abbrev Fields (α : Type) := List (String × (α → Unpack α))

/-- Reads `n` fields with their names. -/
def entries {α : Type} (fields : Fields α) : (n : Nat) → α → Unpack α
  | 0, x => pure x
  | n + 1, x => do
    let name ← text
    match fields.find? fun field => field.1.utf8 == name with
    | some field =>
      let y ← field.2 x
      entries fields n y
    | none =>
      skip
      entries fields n x

/-- Reads all fields in order. -/
def inOrder {α : Type} : Fields α → α → Unpack α
  | [], x => pure x
  | field :: rest, x => do
    let y ← field.2 x
    inOrder rest y

/-- Reads the fields of a record. Nothing and an empty array count as the `empty` record; any other
array has all fields. -/
def record {α : Type} (fields : Fields α) (empty x : α) : Unpack α := do
  let k ← kind
  if isNil k then pure empty
  else if isMap k then entries fields (← mapLength k) x
  else
    let n ← arrayLength k
    if n = 0 then pure empty
    else if n = fields.length then inOrder fields x
    else failure

/-- Reads `n` items over old ones; where there is no old one, over the `empty` one. -/
def itemsOver {α : Type} (item : α → Unpack α) (empty : α) : (n : Nat) → List α → Unpack (List α)
  | 0, old => pure old
  | n + 1, old => do
    let x ← item (old.head?.getD empty)
    return x :: (← itemsOver item empty n old.tail)

/-- Reads a list over an old one, or nothing. -/
def slots {α : Type} (item : α → Unpack α) (empty : α) (old : Option (Slots α)) :
    Unpack (Option (Slots α)) := do
  let k ← kind
  if isNil k then pure none
  else
    let n ← arrayLength k
    let items ← itemsOver item empty n ((old.map Slots.items).getD [])
    pure (some ⟨items, n⟩)

/-- Reads the value at the beginning of a byte string; what follows it does not matter. -/
def run? {α : Type} (reader : Unpack α) (text : Bytes) : Option α :=
  (StateT.run reader text).map Prod.fst

end Unpack

end TensorLang.Storage
