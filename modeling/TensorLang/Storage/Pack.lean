import TensorLang.Text.Bytes

/-!
# Packed values

A compact binary format for records: each value begins with a byte that tells its kind and, for
short ones, its length. Numbers keep the width of their type, however small they are.

* `Pack.encode` writes a value.
* `Pack.record` is a record with named fields.
-/

namespace TensorLang.Storage

/-- Values. `word n x` is the number `x` in `n` bytes. -/
inductive Pack where
  | nil
  | bool (b : Bool)
  | word (size : Nat) (value : Nat)
  | text (s : Bytes)
  | binary (s : Bytes)
  | array (items : List Pack)
  | map (entries : List (Pack × Pack))
  deriving Inhabited

namespace Pack

/-- The number `n` in `size` bytes, the highest first. -/
def bigEndian : (size : Nat) → (n : Nat) → Bytes
  | 0, _ => []
  | size + 1, n => UInt8.ofNat (n / Nat.pow 256 size) :: bigEndian size (n % Nat.pow 256 size)

/-- Reads a number, the highest byte first. -/
def ofBigEndian (bytes : Bytes) : Nat := bytes.foldl (fun n b => n * 256 + b.toNat) 0

/-- The head of a value with a length: short lengths share the byte of the kind; longer ones follow
one of the given bytes, each paired with the count of bytes for the length. -/
def head (short : Option (Nat × Nat)) (wide : List (Nat × Nat)) (length : Nat) : Bytes :=
  match short with
  | some (base, limit) =>
    if length < limit then [UInt8.ofNat (base + length)] else headWide wide
  | none => headWide wide
where
  /-- The first width that holds the length. -/
  headWide : List (Nat × Nat) → Bytes
    | [] => []
    | (mark, size) :: rest =>
      if length < Nat.pow 256 size then UInt8.ofNat mark :: bigEndian size length else headWide rest

/-- The marks of numbers by the count of their bytes. -/
def wordMark : Nat → UInt8
  | 1 => 0xCC
  | 2 => 0xCD
  | 4 => 0xCE
  | _ => 0xCF

mutual

/-- Writes a value. -/
def encode : Pack → Bytes
  | nil => [0xC0]
  | bool b => [if b then 0xC3 else 0xC2]
  | word size value => wordMark size :: bigEndian size value
  | text s => head (some (0xA0, 32)) [(0xD9, 1), (0xDA, 2), (0xDB, 4)] s.length ++ s
  | binary s => head none [(0xC4, 1), (0xC5, 2), (0xC6, 4)] s.length ++ s
  | array items => head (some (0x90, 16)) [(0xDC, 2), (0xDD, 4)] items.length ++ encodeItems items
  | map entries => head (some (0x80, 16)) [(0xDE, 2), (0xDF, 4)] entries.length ++
      encodeEntries entries

/-- Writes the items of an array. -/
def encodeItems : List Pack → Bytes
  | [] => []
  | item :: rest => item.encode ++ encodeItems rest

/-- Writes the entries of a map. -/
def encodeEntries : List (Pack × Pack) → Bytes
  | [] => []
  | (key, value) :: rest => key.encode ++ value.encode ++ encodeEntries rest

end

/-- A record with named fields. -/
def record (fields : List (String × Pack)) : Pack :=
  map (fields.map fun (name, value) => (text name.utf8, value))

end Pack

end TensorLang.Storage
