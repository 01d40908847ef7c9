/-!
# Byte strings

Source files need not be valid UTF-8 and every offset in the library counts bytes, so text is a
list of bytes. A string literal enters through `String.utf8`; nothing below it looks at characters.

* `Bytes.joinWith` puts a separator between the parts.
* `Bytes.lt` is the lexicographic order by byte value, the order in which names are listed.
* `Bytes.splitLines` cuts at newline bytes, and joining the pieces again gives the text back.
-/

/-- The bytes of a string in UTF-8. -/
def String.utf8 (s : String) : List UInt8 := s.toUTF8.data.toList

namespace TensorLang

/-- Text as a sequence of bytes. -/
abbrev Bytes := List UInt8

namespace Bytes

/-- The parts in order, with `sep` between neighbours. -/
def joinWith (sep : Bytes) : List Bytes → Bytes
  | [] => []
  | [part] => part
  | part :: rest => part ++ sep ++ joinWith sep rest

/-- `n` copies of `text`, one after the other. -/
def replicate (n : Nat) (text : Bytes) : Bytes := (List.replicate n text).flatten

/-- `n` blanks. -/
def blanks (n : Nat) : Bytes := List.replicate n 32

/-- `text` followed by blanks up to a length of `n` bytes; longer text is left alone. -/
def padRight (n : Nat) (text : Bytes) : Bytes := text ++ blanks (n - text.length)

/-- `text` preceded by blanks up to a length of `n` bytes; longer text is left alone. -/
def padLeft (n : Nat) (text : Bytes) : Bytes := blanks (n - text.length) ++ text

/-- Lexicographic order by byte value; a proper beginning comes first. -/
def lt : Bytes → Bytes → Bool
  | _, [] => false
  | [], _ :: _ => true
  | a :: as, b :: bs => a < b || (a == b && lt as bs)

/-- `a` comes before `b` or equals it. -/
def le (a b : Bytes) : Bool := !lt b a

/-- Sorts byte strings, keeping the order of equal ones. -/
def sort (items : List Bytes) : List Bytes := items.mergeSort le

/-- The rest of `text` after `start`, if it begins with `start`. -/
def dropPrefix? : (start text : Bytes) → Option Bytes
  | [], text => some text
  | _ :: _, [] => none
  | a :: as, b :: bs => if a == b then dropPrefix? as bs else none

/-- Does `text` begin with `start`? -/
def startsWith (text start : Bytes) : Bool := (dropPrefix? start text).isSome

/-- Does `text` end with `tail`? -/
def endsWith (text tail : Bytes) : Bool := startsWith text.reverse tail.reverse

/-- The number of bytes before the first occurrence of `part`. -/
def find? (part : Bytes) : Bytes → Option Nat
  | [] => if part.isEmpty then some 0 else none
  | b :: bs => if startsWith (b :: bs) part then some 0 else (find? part bs).map (· + 1)

/-- Does `part` occur in `text`? -/
def contains (text part : Bytes) : Bool := (find? part text).isSome

/-- Cuts `text` at every byte equal to `sep`; there is always at least one piece. -/
def splitOn (sep : UInt8) : Bytes → List Bytes
  | [] => [[]]
  | b :: bs =>
    match splitOn sep bs with
    | [] => [[b]]
    | piece :: pieces => if b == sep then [] :: piece :: pieces else (b :: piece) :: pieces

/-- Cuts at newline bytes. -/
def splitLines (text : Bytes) : List Bytes := splitOn 10 text

/-- Removes the bytes of `set` from the right end. -/
def trimRight (set : UInt8 → Bool) (text : Bytes) : Bytes :=
  (text.reverse.dropWhile set).reverse

/-- Replaces every occurrence of the byte `old` by `new`. -/
def replaceByte (old : UInt8) (new : Bytes) (text : Bytes) : Bytes :=
  text.flatMap fun b => if b == old then new else [b]

/-- ASCII letters in lower case, all other bytes unchanged. -/
def toLowerAscii (text : Bytes) : Bytes :=
  text.map fun b => if 65 ≤ b && b ≤ 90 then b + 32 else b

theorem splitOn_ne_nil (sep : UInt8) (text : Bytes) : splitOn sep text ≠ [] := by
  cases text with
  | nil => simp [splitOn]
  | cons b bs =>
    unfold splitOn
    split
    · simp
    · split <;> simp

end Bytes

end TensorLang
