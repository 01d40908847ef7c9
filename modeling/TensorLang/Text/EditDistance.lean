import TensorLang.Text.Bytes

/-!
# Edit distance

How many bytes must be changed, added or taken away to make one text out of another.
-/

namespace TensorLang.Text

/-- Continues a row of distances. `above` is the row for one byte less, from the place before on;
`left` is the last distance of this row. -/
def distanceRow (c : UInt8) (left : Nat) : Bytes → (above : List Nat) → List Nat
  | b :: rest, corner :: up :: above =>
    let here := if c == b then corner else 1 + min (min up left) corner
    here :: distanceRow c here rest (up :: above)
  | _, _ => []

/-- The distances of a text from all beginnings of `word`, the shortest first. -/
def distances (word : Bytes) (text : Bytes) : List Nat :=
  text.foldl (fun row c =>
    let first := row.head?.getD 0 + 1
    first :: distanceRow c first word row) (List.range (word.length + 1))

/-- The edit distance. -/
def editDistance (text word : Bytes) : Nat := (distances word text).getLast?.getD 0

end TensorLang.Text
