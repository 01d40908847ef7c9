import TensorLang.Text.Decimal

/-!
# Sets of code points as ranges

A property of code points is stored as sorted, disjoint ranges, written in hexadecimal as
`first-last` and separated by blanks. A range of one code point may be written as that number alone.
-/

namespace TensorLang

/-- Sorted, disjoint ranges of code points, both ends included. -/
structure CodeRanges where
  ranges : Array (Nat × Nat)
  deriving Inhabited

namespace CodeRanges

/-- The number spelled by hexadecimal digits; other bytes count as zero. -/
def hexValue (digits : Bytes) : Nat :=
  digits.foldl (fun n d => 16 * n + (Hex.digitValue? d).getD 0) 0

/-- Reads one `first-last` or a single number. -/
def readRange (item : Bytes) : Nat × Nat :=
  match Bytes.splitOn 45 item with
  | [one] => (hexValue one, hexValue one)
  | lo :: hi :: _ => (hexValue lo, hexValue hi)
  | [] => (0, 0)

/-- Reads a table written as lines of ranges. -/
def ofLines (lines : List String) : CodeRanges :=
  ⟨(lines.flatMap fun line =>
    ((Bytes.splitOn 32 line.utf8).filter (· ≠ [])).map readRange).toArray⟩

/-- Halves the index range `[lo, hi)` around the first range that ends at or after `code`. -/
def search (r : Array (Nat × Nat)) (code : Nat) : (fuel lo hi : Nat) → Nat
  | 0, lo, _ => lo
  | fuel + 1, lo, hi =>
    if lo < hi then
      let mid := (lo + hi) / 2
      match r[mid]? with
      | some range => if range.2 < code then search r code fuel (mid + 1) hi
                      else search r code fuel lo mid
      | none => lo
    else lo

/-- Is `code` in one of the ranges? -/
def contains (s : CodeRanges) (code : Nat) : Bool :=
  match s.ranges[search s.ranges code 32 0 s.ranges.size]? with
  | some range => range.1 ≤ code && code ≤ range.2
  | none => false

end CodeRanges

end TensorLang
