import TensorLang.Text.Utf8

/-!
# Blanks

The code points that count as white space between tokens, and the removal of blanks from the ends of
a text.
-/

namespace TensorLang.Text

/-- White space: tab to carriage return, the space, next line, no-break space, and the space
separators and line and paragraph separators beyond Latin-1. -/
def isBlank (code : Nat) : Bool :=
  (9 ≤ code && code ≤ 13) || code == 0x20 || code == 0x85 || code == 0xA0 || code == 0x1680 ||
    (0x2000 ≤ code && code ≤ 0x200A) || code == 0x2028 || code == 0x2029 || code == 0x202F ||
    code == 0x205F || code == 0x3000

/-- Does the text begin with a blank? This is irreducible, so that no one tries to compute it for an
unknown text. -/
@[irreducible]
def startsBlank (text : Bytes) : Bool := isBlank (Utf8.decode text).1

/-- How many bytes the blanks at the left end of a text take. -/
def blankLength : Bytes → Nat
  | [] => 0
  | a :: rest =>
    let more := (Utf8.decode (a :: rest)).2 - 1
    if startsBlank (a :: rest) then blankLength (rest.drop more) + more + 1 else 0
termination_by text => text.length
decreasing_by simp only [List.length_drop, List.length_cons]; omega

/-- The text without the blanks at its right end, which are taken off one by one. -/
def trimRight (text : Bytes) : Bytes :=
  let last := Utf8.decodeLast text
  if text ≠ [] ∧ isBlank last.1 then trimRight (text.take (text.length - 1 - (last.2 - 1)))
  else text
termination_by text.length
decreasing_by
  have hpos := List.length_pos_iff.mpr (‹text ≠ [] ∧ _›.1)
  simp only [List.length_take]
  omega

/-- The text without blanks at either end. -/
def trim (text : Bytes) : Bytes :=
  let pieces := (Utf8.split text).dropWhile fun piece => isBlank piece.1
  (pieces.reverse.dropWhile fun piece => isBlank piece.1).reverse.flatMap Prod.snd

/-- The runs of non-blank code points. -/
def fields (text : Bytes) : List Bytes :=
  let step (acc : List Bytes × Bytes) (piece : Nat × Bytes) : List Bytes × Bytes :=
    if isBlank piece.1 then (if acc.2.isEmpty then acc.1 else acc.1 ++ [acc.2], [])
    else (acc.1, acc.2 ++ piece.2)
  let (words, last) := (Utf8.split text).foldl step ([], [])
  if last.isEmpty then words else words ++ [last]

end TensorLang.Text
