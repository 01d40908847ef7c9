import TensorLang.Text.Normal

/-!
# Normalisation of source text

Before a text is read, a byte order mark at its beginning is removed, carriage returns before
newlines are removed, and the rest is brought into composed normal form. Each step leaves a flag if
it changed anything. All spans refer to the normalised text.
-/

namespace TensorLang.Source

/-- The bit that says that a text did not come from a file. -/
def virtualFlag : Nat := 1

/-- The bit that says that there was a byte order mark. -/
def markFlag : Nat := 2

/-- The bit that says that there were carriage returns before newlines. -/
def returnFlag : Nat := 4

/-- The bit that says that the text was not in normal form. -/
def normalFlag : Nat := 8

/-- Removes a byte order mark from the beginning. -/
def dropMark : Bytes → Bytes
  | 0xEF :: 0xBB :: 0xBF :: rest => rest
  | text => text

/-- Removes every carriage return that stands before a newline. -/
def dropReturns : Bytes → Bytes
  | [] => []
  | [b] => [b]
  | a :: b :: rest =>
    if a = 13 ∧ b = 10 then dropReturns (b :: rest) else a :: dropReturns (b :: rest)

/-- The normalised text and the flags of the steps that changed something. -/
def normalize (text : Bytes) : Bytes × Nat :=
  let unmarked := dropMark text
  let joined := dropReturns unmarked
  let normal := Text.nfc joined
  (normal, (if unmarked = text then 0 else markFlag) +
    (if joined = unmarked then 0 else returnFlag) + (if normal = joined then 0 else normalFlag))

end TensorLang.Source
