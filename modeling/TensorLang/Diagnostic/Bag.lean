import TensorLang.Diagnostic.Basic

/-!
# Bags of diagnostics

A bag keeps diagnostics in the order in which they were reported, up to a limit. A limit that is not
positive means none.

* `Bag.add` drops what comes after the bag is full and says so.
* `Bag.merge` keeps everything and raises the limit if it must.
* `Bag.sort` orders by place, then graver first, then by code, and leaves equals in report order.
-/

namespace TensorLang

/-- Diagnostics in report order, and how many may be added. -/
structure Bag where
  items : List Diagnostic
  limit : Int
  deriving DecidableEq, Repr

namespace Bag

/-- A bag with nothing in it. -/
def empty (limit : Int) : Bag := ⟨[], limit⟩

/-- Has the bag reached its limit? -/
def isFull (b : Bag) : Bool := 0 < b.limit && b.limit ≤ b.items.length

/-- Adds a diagnostic unless the bag is full, and says whether it was added. -/
def add (b : Bag) (d : Diagnostic) : Bag × Bool :=
  if b.isFull then (b, false) else ({ b with items := b.items ++ [d] }, true)

/-- Adds a diagnostic or drops it. -/
def push (b : Bag) (d : Diagnostic) : Bag := (b.add d).1

/-- Is there a diagnostic at least as grave as `sev`? -/
def any (b : Bag) (sev : Severity) : Bool :=
  b.items.any fun d => sev.number ≤ d.severity.number

/-- Is there an error? -/
def hasErrors (b : Bag) : Bool := b.any .error

/-- Is there a warning or an error? -/
def hasWarnings (b : Bag) : Bool := b.any .warning

/-- Appends all diagnostics of another bag; a limit rises so that nothing is lost. -/
def merge (b other : Bag) : Bag where
  items := b.items ++ other.items
  limit :=
    if 0 < b.limit then max b.limit (b.items.length + other.items.length : Nat) else b.limit

/-- Appends all diagnostics of another bag, if there is one. -/
def mergeAny (b : Bag) (other : Option Bag) : Bag := (other.map b.merge).getD b

/-- The numbers by which diagnostics are ordered. The severity counts downwards. -/
def sortKey (d : Diagnostic) : List Int :=
  [d.primary.file, d.primary.start, d.primary.stop, -(d.severity.number : Int), d.code.number]

/-- Lexicographic order of the keys. -/
def keyLe : List Int → List Int → Bool
  | [], _ => true
  | _ :: _, [] => false
  | a :: as, b :: bs => a < b || (a == b && keyLe as bs)

/-- Orders the diagnostics; those with equal keys stay in report order. -/
def sort (b : Bag) : Bag :=
  { b with items := b.items.mergeSort fun x y => keyLe (sortKey x) (sortKey y) }

/-- Keeps the diagnostics that pass a test. -/
def filter (b : Bag) (keep : Diagnostic → Bool) : Bag := { b with items := b.items.filter keep }

/-- Changes every diagnostic. -/
def transform (b : Bag) (f : Diagnostic → Diagnostic) : Bag := { b with items := b.items.map f }

end Bag

end TensorLang
