import TensorLang.Text.Decimal

/-!
# Spans

A span is a half-open range of byte offsets in a numbered file. Offsets are natural numbers; they
are kept in 32-bit words, so no span can be made with an offset from `2 ^ 32` on (`Span.fits`), and
a file holds fewer bytes than that.

* `Span.cover` is the smallest range that includes both, for spans of one file.
* `Spanned` pairs a value with where it was written.
-/

namespace TensorLang

/-- The bytes from `start` up to but not including `stop` of file number `file`. -/
structure Span where
  file : Nat := 0
  start : Nat := 0
  stop : Nat := 0
  deriving DecidableEq, Inhabited, Repr

namespace Span

/-- The span that says nothing: no bytes at the beginning of file 0. -/
def none : Span := {}

/-- Do both offsets fit into 32-bit words? -/
def fits (s : Span) : Bool := decide (s.start < UInt32.size ∧ s.stop < UInt32.size)

/-- Does the span hold no bytes? -/
def isEmpty (s : Span) : Bool := s.start == s.stop

/-- `file:start-stop`. -/
def text (s : Span) : Bytes :=
  Decimal.ofNat s.file ++ ":".utf8 ++ Decimal.ofNat s.start ++ "-".utf8 ++ Decimal.ofNat s.stop

/-- The smallest span that includes both; spans of different files are not merged, and the first one
stands. -/
def cover (s other : Span) : Span :=
  if s.file = other.file then
    { s with start := min other.start s.start, stop := max other.stop s.stop }
  else s

end Span

/-- A value and the span it was written at. -/
structure Spanned (α : Type) where
  value : α
  span : Span
  deriving DecidableEq, Inhabited, Repr

namespace Spanned

/-- Changes the value and keeps the span. -/
def map {α β : Type} (f : α → β) (x : Spanned α) : Spanned β := ⟨f x.value, x.span⟩

/-- `value@span`, with the value already written out. -/
def text (x : Spanned Bytes) : Bytes := x.value ++ "@".utf8 ++ x.span.text

end Spanned

end TensorLang
