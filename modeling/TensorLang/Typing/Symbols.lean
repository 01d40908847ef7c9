import TensorLang.Source.Span
import TensorLang.Ty

/-!
# Symbol tables

What is known about the names bound so far: the type of the value and the span of the right-hand
side that defined it. There is one scope, the latest binding of a name counts, and none is removed.
-/

namespace TensorLang

/-- What is known about a name. -/
structure SymbolEntry where
  /-- The type of the value, if it has one. -/
  ty : Option Ty
  /-- Where the value was written. -/
  span : Span
  deriving DecidableEq, Inhabited, Repr

/-- Names and what is known about them, each name once. -/
structure SymbolTable where
  entries : List (Bytes × SymbolEntry)
  deriving DecidableEq, Inhabited, Repr

namespace SymbolTable

/-- Nothing is bound. -/
def empty : SymbolTable := ⟨[]⟩

/-- What is known about `name`. -/
def lookup (t : SymbolTable) (name : Bytes) : Option SymbolEntry := t.entries.lookup name

/-- Binds `name`, replacing what was known about it. -/
def bind (t : SymbolTable) (name : Bytes) (ty : Option Ty) (span : Span) : SymbolTable :=
  ⟨(name, ⟨ty, span⟩) :: t.entries.filter fun e => e.1 != name⟩

/-- The number of bound names. -/
def size (t : SymbolTable) : Nat := t.entries.length

/-- The bound names in lexicographic order. -/
def names (t : SymbolTable) : List Bytes := Bytes.sort (t.entries.map Prod.fst)

/-- After binding `name`, looking it up gives the new entry. -/
@[simp]
theorem lookup_bind_self (t : SymbolTable) (name : Bytes) (ty : Option Ty) (span : Span) :
    (t.bind name ty span).lookup name = some ⟨ty, span⟩ := by
  simp [bind, lookup]

end SymbolTable

end TensorLang
