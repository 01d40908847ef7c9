import TensorLang.Proofs.Syntax.Derivation

/-!
# Trees that can be written

A tree can be put together in ways that no text denotes: with products as right operands, with
operators other than `*`, with negative numbers, with names that are no names, with element types
that have no spelling and with gaps. `Program.Writable` excludes these, and nothing else: what the
grammar derives is writable, and a writable tree has a text (`Grammar.spells_program`).
-/

namespace TensorLang

/-- The element types that have a spelling. -/
def DType.known : List DType := [float32, float64, int32, int64, uint8, bool]

namespace Expr

/-- Does the expression consist of two operands? -/
def isBinary : Expr → Bool
  | binary .. => true
  | _ => false

/-- The expressions that can be written. -/
def Writable : Expr → Prop
  | fill _ value shape dtype =>
    0 ≤ value.value ∧ (∀ d ∈ shape, 0 ≤ d.value) ∧ ∀ dt ∈ dtype, dt.value ∈ DType.known
  | range _ first last step =>
    0 ≤ first.value ∧ 0 ≤ last.value ∧ ∀ s ∈ step, 0 ≤ s.value
  | var _ name => Grammar.IsName name
  | binary _ op lhs rhs =>
    op.value = .mul ∧ rhs.isBinary = false ∧ lhs.Writable ∧ rhs.Writable
  | missing _ => False

instance decidableWritable : DecidablePred Writable
  | fill _ value shape dtype => inferInstanceAs (Decidable
      (0 ≤ value.value ∧ (∀ d ∈ shape, 0 ≤ d.value) ∧ ∀ dt ∈ dtype, dt.value ∈ DType.known))
  | range _ first last step => inferInstanceAs (Decidable
      (0 ≤ first.value ∧ 0 ≤ last.value ∧ ∀ s ∈ step, 0 ≤ s.value))
  | var _ name => inferInstanceAs (Decidable (Grammar.IsName name))
  | binary _ op lhs rhs =>
    have := decidableWritable lhs
    have := decidableWritable rhs
    inferInstanceAs (Decidable
      (op.value = .mul ∧ rhs.isBinary = false ∧ lhs.Writable ∧ rhs.Writable))
  | missing _ => inferInstanceAs (Decidable False)

end Expr

/-- The statements that can be written. -/
def Stmt.Writable : Stmt → Prop
  | eval _ value => value.Writable
  | assign _ name value => Grammar.IsName name.value ∧ value.Writable
  | missing _ => False

instance : DecidablePred Stmt.Writable
  | .eval _ value => inferInstanceAs (Decidable value.Writable)
  | .assign _ name value =>
    inferInstanceAs (Decidable (Grammar.IsName name.value ∧ value.Writable))
  | .missing _ => inferInstanceAs (Decidable False)

/-- The programs that can be written. -/
def Program.Writable (p : Program) : Prop := ∀ s ∈ p.stmts, s.Writable

instance (p : Program) : Decidable p.Writable :=
  inferInstanceAs (Decidable (∀ s ∈ p.stmts, s.Writable))

namespace Grammar

/-! ### What is derived is writable -/

variable {l : Lexeme} {ls : List Lexeme} {e : Expr}

theorem Int32Literal.nonneg {n : Spanned Int32} (h : Int32Literal l n) : 0 ≤ n.value := by
  cases h with
  | mk hlt =>
    rw [Int32.le_iff_toInt_le, Int32.toInt_ofNat_of_lt hlt]
    exact Int.natCast_nonneg _

theorem Dimension.nonneg {d : Spanned Int64} (h : Dimension l d) : 0 ≤ d.value := by
  cases h with
  | mk hlt =>
    rw [Int64.le_iff_toInt_le, Int64.toInt_ofNat_of_lt hlt]
    exact Int.natCast_nonneg _

theorem Annotation.known {dt : Spanned DType} (h : Annotation l dt) :
    dt.value ∈ DType.known := by
  cases h with
  | mk hmem =>
    have hall : ∀ entry ∈ DType.spellings, entry.2 ∈ DType.known := by decide
    exact hall _ hmem

/-- What holds for every tree of a rule holds for all trees of its repetition. -/
theorem Repeated.forall_mem {α : Type} {rule : List Lexeme → α → Prop} {P : α → Prop}
    {as : List α} (hrule : ∀ ⦃ls a⦄, rule ls a → P a) (h : Repeated rule ls as) :
    ∀ a ∈ as, P a := by
  induction h with
  | nil => simp
  | cons hfirst _ ih =>
    intro a ha
    rcases List.mem_cons.mp ha with rfl | ha
    · exact hrule hfirst
    · exact ih a ha

theorem Dims.nonneg {ds : List (Spanned Int64)} (h : Dims ls ds) : ∀ d ∈ ds, 0 ≤ d.value := by
  cases h with
  | none => simp
  | some hfirst hmore =>
    have hrest := hmore.forall_mem fun _ _ h => by cases h with | mk h => exact h.nonneg
    intro d hd
    rcases List.mem_cons.mp hd with rfl | hd
    · exact hfirst.nonneg
    · exact hrest d hd

theorem Atom.writable (h : Atom ls e) : e.Writable ∧ e.isBinary = false := by
  cases h with
  | fill h =>
    cases h with
    | plain hdims hvalue => exact ⟨⟨hvalue.nonneg, hdims.nonneg, by simp⟩, rfl⟩
    | typed hdims hvalue hann =>
      exact ⟨⟨hvalue.nonneg, hdims.nonneg, by simpa using hann.known⟩, rfl⟩
  | range h =>
    cases h with
    | plain hlo hhi => exact ⟨⟨hlo.nonneg, hhi.nonneg, by simp⟩, rfl⟩
    | stepped hlo hhi hstep => exact ⟨⟨hlo.nonneg, hhi.nonneg, by simpa using hstep.nonneg⟩, rfl⟩
  | @name _ hname => exact ⟨hname, rfl⟩

theorem Product.writable (h : Product ls e) : e.Writable := by
  induction h with
  | atom hatom => exact hatom.writable.1
  | mul _ hatom ih => exact ⟨rfl, hatom.writable.2, ih, hatom.writable.1⟩

theorem Statement.writable {s : Stmt} (h : Statement ls s) : s.Writable := by
  cases h with
  | eval hexpr => exact hexpr.writable
  | @assign _ hname _ _ _ _ _ hexpr => exact ⟨hname, hexpr.writable⟩

/-- **The statements of a sentence are writable.** -/
theorem Sentence.writable {file : Nat} {text : Bytes} {stmts : List Stmt}
    (h : Sentence file text stmts) : ∀ s ∈ stmts, s.Writable := by
  obtain ⟨ls, -, hls⟩ := h
  exact hls.forall_mem fun _ _ h => h.writable

end Grammar

end TensorLang
