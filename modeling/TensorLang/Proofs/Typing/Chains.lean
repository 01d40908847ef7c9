import Mathlib.Tactic.Common
import TensorLang.Proofs.Typing.Batches
import TensorLang.Proofs.Typing.Origins

/-!
# Products of many factors

A product of several factors is grouped from the left, and its type is found by multiplying the
types one after the other. `Ty.Chained` says what all this comes to, without the types in between.
All factors have one element type. Scalars do not matter otherwise. The first two tensors are
batches of matrices of any rank; since their product has rank three, every later tensor has rank
three, with the same size of the batch, and as many rows as the tensor before it has columns.

`Expr.infer_chain` says that a product has a type exactly if its factors have such types, and that
otherwise there is one error: about the first factor that does not fit to those in front of it.
-/

namespace TensorLang

/-! ### Shapes in a chain -/

namespace Shape

/-- Tensors behind a product of batches of the given size: each has as many rows as the one before
it has columns. The numbers are the columns in front of the tensors and behind them. -/
inductive Continues (size : Int64) : Int64 → List Shape → Int64 → Prop where
  | nil {columns : Int64} : Continues size columns [] columns
  | cons {inner columns last : Int64} {shapes : List Shape}
      (h : Continues size columns shapes last) :
      Continues size inner ([size, inner, columns] :: shapes) last

/-- Tensors that can be multiplied, and the shape of their product. The batches of the first two
have equally many matrices modulo `2 ^ 64`, and the shape has this number as a word with sign. -/
inductive Chained : List Shape → Shape → Prop where
  | one (shape : Shape) : Chained [shape] shape
  | many {ls rs lbatch rbatch : Shape} {rows columns last : Int64} {shapes : List Shape}
      (haligned : Aligned ls rs lbatch rbatch rows columns)
      (hcount : lbatch.count ≡ rbatch.count [ZMOD 2 ^ 64])
      (hrest : Continues (Int64.ofInt lbatch.count) columns shapes last) :
      Chained (ls :: rs :: shapes) [Int64.ofInt lbatch.count, rows, last]

variable {size inner last : Int64} {s shape : Shape} {shapes : List Shape}

theorem continues_concat_iff :
    Continues size inner (shapes ++ [s]) last ↔
      ∃ columns, Continues size inner shapes columns ∧ s = [size, columns, last] := by
  constructor
  · intro h
    induction shapes generalizing inner with
    | nil => cases h with | cons h => cases h; exact ⟨inner, .nil, rfl⟩
    | cons s' shapes ih =>
      cases h with
      | cons h =>
        obtain ⟨columns, hshapes, hs⟩ := ih h
        exact ⟨columns, .cons hshapes, hs⟩
  · rintro ⟨columns, h, rfl⟩
    induction h with
    | nil => exact .cons .nil
    | cons _ ih => exact .cons ih

/-- A product of two batches has rank three, and so has whatever it is multiplied with. -/
theorem matmul?_triple_eq_some_iff {rows : Int64} :
    matmul? [size, rows, inner] s = some shape ↔
      ∃ columns, s = [size, inner, columns] ∧ shape = [size, rows, columns] := by
  have hone (d : Int64) : numElements [d] = d := Int64.one_mul d
  constructor
  · intro h
    obtain ⟨lbatch, rbatch, rows', columns, ⟨⟨inner', hl, rfl⟩, hlen⟩, hsize, rfl⟩ :=
      matmul?_eq_some_iff.mp h
    have hl : [size] ++ [rows, inner] = lbatch ++ [rows', inner'] := hl
    obtain ⟨rfl, htail⟩ := List.append_inj' hl rfl
    cases htail
    obtain ⟨d, rfl⟩ := List.length_eq_one_iff.mp hlen.symm
    rw [hone, hone] at hsize
    rw [hone]
    exact ⟨columns, by rw [hsize]; rfl, rfl⟩
  · rintro ⟨columns, rfl, rfl⟩
    have haligned : Aligned [size, rows, inner] [size, inner, columns] [size] [size] rows columns :=
      ⟨⟨inner, rfl, rfl⟩, rfl⟩
    exact haligned.matmul?_eq_some_iff.mpr ⟨rfl, by rw [hone]⟩

/-- One more tensor can be put behind a chain exactly if it can be multiplied to the product. -/
theorem chained_concat_iff (hne : shapes ≠ []) :
    Chained (shapes ++ [s]) shape ↔
      ∃ front, Chained shapes front ∧ matmul? front s = some shape := by
  match shapes, hne with
  | [first], _ =>
    -- the second tensor: any rank is possible
    constructor
    · intro h
      cases h with
      | many haligned hcount hrest =>
        cases hrest
        rw [← numElements_eq]
        exact ⟨first, .one first,
          haligned.matmul?_eq_some_iff.mpr ⟨numElements_eq_iff.mpr hcount, rfl⟩⟩
    · rintro ⟨_, ⟨⟩, h⟩
      obtain ⟨lbatch, rbatch, rows, columns, haligned, hsize, rfl⟩ := matmul?_eq_some_iff.mp h
      rw [numElements_eq]
      exact .many haligned (numElements_eq_iff.mp hsize) .nil
  | first :: second :: rest, _ =>
    -- a later tensor: the product has rank three already
    constructor
    · intro h
      cases h with
      | many haligned hcount hrest =>
        obtain ⟨columns, hfront, rfl⟩ := continues_concat_iff.mp hrest
        exact ⟨_, .many haligned hcount hfront, matmul?_triple_eq_some_iff.mpr ⟨_, rfl, rfl⟩⟩
    · rintro ⟨front, hfront, h⟩
      cases hfront with
      | many haligned hcount hrest =>
        obtain ⟨columns, rfl, rfl⟩ := matmul?_triple_eq_some_iff.mp h
        exact .many haligned hcount (continues_concat_iff.mpr ⟨_, hrest, rfl⟩)

theorem chained_singleton_iff : Chained [s] shape ↔ shape = s := by
  constructor
  · rintro ⟨⟩
    rfl
  · rintro rfl
    exact .one _

end Shape

/-! ### Types in a chain -/

namespace Ty

/-- The shape of a tensor. -/
def shape? : Ty → Option Shape
  | tensor shape _ => some shape
  | scalar _ => none

/-- Values that can be multiplied, and the type of their product. -/
inductive Chained (tys : List Ty) : Ty → Prop where
  | scalar {dt : DType} (hdtype : ∀ ty ∈ tys, ty.dtype = dt) (hshapes : tys.filterMap shape? = []) :
      Chained tys (.scalar dt)
  | tensor {shape : Shape} {dt : DType} (hdtype : ∀ ty ∈ tys, ty.dtype = dt)
      (hshapes : Shape.Chained (tys.filterMap shape?) shape) : Chained tys (.tensor shape dt)

variable {tys : List Ty} {τ ty : Ty} {shape : Shape} {dt : DType}

theorem chained_scalar_iff :
    Chained tys (.scalar dt) ↔ (∀ ty ∈ tys, ty.dtype = dt) ∧ tys.filterMap shape? = [] := by
  constructor
  · rintro ⟨⟩
    exact ⟨‹_›, ‹_›⟩
  · rintro ⟨hdtype, hshapes⟩
    exact .scalar hdtype hshapes

theorem chained_tensor_iff :
    Chained tys (.tensor shape dt) ↔
      (∀ ty ∈ tys, ty.dtype = dt) ∧ Shape.Chained (tys.filterMap shape?) shape := by
  constructor
  · rintro ⟨⟩
    exact ⟨‹_›, ‹_›⟩
  · rintro ⟨hdtype, hshapes⟩
    exact .tensor hdtype hshapes

theorem multiply_scalar_eq_ok_iff {lspan rspan : Span} {front : Ty} :
    front.multiply lspan (.scalar dt) rspan = .ok ty ↔ front.dtype = dt ∧ ty = front := by
  cases front with
  | tensor shape ld =>
    simp only [multiply, dtype]
    split_ifs with h <;> simp [h, eq_comm]
  | scalar ld =>
    simp only [multiply, dtype]
    split_ifs with h <;> simp [h, eq_comm]

theorem scalar_multiply_tensor_eq_ok_iff {lspan rspan : Span} {ld : DType} :
    (scalar ld).multiply lspan (.tensor shape dt) rspan = .ok ty ↔
      ld = dt ∧ ty = .tensor shape dt := by
  simp only [multiply]
  split_ifs with h <;> simp [h, eq_comm]

/-- A scalar only has to have the right element type. -/
theorem chained_concat_scalar_iff :
    Chained (tys ++ [scalar dt]) ty ↔ Chained tys ty ∧ ty.dtype = dt := by
  have hshapes : (tys ++ [scalar dt]).filterMap shape? = tys.filterMap shape? := by simp [shape?]
  cases ty with
  | scalar =>
    rw [chained_scalar_iff, chained_scalar_iff, hshapes, List.forall_mem_append,
      List.forall_mem_singleton, and_right_comm, dtype, dtype, @eq_comm _ dt]
  | tensor =>
    rw [chained_tensor_iff, chained_tensor_iff, hshapes, List.forall_mem_append,
      List.forall_mem_singleton, and_right_comm, dtype, dtype, @eq_comm _ dt]

theorem chained_concat_tensor_iff :
    Chained (tys ++ [tensor shape dt]) ty ↔
      (∀ τ ∈ tys, τ.dtype = dt) ∧ ∃ whole, ty = tensor whole dt ∧
        Shape.Chained (tys.filterMap shape? ++ [shape]) whole := by
  have hshapes : (tys ++ [tensor shape dt]).filterMap shape? = tys.filterMap shape? ++ [shape] := by
    simp [shape?]
  cases ty with
  | scalar => simp [chained_scalar_iff, hshapes]
  | tensor whole td =>
    rw [chained_tensor_iff, hshapes, List.forall_mem_append, List.forall_mem_singleton]
    constructor
    · rintro ⟨⟨hdtype, rfl⟩, hwhole⟩
      exact ⟨hdtype, whole, rfl, hwhole⟩
    · rintro ⟨hdtype, _, ⟨⟩, hwhole⟩
      exact ⟨⟨hdtype, rfl⟩, hwhole⟩

/-- **One more factor**: types are in a chain exactly if the last one can be multiplied to the
product of the others. -/
theorem chained_concat_iff (lspan rspan : Span) :
    Chained (tys ++ [τ]) ty ↔
      ∃ front, Chained tys front ∧ front.multiply lspan τ rspan = .ok ty := by
  cases τ with
  | scalar dt =>
    simp only [chained_concat_scalar_iff, multiply_scalar_eq_ok_iff]
    constructor
    · rintro ⟨h, hdtype⟩
      exact ⟨ty, h, hdtype, rfl⟩
    · rintro ⟨_, h, hdtype, rfl⟩
      exact ⟨h, hdtype⟩
  | tensor shape dt =>
    rw [chained_concat_tensor_iff]
    constructor
    · rintro ⟨hdtype, whole, rfl, hwhole⟩
      by_cases hscalars : tys.filterMap shape? = []
      · -- the first tensor
        rw [hscalars, List.nil_append, Shape.chained_singleton_iff] at hwhole
        exact ⟨.scalar dt, .scalar hdtype hscalars,
          scalar_multiply_tensor_eq_ok_iff.mpr ⟨rfl, by rw [hwhole]⟩⟩
      · obtain ⟨front, hfront, hmatmul⟩ := (Shape.chained_concat_iff hscalars).mp hwhole
        exact ⟨.tensor front dt, .tensor hdtype hfront,
          multiply_tensor_eq_ok_iff.mpr ⟨rfl, whole, hmatmul, rfl⟩⟩
    · rintro ⟨front, hfront, hmultiply⟩
      cases hfront with
      | scalar hdtype hscalars =>
        obtain ⟨rfl, rfl⟩ := scalar_multiply_tensor_eq_ok_iff.mp hmultiply
        refine ⟨hdtype, shape, rfl, ?_⟩
        rw [hscalars]
        exact .one shape
      | tensor hdtype hshapes =>
        obtain ⟨rfl, whole, hmatmul, rfl⟩ := multiply_tensor_eq_ok_iff.mp hmultiply
        have hne : tys.filterMap shape? ≠ [] := by
          intro hnil
          rw [hnil] at hshapes
          cases hshapes
        exact ⟨hdtype, whole, rfl, (Shape.chained_concat_iff hne).mpr ⟨_, hshapes, hmatmul⟩⟩

/-- Nothing is asked of a single factor. -/
theorem chained_singleton_iff : Chained [τ] ty ↔ ty = τ := by
  cases τ with
  | scalar dt =>
    rw [← List.nil_append [scalar dt], chained_concat_scalar_iff]
    constructor
    · rintro ⟨h, hdtype⟩
      cases h with
      | scalar => rw [← hdtype, dtype]
      | tensor _ hshapes => cases hshapes
    · rintro rfl
      exact ⟨.scalar nofun rfl, rfl⟩
  | tensor shape dt =>
    rw [← List.nil_append [tensor shape dt], chained_concat_tensor_iff]
    constructor
    · rintro ⟨-, whole, rfl, hwhole⟩
      rw [Shape.chained_singleton_iff.mp hwhole]
    · rintro rfl
      exact ⟨nofun, shape, rfl, .one shape⟩

/-- The error that two types cannot be multiplied, at the places of the factors. -/
inductive Mismatch (lspan rspan : Span) : Ty → Ty → TypeError → Prop where
  | dtypes {lt rt : Ty} (h : lt.dtype ≠ rt.dtype) :
      Mismatch lspan rspan lt rt (.incompatibleDTypes lt.dtype rt.dtype lspan rspan)
  /-- Scaling names the scalar's element type first. -/
  | scaled {ls : Shape} {ld rd : DType} (h : ld ≠ rd) :
      Mismatch lspan rspan (tensor ls ld) (scalar rd) (.incompatibleDTypes rd ld lspan rspan)
  | shapes {ls rs : Shape} {dt : DType} (h : Shape.matmul? ls rs = none) :
      Mismatch lspan rspan (tensor ls dt) (tensor rs dt) (.cannotMultiply ls rs lspan rspan)

theorem mismatch_of_multiply_eq_error {lt rt : Ty} {lspan rspan : Span} {err : TypeError}
    (h : lt.multiply lspan rt rspan = .error err) : Mismatch lspan rspan lt rt err := by
  cases lt with
  | tensor ls ld =>
    cases rt with
    | tensor rs rd =>
      simp only [multiply] at h
      split_ifs at h with hdtype
      · subst hdtype
        split at h
        · cases h
        · cases h
          exact .shapes ‹_›
      · cases h
        exact .dtypes hdtype
    | scalar rd =>
      simp only [multiply] at h
      split_ifs at h with hdtype
      cases h
      exact .scaled (Ne.symm hdtype)
  | scalar ld =>
    cases rt with
    | tensor rs rd | scalar rd =>
      simp only [multiply] at h
      split_ifs at h with hdtype
      cases h
      exact .dtypes hdtype

end Ty

/-! ### Factors -/

namespace Expr

/-- What can be a factor: a literal, or a name that is bound to a value with a type. -/
inductive Factor (t : SymbolTable) : Expr → Ty → Prop where
  | fill (span : Span) (value : Spanned Int32) (shape : List (Spanned Int64))
      (dtype : Option (Spanned DType)) :
      Factor t (.fill span value shape dtype) (.tensor (shape.map Spanned.value) (fillDType dtype))
  | range (span : Span) (first last : Spanned Int32) (step : Option (Spanned Int32)) :
      Factor t (.range span first last step)
        (.tensor [rangeLength first.value last.value (stepOf step)] DType.ofRange)
  | var (span : Span) {name : Bytes} {ty : Ty} {definition : Span}
      (h : t.lookup name = some ⟨some ty, definition⟩) : Factor t (.var span name) ty

/-- A product of factors with these types, grouped from the left. -/
inductive Chain (t : SymbolTable) : Expr → List (Expr × Ty) → Prop where
  | one {e : Expr} {ty : Ty} (h : Factor t e ty) : Chain t e [(e, ty)]
  | mul {span opSpan : Span} {lhs rhs : Expr} {factors : List (Expr × Ty)} {ty : Ty}
      (hlhs : Chain t lhs factors) (hrhs : Factor t rhs ty) :
      Chain t (.binary span ⟨.mul, opSpan⟩ lhs rhs) (factors ++ [(rhs, ty)])

variable {t : SymbolTable} {e : Expr} {ty : Ty} {factors : List (Expr × Ty)} {err : TypeError}

theorem Factor.infer (h : Factor t e ty) :
    (e.infer t).ty = some ty ∧ Finding.errors (e.infer t).findings = [] := by
  cases h with
  | fill => exact ⟨rfl, rfl⟩
  | range =>
    refine ⟨rfl, ?_⟩
    rw [Expr.infer]
    dsimp only
    split <;> rfl
  | var span h => simp [Expr.infer, h, Finding.errors]

/-- A product has the type that its factors have in a chain. -/
theorem Chain.infer_eq_some_iff (h : Chain t e factors) :
    (e.infer t).ty = some ty ↔ Ty.Chained (factors.map Prod.snd) ty := by
  induction h generalizing ty with
  | one h =>
    rw [h.infer.1, List.map_singleton, Ty.chained_singleton_iff, Option.some.injEq, eq_comm]
  | @mul span opSpan lhs rhs factors rt hlhs hrhs ih =>
    rw [List.map_append, List.map_singleton,
      Ty.chained_concat_iff (lhs.operandSpan t) (rhs.operandSpan t)]
    have hr := hrhs.infer.1
    constructor
    · intro h
      obtain ⟨lt, rt', hl, hr', hmultiply⟩ := infer_binary_eq_some h
      cases hr.symm.trans hr'
      exact ⟨lt, ih.mp hl, hmultiply⟩
    · rintro ⟨lt, hlt, hmultiply⟩
      simp [Expr.infer, ih.mpr hlt, hr, hmultiply]

/-- The factor is the first that does not fit: those before it are in a chain, and their product
`lhs` has a type that cannot be multiplied with the factor's. -/
structure Misfit (t : SymbolTable) (before : List (Expr × Ty)) (lhs : Expr) (factor : Expr × Ty)
    (err : TypeError) : Prop where
  chain : Chain t lhs before
  mismatch : ∃ ty, Ty.Chained (before.map Prod.snd) ty ∧
    Ty.Mismatch (lhs.operandSpan t) (factor.1.operandSpan t) ty factor.2 err
  not_chained : ∀ ty, ¬ Ty.Chained ((before ++ [factor]).map Prod.snd) ty

/-- A product has a type and no error, or no type and one error about a factor that does not fit. -/
theorem Chain.infer_cases (h : Chain t e factors) :
    (∃ ty, (e.infer t).ty = some ty ∧ Finding.errors (e.infer t).findings = []) ∨
    (e.infer t).ty = none ∧ ∃ err, Finding.errors (e.infer t).findings = [err] ∧
      ∃ before factor after lhs, factors = before ++ factor :: after ∧ lhs ∈ e.nodes ∧
        Misfit t before lhs factor err := by
  induction h with
  | one h => exact .inl ⟨_, h.infer⟩
  | @mul span opSpan lhs rhs factors rt hlhs hrhs ih =>
    obtain ⟨hr, hrerrors⟩ := hrhs.infer
    have hchain : Chain t (binary span ⟨.mul, opSpan⟩ lhs rhs) _ := .mul hlhs hrhs
    have hnodes : lhs.nodes ⊆ (binary span ⟨.mul, opSpan⟩ lhs rhs).nodes := by simp [nodes]
    rcases infer_binary_cases t span ⟨.mul, opSpan⟩ lhs rhs with
      ⟨hl, hty, hfindings⟩ | ⟨hr', -⟩ | ⟨hop, -⟩ | ⟨lt, rt', hl, hr', hcases⟩
    · -- the error is one of the left operand, and the factor is not looked at
      rcases ih with ⟨ty, hsome, -⟩ |
        ⟨-, err, herr, before, factor, after, lhs', rfl, hmem, hmisfit⟩
      · cases hl.symm.trans hsome
      · refine .inr ⟨hty, err, by rw [hfindings, herr], before, factor, after ++ [(rhs, rt)], lhs',
          ?_, hnodes hmem, hmisfit⟩
        simp
    · cases hr.symm.trans hr'
    · cases hop rfl
    · cases hr.symm.trans hr'
      have hlerrors : Finding.errors (lhs.infer t).findings = [] := by
        rcases ih with ⟨ty, -, herrors⟩ | ⟨hnone, -⟩
        · exact herrors
        · cases hl.symm.trans hnone
      split at hcases
      · -- the factor fits
        refine .inl ⟨_, hcases.1, ?_⟩
        rw [hcases.2, Finding.errors_append, hlerrors, hrerrors, List.append_nil]
      · rename_i err hmultiply
        obtain ⟨hty, hfindings⟩ := hcases
        refine .inr ⟨hty, err, ?_, factors, (rhs, rt), [], lhs, rfl,
          hnodes (mem_nodes_of_infer hl), hlhs, ?_, ?_⟩
        · rw [hfindings, Finding.errors_append, Finding.errors_append, hlerrors, hrerrors]
          rfl
        · exact ⟨lt, hlhs.infer_eq_some_iff.mp hl, Ty.mismatch_of_multiply_eq_error hmultiply⟩
        · intro ty htyped
          cases hty.symm.trans (hchain.infer_eq_some_iff.mpr htyped)

/-- **Types of products.** A product of any number of factors has a type and no error exactly if the
types of the factors are in a chain, and it has the type of the chain. Otherwise it has no type and
one error, about the first factor that does not fit to those before it. -/
theorem infer_chain (h : Chain t e factors) :
    (∀ ty, (e.infer t).ty = some ty ∧ Finding.errors (e.infer t).findings = [] ↔
      Ty.Chained (factors.map Prod.snd) ty) ∧
    ((∀ ty, ¬ Ty.Chained (factors.map Prod.snd) ty) →
      (e.infer t).ty = none ∧ ∃ err, Finding.errors (e.infer t).findings = [err] ∧
        ∃ before factor after lhs, factors = before ++ factor :: after ∧ lhs ∈ e.nodes ∧
          Misfit t before lhs factor err) := by
  rcases h.infer_cases with ⟨ty, hty, herrors⟩ | hmisfit
  · refine ⟨fun ty' => ?_, fun hnone => absurd (h.infer_eq_some_iff.mp hty) (hnone ty)⟩
    rw [← h.infer_eq_some_iff]
    exact and_iff_left herrors
  · refine ⟨fun ty => ?_, fun _ => hmisfit⟩
    rw [← h.infer_eq_some_iff, hmisfit.1]
    simp

/-- A scalar and three tensors of ranks two, two and three are multiplied. -/
theorem infer_chain_scaled :
    let place : Span := ⟨0, 0, 1⟩
    let t : SymbolTable := ⟨[("s".utf8, ⟨some (.scalar .float32), place⟩),
      ("a".utf8, ⟨some (.tensor [2, 3] .float32), place⟩),
      ("b".utf8, ⟨some (.tensor [3, 4] .float32), place⟩),
      ("c".utf8, ⟨some (.tensor [1, 4, 5] .float32), place⟩)]⟩
    let name (text : Bytes) : Expr := .var place text
    let mul (lhs rhs : Expr) : Expr := .binary place ⟨.mul, place⟩ lhs rhs
    let e := mul (mul (mul (name "s".utf8) (name "a".utf8)) (name "b".utf8)) (name "c".utf8)
    let factors : List (Expr × Ty) := [(name "s".utf8, .scalar .float32),
      (name "a".utf8, .tensor [2, 3] .float32), (name "b".utf8, .tensor [3, 4] .float32),
      (name "c".utf8, .tensor [1, 4, 5] .float32)]
    Chain t e factors ∧ (e.infer t).ty = some (.tensor [1, 2, 5] .float32) ∧
      Finding.errors (e.infer t).findings = [] := by
  intro place t name mul e factors
  have hfactor (text : Bytes) (ty : Ty) (h : t.lookup text = some ⟨some ty, place⟩) :
      Factor t (name text) ty := .var place h
  have hchain : Chain t e factors :=
    .mul (.mul (.mul (.one (hfactor _ _ (by decide))) (hfactor _ _ (by decide)))
      (hfactor _ _ (by decide))) (hfactor _ _ (by decide))
  have haligned : Shape.Aligned [2, 3] [3, 4] [] [] 2 4 := ⟨⟨3, rfl, rfl⟩, rfl⟩
  have hshapes : Shape.Chained [[2, 3], [3, 4], [1, 4, 5]] [1, 2, 5] :=
    .many haligned rfl (.cons .nil)
  exact ⟨hchain, ((infer_chain hchain).1 _).mpr (.tensor (by decide) hshapes)⟩

end Expr

end TensorLang
