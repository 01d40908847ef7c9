import Mathlib.Algebra.Order.BigOperators.GroupWithZero.List
import Mathlib.Algebra.Order.Ring.Int
import Mathlib.Data.Int.ModEq
import Mathlib.Tactic.Common
import TensorLang.Typing.Infer

/-!
# Sizes of batches

Two tensors are multiplied as batches of matrices. The batches are the axes before the last two, and
both sides must have equally many matrices; how many they are is a product of 64-bit words, which
wraps. So the sizes are compared modulo `2 ^ 64`, and the size that goes into the type of the
product is the remainder that a word with sign can hold.

`Ty.multiply_tensor_exact` says what this comes to. The comparison and the size are exact for all
batches of less than `2 ^ 63` matrices, and then no dimension becomes negative. Beyond that, batches
of different sizes can be multiplied, and a size can be negative (`Ty.multiply_tensor_wraps`).
-/

namespace TensorLang

namespace Shape

/-- The number of elements as an integer. -/
def count (shape : Shape) : Int := (shape.map Int64.toInt).prod

theorem count_cons (d : Int64) (shape : Shape) : count (d :: shape) = d.toInt * count shape := by
  rw [count, List.map_cons, List.prod_cons, count]

/-- The number that the checker compares is the integer product, as a word. -/
theorem numElements_eq (shape : Shape) : shape.numElements = Int64.ofInt shape.count := by
  have hfold : ∀ (s : Shape) (n : Int64), s.foldl (· * ·) n = n * Int64.ofInt s.count := by
    intro s
    induction s with
    | nil => intro n; simp [count]
    | cons d s ih =>
      intro n
      rw [List.foldl_cons, ih, count_cons, Int64.ofInt_mul, Int64.ofInt_toInt, Int64.mul_assoc]
  rw [numElements, hfold, Int64.one_mul]

/-- A word is a size only up to multiples of `2 ^ 64`. -/
theorem numElements_eq_iff {s t : Shape} :
    s.numElements = t.numElements ↔ s.count ≡ t.count [ZMOD 2 ^ 64] := by
  rw [numElements_eq, numElements_eq, Int64.ofInt_eq_iff_bmod_eq_toInt, Int64.toInt_ofInt]
  constructor
  · intro h
    calc s.count % 2 ^ 64 = s.count.bmod (2 ^ 64) % 2 ^ 64 := Int.bmod_emod.symm
      _ = t.count.bmod Int64.size % 2 ^ 64 := by rw [h]
      _ = t.count % 2 ^ 64 := Int.bmod_emod
  · intro h
    have hmod : s.count % (2 ^ 64 : Nat) = t.count % (2 ^ 64 : Nat) := h
    calc s.count.bmod (2 ^ 64) = (s.count % (2 ^ 64 : Nat)).bmod (2 ^ 64) := (Int.emod_bmod ..).symm
      _ = (t.count % (2 ^ 64 : Nat)).bmod (2 ^ 64) := by rw [hmod]
      _ = t.count.bmod Int64.size := Int.emod_bmod ..

theorem count_nonneg {s : Shape} (h : ∀ d ∈ s, 0 ≤ d) : 0 ≤ s.count := by
  refine List.prod_nonneg fun n hn => ?_
  obtain ⟨d, hd, rfl⟩ := List.mem_map.mp hn
  exact Int64.le_iff_toInt_le.mp (h d hd)

/-- A size that fits is the word itself. -/
theorem toInt_numElements {s : Shape} (h : ∀ d ∈ s, 0 ≤ d) (hfits : s.count < 2 ^ 63) :
    s.numElements.toInt = s.count := by
  have hnonneg := count_nonneg h
  rw [numElements_eq, Int64.toInt_ofInt]
  refine Int.bmod_eq_of_le_mul_two ?_ ?_
  · simp only [Int64.size]
    omega
  · simp only [Int64.size]
    omega

/-- Sizes that fit are compared exactly. -/
theorem numElements_eq_iff_of_lt {s t : Shape} (hs : ∀ d ∈ s, 0 ≤ d) (ht : ∀ d ∈ t, 0 ≤ d)
    (hsfits : s.count < 2 ^ 63) (htfits : t.count < 2 ^ 63) :
    s.numElements = t.numElements ↔ s.count = t.count := by
  rw [← Int64.toInt_inj, toInt_numElements hs hsfits, toInt_numElements ht htfits]

/-- The shapes belong to batches of matrices that can be multiplied: both have one rank of at least
two, and the last axis on the left is as long as the last but one on the right. The batches need not
have the same size. -/
structure Aligned (ls rs lbatch rbatch : Shape) (rows columns : Int64) : Prop where
  exists_inner : ∃ inner, ls = lbatch ++ [rows, inner] ∧ rs = rbatch ++ [inner, columns]
  length_eq : lbatch.length = rbatch.length

/-- Of two aligned shapes only the sizes of the batches matter. -/
theorem Aligned.matmul?_eq_some_iff {ls rs lbatch rbatch shape : Shape} {rows columns : Int64}
    (h : Aligned ls rs lbatch rbatch rows columns) :
    matmul? ls rs = some shape ↔
      lbatch.numElements = rbatch.numElements ∧ shape = [lbatch.numElements, rows, columns] := by
  obtain ⟨⟨inner, rfl, rfl⟩, hlen⟩ := h
  simp [matmul?, hlen, eq_comm]

/-- Shapes that are multiplied are aligned. -/
theorem exists_aligned_of_matmul? {ls rs shape : Shape} (h : matmul? ls rs = some shape) :
    ∃ lbatch rbatch rows columns, Aligned ls rs lbatch rbatch rows columns := by
  unfold matmul? at h
  split at h
  · rename_i inner rows lbatch columns inner' rbatch hl hr
    split_ifs at h with hcond
    obtain ⟨hlen, rfl, -⟩ := hcond
    have hls : ls = lbatch.reverse ++ [rows, inner] := by
      rw [← ls.reverse_reverse, hl]
      simp
    have hrs : rs = rbatch.reverse ++ [inner, columns] := by
      rw [← rs.reverse_reverse, hr]
      simp
    exact ⟨lbatch.reverse, rbatch.reverse, rows, columns, ⟨inner, hls, hrs⟩, by simpa using hlen⟩
  · cases h

theorem matmul?_eq_some_iff {ls rs shape : Shape} :
    matmul? ls rs = some shape ↔ ∃ lbatch rbatch rows columns,
      Aligned ls rs lbatch rbatch rows columns ∧ lbatch.numElements = rbatch.numElements ∧
      shape = [lbatch.numElements, rows, columns] := by
  constructor
  · intro h
    obtain ⟨lbatch, rbatch, rows, columns, haligned⟩ := exists_aligned_of_matmul? h
    exact ⟨lbatch, rbatch, rows, columns, haligned, haligned.matmul?_eq_some_iff.mp h⟩
  · rintro ⟨lbatch, rbatch, rows, columns, haligned, h⟩
    exact haligned.matmul?_eq_some_iff.mpr h

end Shape

namespace Ty

open Shape (Aligned)

theorem multiply_tensor_eq_ok_iff {ls rs : Shape} {ld rd : DType} {lspan rspan : Span} {ty : Ty} :
    (tensor ls ld).multiply lspan (tensor rs rd) rspan = .ok ty ↔
      ld = rd ∧ ∃ shape, Shape.matmul? ls rs = some shape ∧ ty = tensor shape ld := by
  simp only [multiply]
  split_ifs with hdtype
  · cases Shape.matmul? ls rs with
    | none => simp
    | some shape => simp [hdtype, eq_comm]
  · simp [hdtype]

/-- **Matrix products are exact up to overflow.** The product of two tensors has a type exactly if
the element types are the same, the shapes are those of batches of matrices that can be multiplied,
and the sizes of the batches agree modulo `2 ^ 64`; the type has this size, as a word with sign. If
both sizes are less than `2 ^ 63`, the sizes must be the same, the type has exactly this size, and
no dimension is negative. -/
theorem multiply_tensor_exact (ls rs : Shape) (ld rd : DType) (lspan rspan : Span)
    (hl : ∀ d ∈ ls, 0 ≤ d) (hr : ∀ d ∈ rs, 0 ≤ d) :
    (∀ ty, (tensor ls ld).multiply lspan (tensor rs rd) rspan = .ok ty ↔
      ld = rd ∧ ∃ lbatch rbatch rows columns, Aligned ls rs lbatch rbatch rows columns ∧
        lbatch.count ≡ rbatch.count [ZMOD 2 ^ 64] ∧
        ty = tensor [Int64.ofInt lbatch.count, rows, columns] ld) ∧
    ∀ lbatch rbatch rows columns, Aligned ls rs lbatch rbatch rows columns →
      lbatch.count < 2 ^ 63 → rbatch.count < 2 ^ 63 →
      ∀ ty, (tensor ls ld).multiply lspan (tensor rs rd) rspan = .ok ty ↔
        ld = rd ∧ lbatch.count = rbatch.count ∧ ∃ size : Int64, size.toInt = lbatch.count ∧
          0 ≤ size ∧ 0 ≤ rows ∧ 0 ≤ columns ∧ ty = tensor [size, rows, columns] ld := by
  refine ⟨fun ty => ?_, fun lbatch rbatch rows columns haligned hlfits hrfits ty => ?_⟩
  · rw [multiply_tensor_eq_ok_iff]
    refine and_congr_right fun _ => ⟨?_, ?_⟩
    · rintro ⟨shape, hshape, rfl⟩
      obtain ⟨lbatch, rbatch, rows, columns, haligned, hsize, rfl⟩ :=
        Shape.matmul?_eq_some_iff.mp hshape
      rw [Shape.numElements_eq lbatch]
      exact ⟨lbatch, rbatch, rows, columns, haligned, Shape.numElements_eq_iff.mp hsize, rfl⟩
    · rintro ⟨lbatch, rbatch, rows, columns, haligned, hcount, rfl⟩
      have hsize := Shape.numElements_eq_iff.mpr hcount
      refine ⟨_, haligned.matmul?_eq_some_iff.mpr ⟨hsize, rfl⟩, ?_⟩
      rw [Shape.numElements_eq lbatch]
  · -- the dimensions are among those of the two shapes
    obtain ⟨inner, hls, hrs⟩ := haligned.exists_inner
    have hlbatch : ∀ d ∈ lbatch, 0 ≤ d := fun d hd => hl d (by simp [hls, hd])
    have hrbatch : ∀ d ∈ rbatch, 0 ≤ d := fun d hd => hr d (by simp [hrs, hd])
    have hrows : 0 ≤ rows := hl rows (by simp [hls])
    have hcolumns : 0 ≤ columns := hr columns (by simp [hrs])
    have hsize := Shape.toInt_numElements hlbatch hlfits
    have hnonneg : 0 ≤ lbatch.numElements :=
      Int64.le_iff_toInt_le.mpr (hsize ▸ Shape.count_nonneg hlbatch)
    simp only [multiply_tensor_eq_ok_iff, haligned.matmul?_eq_some_iff,
      Shape.numElements_eq_iff_of_lt hlbatch hrbatch hlfits hrfits]
    refine and_congr_right fun _ => ⟨?_, ?_⟩
    · rintro ⟨_, ⟨hcount, rfl⟩, rfl⟩
      exact ⟨hcount, _, hsize, hnonneg, hrows, hcolumns, rfl⟩
    · rintro ⟨hcount, size, hword, -, -, -, rfl⟩
      have hword : size = lbatch.numElements := Int64.toInt_inj.mp (hword.trans hsize.symm)
      exact ⟨_, ⟨hcount, rfl⟩, by rw [hword]⟩

/-- Two by three matrices meet six by one: what counts is that both sides have six of them. -/
theorem multiply_tensor_exact_batches :
    let ls : Shape := [2, 3, 4, 5]
    let rs : Shape := [6, 1, 5, 7]
    (∀ d ∈ ls, 0 ≤ d) ∧ (∀ d ∈ rs, 0 ≤ d) ∧
    (tensor ls .float32).multiply ⟨0, 0, 4⟩ (tensor rs .float32) ⟨0, 5, 9⟩ =
      .ok (tensor [6, 4, 7] .float32) := by
  intro ls rs
  have hl : ∀ d ∈ ls, 0 ≤ d := by simp [ls]
  have hr : ∀ d ∈ rs, 0 ≤ d := by simp [rs]
  have haligned : Aligned ls rs [2, 3] [6, 1] 4 7 := ⟨⟨5, rfl, rfl⟩, rfl⟩
  have hexact := (multiply_tensor_exact ls rs .float32 .float32 ⟨0, 0, 4⟩ ⟨0, 5, 9⟩ hl hr).2
    _ _ _ _ haligned (by decide) (by decide) (tensor [6, 4, 7] .float32)
  refine ⟨hl, hr, hexact.mpr ⟨rfl, by decide, 6, ?_⟩⟩
  decide

/-- Batches of `2 ^ 64` and of no matrices have sizes that are one word, so they are multiplied.
A batch of `3037000500 ^ 2` matrices has a size that is negative as a word, and so is the first
dimension of its square. -/
theorem multiply_tensor_wraps :
    let huge : Shape := [4294967296, 4294967296]
    let empty : Shape := [0, 7]
    let square : Shape := [3037000500, 3037000500]
    (huge.count = 2 ^ 64 ∧ empty.count = 0 ∧
      (tensor (huge ++ [1, 1]) .float32).multiply ⟨0, 0, 4⟩
        (tensor (empty ++ [1, 1]) .float32) ⟨0, 5, 9⟩ = .ok (tensor [0, 1, 1] .float32)) ∧
    ∃ size < 0, (tensor (square ++ [1, 1]) .float32).multiply ⟨0, 0, 4⟩
      (tensor (square ++ [1, 1]) .float32) ⟨0, 5, 9⟩ = .ok (tensor [size, 1, 1] .float32) := by
  refine ⟨⟨by decide, by decide, by decide⟩, -9223372036709301616, by decide, by decide⟩

end Ty

end TensorLang
