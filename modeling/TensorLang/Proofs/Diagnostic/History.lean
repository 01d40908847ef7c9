import Mathlib.Data.Prod.Lex
import TensorLang.Proofs.Diagnostic.Bag

/-!
# Bags over time

Whatever is done to a bag, one thing after the other, it never holds more than its limit, and the
limit never falls: adding stops at the limit, merging raises it first, and nothing else makes a bag
longer. One change keeps that (`Bag.Fits.apply`, `Bag.limit_le_apply`), so every history does
(`Bag.run_keeps`).

Sorting compares by rank (`Diagnostic.rank`), which is a linear order, and it is stable: the
diagnostics of one rank are the same list before and after (`Bag.filter_rank_sort`).
-/

namespace TensorLang

/-! ### The order of diagnostics -/

/-- By what diagnostics are sorted: their file, the beginning and the end of their span, the
severity with the graver one first, and the code. -/
def Diagnostic.rank (d : Diagnostic) : ℕ ×ₗ ℕ ×ₗ ℕ ×ₗ ℕᵒᵈ ×ₗ ℕ :=
  toLex (d.primary.file, toLex (d.primary.start, toLex (d.primary.stop,
    toLex (OrderDual.toDual d.severity.number, d.code.number))))

namespace Bag

theorem keyLe_sortKey (x y : Diagnostic) :
    keyLe (sortKey x) (sortKey y) = decide (x.rank ≤ y.rank) := by
  rw [Bool.eq_iff_iff, decide_eq_true_iff]
  simp only [keyLe, sortKey, Diagnostic.rank, Prod.Lex.toLex_le_toLex, Nat.le_iff_lt_or_eq,
    EmbeddingLike.apply_eq_iff_eq, OrderDual.toDual_lt_toDual, Int.ofNat_lt, Int.natCast_inj,
    Int.neg_lt_neg_iff, Int.neg_inj, Bool.or_eq_true, Bool.and_eq_true, Bool.and_true,
    decide_eq_true_eq, beq_iff_eq]

theorem sort_items (b : Bag) :
    b.sort.items = b.items.mergeSort fun x y => decide (x.rank ≤ y.rank) := by
  simp only [sort, keyLe_sortKey]

theorem rankLe_trans (x y z : Diagnostic) (hxy : decide (x.rank ≤ y.rank) = true)
    (hyz : decide (y.rank ≤ z.rank) = true) : decide (x.rank ≤ z.rank) = true :=
  decide_eq_true (le_trans (of_decide_eq_true hxy) (of_decide_eq_true hyz))

theorem rankLe_total (x y : Diagnostic) :
    (decide (x.rank ≤ y.rank) || decide (y.rank ≤ x.rank)) = true := by
  rw [Bool.or_eq_true, decide_eq_true_iff, decide_eq_true_iff]
  exact le_total x.rank y.rank

theorem perm_sort (b : Bag) : b.sort.items.Perm b.items := List.mergeSort_perm ..

theorem pairwise_rank_sort (b : Bag) :
    b.sort.items.Pairwise fun x y => x.rank ≤ y.rank := by
  rw [sort_items]
  exact (List.pairwise_mergeSort rankLe_trans rankLe_total b.items).imp of_decide_eq_true

/-- **Sorting is stable**: the diagnostics of one rank stay in the order of their reports. -/
theorem filter_rank_sort (b : Bag) (d : Diagnostic) :
    b.sort.items.filter (fun e => e.rank = d.rank) =
      b.items.filter fun e => e.rank = d.rank := by
  have hsame : (b.items.filter fun e => e.rank = d.rank).Pairwise
      fun x y => decide (x.rank ≤ y.rank) = true := by
    refine List.pairwise_of_forall_mem_list fun x hx y hy => decide_eq_true ?_
    rw [of_decide_eq_true (List.mem_filter.mp hx).2, of_decide_eq_true (List.mem_filter.mp hy).2]
  have hkept : (b.items.filter fun e => e.rank = d.rank).Sublist b.sort.items := by
    rw [sort_items]
    exact List.sublist_mergeSort rankLe_trans rankLe_total hsame List.filter_sublist
  -- a sublist that has as many diagnostics of the rank as there are has all of them
  have hall := hkept.filter fun e => decide (e.rank = d.rank)
  simp only [List.filter_filter, Bool.and_self] at hall
  exact (hall.eq_of_length ((perm_sort b).filter _).length_eq.symm).symm

theorem sort_sort (b : Bag) : b.sort.sort = b.sort := by
  have hsorted : b.sort.sort.items = b.sort.items := by
    rw [sort_items]
    exact List.mergeSort_of_pairwise ((pairwise_rank_sort b).imp decide_eq_true)
  exact congrArg (Bag.mk · b.limit) hsorted

/-! ### Adding -/

theorem isFull_iff (b : Bag) : b.isFull = true ↔ 0 < b.limit ∧ b.limit ≤ b.items.length := by
  rw [isFull, Bool.and_eq_true, decide_eq_true_iff, decide_eq_true_iff]

theorem add_of_isFull {b : Bag} (h : b.isFull = true) (d : Diagnostic) : b.add d = (b, false) :=
  if_pos h

theorem add_of_not_isFull {b : Bag} (h : ¬ b.isFull = true) (d : Diagnostic) :
    b.add d = ({ b with items := b.items ++ [d] }, true) :=
  if_neg h

/-- What adding answers is what it has done. -/
theorem add_answer (b : Bag) (d : Diagnostic) :
    ((b.add d).2 = true ↔ (b.add d).1.items = b.items ++ [d]) ∧
      ((b.add d).2 = false ↔ 0 < b.limit ∧ b.limit ≤ b.items.length) ∧
      ((b.add d).2 = false → (b.add d).1 = b) := by
  rw [← isFull_iff]
  by_cases h : b.isFull = true
  · rw [add_of_isFull h]
    simp [h]
  · rw [add_of_not_isFull h]
    simp [h]

/-! ### Histories -/

/-- What can be done to a bag. There may be nothing to merge. -/
inductive Change where
  | add (d : Diagnostic)
  | merge (other : Option Bag)
  | sort
  | filter (keep : Diagnostic → Bool)
  | transform (f : Diagnostic → Diagnostic)

/-- The bag after a change. -/
def apply (b : Bag) : Change → Bag
  | .add d => b.push d
  | .merge other => b.mergeAny other
  | .sort => b.sort
  | .filter keep => b.filter keep
  | .transform f => b.transform f

/-- The bag after changes, one after the other, to a new one. -/
def run (limit : Int) (changes : List Change) : Bag := changes.foldl apply (empty limit)

theorem Fits.apply {b : Bag} (h : b.Fits) (c : Change) : (b.apply c).Fits := by
  cases c with
  | add d => exact h.push d
  | merge other =>
    cases other with
    | none => exact h
    | some other => exact fits_merge b other
  | sort => exact h.sort
  | filter keep => exact h.filter keep
  | transform f => exact h.transform f

theorem limit_le_apply (b : Bag) (c : Change) : b.limit ≤ (b.apply c).limit := by
  cases c with
  | add d => exact (push_limit b d).ge
  | merge other =>
    cases other with
    | none => exact le_refl b.limit
    | some other =>
      change b.limit ≤ (b.merge other).limit
      rw [merge]
      split_ifs
      · exact Int.le_max_left ..
      · exact le_refl b.limit
  | sort | filter | transform => exact le_refl b.limit

theorem Fits.foldl_apply {b : Bag} (h : b.Fits) (changes : List Change) :
    (changes.foldl Bag.apply b).Fits := by
  induction changes generalizing b with
  | nil => exact h
  | cons c rest ih => exact ih (h.apply c)

theorem limit_le_foldl_apply (b : Bag) (changes : List Change) :
    b.limit ≤ (changes.foldl apply b).limit := by
  induction changes generalizing b with
  | nil => exact le_refl b.limit
  | cons c rest ih => exact (limit_le_apply b c).trans (ih (b.apply c))

/-- **A bag over time.** Whatever was done to a bag, it holds no more than its limit, if it was made
with one, and the limit has never fallen. Adding answers whether the diagnostic was appended; it was
not exactly if the bag is at its limit or above, and then nothing has changed. Merging keeps all
diagnostics of both bags, those of the other one behind, whatever bag that is. Sorting permutes the
diagnostics and orders them by rank; those of one rank stay in the order of their reports, and what
is sorted stays as it is. -/
theorem run_keeps (limit : Int) (changes : List Change) :
    let b := run limit changes
    (0 < limit → 0 < b.limit ∧ (b.items.length : Int) ≤ b.limit) ∧
    (∀ n, (run limit (changes.take n)).limit ≤ b.limit) ∧
    (∀ d, ((b.add d).2 = true ↔ (b.add d).1.items = b.items ++ [d]) ∧
      ((b.add d).2 = false ↔ 0 < b.limit ∧ b.limit ≤ b.items.length) ∧
      ((b.add d).2 = false → (b.add d).1 = b)) ∧
    (b.mergeAny none = b ∧
      ∀ other : Bag, (b.mergeAny (some other)).items = b.items ++ other.items) ∧
    b.sort.items.Perm b.items ∧ (b.sort.items.Pairwise fun x y => x.rank ≤ y.rank) ∧
    (∀ d : Diagnostic, b.sort.items.filter (fun e => e.rank = d.rank) =
      b.items.filter fun e => e.rank = d.rank) ∧
    b.sort.sort = b.sort := by
  intro b
  refine ⟨fun hlimit => ?_, fun n => ?_, add_answer b, ⟨rfl, fun _ => rfl⟩, perm_sort b,
    pairwise_rank_sort b, filter_rank_sort b, sort_sort b⟩
  · have hpos : 0 < b.limit := hlimit.trans_le (limit_le_foldl_apply (empty limit) changes)
    exact ⟨hpos, (fits_empty limit).foldl_apply changes hpos⟩
  · have hsplit : b = (changes.drop n).foldl apply (run limit (changes.take n)) := by
      rw [run, ← List.foldl_append, List.take_append_drop]
      rfl
    rw [hsplit]
    exact limit_le_foldl_apply _ (changes.drop n)

/-- A bag with room for one refuses a second diagnostic. Merging makes room for three, and the room
stays when one of them is taken out again. -/
theorem run_keeps_merged :
    let d : Diagnostic := ⟨.error, ⟨2001⟩, "first".utf8, ⟨0, 4, 5⟩, [], []⟩
    let e : Diagnostic := ⟨.warning, ⟨3001⟩, "second".utf8, ⟨0, 0, 1⟩, [], []⟩
    let changes : List Change :=
      [.add d, .add e, .merge (some ⟨[e, d], 0⟩), .filter fun x => x.severity = .error]
    0 < (1 : Int) ∧ (run 1 (changes.take 2)).items = [d] ∧ run 1 changes = ⟨[d, d], 3⟩ ∧
      ((run 1 changes).items.length : Int) ≤ (run 1 changes).limit ∧
      (run 1 (changes.take 2)).limit ≤ (run 1 changes).limit ∧
      ((run 1 changes).add e).2 = true ∧ (run 1 (changes.take 2)).sort.items.Perm [d] := by
  intro d e changes
  obtain ⟨hfits, hlimit, hadd, -⟩ := run_keeps 1 changes
  obtain ⟨-, -, -, -, hperm, -⟩ := run_keeps 1 (changes.take 2)
  refine ⟨Int.one_pos, by decide, by decide, (hfits Int.one_pos).2, hlimit 2,
    (hadd e).1.mpr (by decide), hperm⟩

end Bag

end TensorLang
