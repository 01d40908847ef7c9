import Mathlib.Algebra.Group.Nat.Defs
import Mathlib.Tactic.Common
import TensorLang.Text.CodeRanges

/-!
# Numbers as digits

Digits spell their number: `Decimal.value_ofNat` reads back what `Decimal.ofNat` writes. So integers
with the same text are equal (`Decimal.ofInt_injective`). A fixed number of hexadecimal digits
spells a number that is small enough for them (`Hex.hexValue_fixed`).
-/

namespace TensorLang

namespace Decimal

theorem toNat_digit {d : Nat} (h : d < 10) : (digit d).toNat = 48 + d := by
  rw [digit, UInt8.toNat_ofNat']
  omega

theorem isDigit_digit {d : Nat} (h : d < 10) : isDigit (digit d) = true := by
  simp only [isDigit, UInt8.le_iff_toNat_le, UInt8.reduceToNat, toNat_digit h, Bool.and_eq_true,
    decide_eq_true_eq]
  omega

theorem value_append_singleton (digits : Bytes) (b : UInt8) :
    value (digits ++ [b]) = 10 * value digits + (b.toNat - 48) := by
  rw [value, List.foldl_append]
  rfl

theorem value_ofNat (n : Nat) : value (ofNat n) = n := by
  fun_induction ofNat n with
  | case1 n h =>
    have hdigit := toNat_digit h
    simp only [value, List.foldl_cons, List.foldl_nil, hdigit]
    omega
  | case2 n h ih =>
    have hdigit := toNat_digit (Nat.mod_lt n (by decide : 0 < 10))
    rw [value_append_singleton, ih, hdigit]
    omega

theorem isDigit_of_mem_ofNat {n : Nat} {b : UInt8} (h : b ∈ ofNat n) : isDigit b = true := by
  fun_induction ofNat n with
  | case1 n hn =>
    rw [List.mem_singleton.mp h]
    exact isDigit_digit hn
  | case2 n hn ih =>
    rcases List.mem_append.mp h with h | h
    · exact ih h
    · rw [List.mem_singleton.mp h]
      exact isDigit_digit (Nat.mod_lt n (by decide))

theorem not_mem_ofNat {b : UInt8} (h : isDigit b = false) (n : Nat) : b ∉ ofNat n := by
  intro hmem
  rw [isDigit_of_mem_ofNat hmem] at h
  cases h

theorem ofNat_ne_nil (n : Nat) : ofNat n ≠ [] := by
  rw [ofNat]
  split <;> simp

theorem ofNat_injective : Function.Injective ofNat := by
  intro m n h
  rw [← value_ofNat m, h, value_ofNat]

/-- No text of a number is made of other signs alone. -/
theorem exists_isDigit_mem_ofInt (n : Int) : ∃ b ∈ ofInt n, isDigit b = true := by
  have hdigits : ∀ m, ∃ b ∈ ofNat m, isDigit b = true := by
    intro m
    obtain ⟨b, hb⟩ := List.exists_mem_of_ne_nil _ (ofNat_ne_nil m)
    exact ⟨b, hb, isDigit_of_mem_ofNat hb⟩
  cases n with
  | ofNat m => exact hdigits m
  | negSucc m =>
    obtain ⟨b, hb, hdigit⟩ := hdigits (m + 1)
    exact ⟨b, List.mem_cons_of_mem _ hb, hdigit⟩

theorem ofInt_ne_of_all {text : Bytes} (h : (text.all fun b => !isDigit b) = true) (n : Int) :
    ofInt n ≠ text := by
  rintro rfl
  obtain ⟨b, hb, hdigit⟩ := exists_isDigit_mem_ofInt n
  have hnone := List.all_eq_true.mp h b hb
  rw [hdigit] at hnone
  cases hnone

theorem ofInt_injective : Function.Injective ofInt := by
  have hsign : ∀ m (digits : Bytes), ofNat m ≠ 45 :: digits := by
    intro m digits h
    have hmem : (45 : UInt8) ∈ ofNat m := h ▸ List.mem_cons_self
    exact absurd (isDigit_of_mem_ofNat hmem) (by decide)
  intro m n h
  cases m with
  | ofNat m =>
    cases n with
    | ofNat n => exact congrArg Int.ofNat (ofNat_injective h)
    | negSucc n => exact absurd h (hsign m _)
  | negSucc m =>
    cases n with
    | ofNat n => exact absurd h.symm (hsign n _)
    | negSucc n =>
      have hmore := ofNat_injective (List.cons.inj h).2
      rw [Nat.add_right_cancel hmore]

end Decimal

namespace Hex

theorem digitValue?_digit {d : Nat} (h : d < 16) : digitValue? (digit d) = some d := by
  revert d
  decide

theorem length_fixed (places n : Nat) : (fixed places n).length = places := by
  induction places generalizing n with
  | zero => rfl
  | succ places ih => rw [fixed, List.length_append, ih, List.length_singleton]

theorem hexValue_fixed {places n : Nat} (h : n < 16 ^ places) :
    CodeRanges.hexValue (fixed places n) = n := by
  induction places generalizing n with
  | zero =>
    rw [Nat.pow_zero] at h
    rw [Nat.lt_one_iff.mp h]
    rfl
  | succ places ih =>
    have hdiv : n / 16 < 16 ^ places := by
      rw [Nat.pow_succ] at h
      omega
    have hdigit := digitValue?_digit (Nat.mod_lt n (by decide : 0 < 16))
    have hrest := ih hdiv
    rw [CodeRanges.hexValue] at hrest
    rw [fixed, CodeRanges.hexValue, List.foldl_append, hrest, List.foldl_cons, List.foldl_nil,
      hdigit, Option.getD_some]
    omega

end Hex

end TensorLang
