import Mathlib.Tactic.Common
import TensorLang.Text.Utf8

/-!
# Code points and their bytes

Reading and writing one code point undo each other.

* `Utf8.encode_decode`: a code point that was read, and is no replacement character, is written with
  the bytes it was read from.
* `Utf8.decode_encode_append`: what was written for a scalar value is read back, whatever follows.
* `Utf8.decodeLast_append_encode`: what was written last is found from the end, whatever stands
  before it.
* `Utf8.isTail_of_mem_take` and `Utf8.decode_of_isTail`: a code point has continuation bytes behind
  its first byte, and none of them begins another one.

Surrogates and numbers past the last code point are no scalar values; nothing that is read is one of
them (`Utf8.isScalar_decode`).
-/

namespace TensorLang.Utf8

/-- The numbers that have an encoding of their own: no surrogates, and nothing past the last code
point. -/
def IsScalar (code : Nat) : Prop := code < 0xD800 ∨ (0xE000 ≤ code ∧ code < 0x110000)

/-! ### The bounds that the tests on bytes stand for -/

private theorem isTail_iff {b : UInt8} : isTail b = true ↔ 0x80 ≤ b.toNat ∧ b.toNat ≤ 0xBF := by
  simp [isTail, UInt8.le_iff_toNat_le]

private theorem isSecond_iff {a b : UInt8} :
    isSecond a b = true ↔ 0x80 ≤ b.toNat ∧ b.toNat ≤ 0xBF ∧ (a.toNat = 0xE0 → 0xA0 ≤ b.toNat) ∧
      (a.toNat = 0xED → b.toNat ≤ 0x9F) ∧ (a.toNat = 0xF0 → 0x90 ≤ b.toNat) ∧
      (a.toNat = 0xF4 → b.toNat ≤ 0x8F) := by
  have key : ∀ n : UInt8, (a == n) = true ↔ a.toNat = n.toNat := fun n => by
    rw [beq_iff_eq, UInt8.toNat_inj]
  simp only [isSecond, secondRange, key, UInt8.reduceToNat, Bool.and_eq_true, decide_eq_true_eq,
    UInt8.le_iff_toNat_le]
  split_ifs <;> simp only [UInt8.reduceToNat] <;> omega

private theorem ofNat_eq {n : Nat} {a : UInt8} (h : n = a.toNat) : UInt8.ofNat n = a := by
  subst h
  exact UInt8.ofNat_toNat

theorem encode_ne_nil (code : Nat) : encode code ≠ [] := by
  unfold encode
  split_ifs <;> simp

/-! ### Writing what was read -/

private theorem encode_two {a b : UInt8} (ha : 0xC2 ≤ a.toNat ∧ a.toNat ≤ 0xDF)
    (hb : isTail b = true) : encode ((a.toNat - 0xC0) * 64 + tailBits b) = [a, b] := by
  rw [isTail_iff] at hb
  unfold encode tailBits
  rw [if_neg (by omega), if_pos (by omega)]
  simp only [List.cons.injEq, and_true]
  exact ⟨ofNat_eq (by omega), ofNat_eq (by omega)⟩

private theorem encode_three {a b c : UInt8} (ha : 0xE0 ≤ a.toNat ∧ a.toNat ≤ 0xEF)
    (hb : isSecond a b = true) (hc : isTail c = true) :
    encode (((a.toNat - 0xE0) * 64 + tailBits b) * 64 + tailBits c) = [a, b, c] := by
  rw [isSecond_iff] at hb
  rw [isTail_iff] at hc
  unfold encode tailBits
  rw [if_neg (by omega), if_neg (by omega), if_neg (by simp; omega), if_pos (by omega)]
  simp only [List.cons.injEq, and_true]
  exact ⟨ofNat_eq (by omega), ofNat_eq (by omega), ofNat_eq (by omega)⟩

private theorem encode_four {a b c d : UInt8} (ha : 0xF0 ≤ a.toNat ∧ a.toNat ≤ 0xF4)
    (hb : isSecond a b = true) (hc : isTail c = true) (hd : isTail d = true) :
    encode ((((a.toNat - 0xF0) * 64 + tailBits b) * 64 + tailBits c) * 64 + tailBits d) =
      [a, b, c, d] := by
  rw [isSecond_iff] at hb
  rw [isTail_iff] at hc hd
  unfold encode tailBits
  rw [if_neg (by omega), if_neg (by omega), if_neg (by simp; omega), if_neg (by omega)]
  simp only [List.cons.injEq, and_true]
  exact ⟨ofNat_eq (by omega), ofNat_eq (by omega), ofNat_eq (by omega), ofNat_eq (by omega)⟩

/-- A whole code point that was read from a text is written with the bytes that were read. -/
theorem encode_decode_of_ne {text : Bytes} (hne : text ≠ []) (h : decode text ≠ (replacement, 1)) :
    encode (decode text).1 = text.take (decode text).2 := by
  revert hne h
  -- all cases but the well-formed sequences give the replacement character for one byte
  fun_cases decode text with
  | case1 => exact fun hne => absurd rfl hne
  | case2 a rest ha =>
    intro _ _
    have ha' : a.toNat < 0x80 := UInt8.lt_iff_toNat_lt.mp ha
    simp [encode, ha']
  | case3 a _ ha b rest hb =>
    intro _ _
    simp only [Bool.and_eq_true, decide_eq_true_eq, UInt8.le_iff_toNat_le] at ha
    exact encode_two ha hb
  | case6 a _ _ ha b c rest hbc =>
    intro _ _
    simp only [Bool.and_eq_true, decide_eq_true_eq, UInt8.le_iff_toNat_le] at ha hbc
    exact encode_three ha hbc.1 hbc.2
  | case9 a _ _ _ ha b c d rest hbcd =>
    intro _ _
    simp only [Bool.and_eq_true, decide_eq_true_eq, UInt8.le_iff_toNat_le] at ha hbcd
    exact encode_four ha hbcd.1.1 hbcd.1.2 hbcd.2
  | _ => exact fun _ h => absurd rfl h

/-- A code point that was read from a text, and is no replacement character, is written with the
bytes that were read. -/
theorem encode_decode {text : Bytes} (h : (decode text).1 ≠ replacement) :
    encode (decode text).1 = text.take (decode text).2 := by
  refine encode_decode_of_ne ?_ fun heq => h (congrArg Prod.fst heq)
  rintro rfl
  exact h rfl

/-- Whatever is read is a scalar value. -/
theorem isScalar_decode (text : Bytes) : IsScalar (decode text).1 := by
  have hreplacement : IsScalar replacement := .inr (by decide)
  -- the ranges of the second byte keep surrogates and numbers past the last code point out
  fun_cases decode text with
  | case2 a rest ha =>
    have ha' : a.toNat < 0x80 := UInt8.lt_iff_toNat_lt.mp ha
    exact .inl (by omega)
  | case3 a _ ha b rest hb =>
    simp only [Bool.and_eq_true, decide_eq_true_eq, UInt8.le_iff_toNat_le, UInt8.reduceToNat] at ha
    rw [isTail_iff] at hb
    unfold IsScalar tailBits
    omega
  | case6 a _ _ ha b c rest hbc =>
    simp only [Bool.and_eq_true, decide_eq_true_eq, UInt8.le_iff_toNat_le, UInt8.reduceToNat] at ha
    rw [Bool.and_eq_true, isSecond_iff, isTail_iff] at hbc
    unfold IsScalar tailBits
    omega
  | case9 a _ _ _ ha b c d rest hbcd =>
    simp only [Bool.and_eq_true, decide_eq_true_eq, UInt8.le_iff_toNat_le, UInt8.reduceToNat] at ha
    rw [Bool.and_eq_true, Bool.and_eq_true, isSecond_iff, isTail_iff, isTail_iff] at hbcd
    unfold IsScalar tailBits
    omega
  | _ => exact hreplacement

/-! ### Reading what was written -/

private theorem not_lt_of_toNat {a : UInt8} (h : 0x80 ≤ a.toNat) : ¬ a < 0x80 := by
  simpa only [UInt8.lt_iff_toNat_lt, UInt8.reduceToNat, Nat.not_lt] using h

private theorem and_le_iff {a lo hi : UInt8} :
    (decide (lo ≤ a) && decide (a ≤ hi)) = true ↔ lo.toNat ≤ a.toNat ∧ a.toNat ≤ hi.toNat := by
  rw [Bool.and_eq_true, decide_eq_true_eq, decide_eq_true_eq, UInt8.le_iff_toNat_le,
    UInt8.le_iff_toNat_le]

private theorem decode_two {code : Nat} {a b : UInt8} (h : 0x80 ≤ code ∧ code < 0x800)
    (ha : a.toNat = 0xC0 + code / 64) (hb : b.toNat = 0x80 + code % 64) (rest : Bytes) :
    decode (a :: b :: rest) = (code, 2) := by
  have h1 : ¬ a < 0x80 := not_lt_of_toNat (by omega)
  have h2 : (decide (0xC2 ≤ a) && decide (a ≤ 0xDF)) = true := by
    simp only [and_le_iff, UInt8.reduceToNat]; omega
  have hb' : isTail b = true := isTail_iff.mpr (by omega)
  have hcode : (a.toNat - 0xC0) * 64 + tailBits b = code := by unfold tailBits; omega
  simp only [decode, if_neg h1, if_pos h2, if_pos hb', hcode]

private theorem decode_three {code : Nat} {a b c : UInt8} (h : 0x800 ≤ code ∧ code < 0x10000)
    (hs : code < 0xD800 ∨ 0xE000 ≤ code) (ha : a.toNat = 0xE0 + code / 4096)
    (hb : b.toNat = 0x80 + code / 64 % 64) (hc : c.toNat = 0x80 + code % 64) (rest : Bytes) :
    decode (a :: b :: c :: rest) = (code, 3) := by
  have h1 : ¬ a < 0x80 := not_lt_of_toNat (by omega)
  have h2 : ¬ (decide (0xC2 ≤ a) && decide (a ≤ 0xDF)) = true := by
    simp only [and_le_iff, UInt8.reduceToNat]; omega
  have h3 : (decide (0xE0 ≤ a) && decide (a ≤ 0xEF)) = true := by
    simp only [and_le_iff, UInt8.reduceToNat]; omega
  have hb' : isSecond a b = true := isSecond_iff.mpr (by omega)
  have hc' : isTail c = true := isTail_iff.mpr (by omega)
  have hcode : ((a.toNat - 0xE0) * 64 + tailBits b) * 64 + tailBits c = code := by
    unfold tailBits; omega
  simp only [decode, if_neg h1, if_neg h2, if_pos h3, hb', hc', Bool.and_self, if_true, hcode]

private theorem decode_four {code : Nat} {a b c d : UInt8}
    (h : 0x10000 ≤ code ∧ code < 0x110000) (ha : a.toNat = 0xF0 + code / 262144)
    (hb : b.toNat = 0x80 + code / 4096 % 64) (hc : c.toNat = 0x80 + code / 64 % 64)
    (hd : d.toNat = 0x80 + code % 64) (rest : Bytes) :
    decode (a :: b :: c :: d :: rest) = (code, 4) := by
  have h1 : ¬ a < 0x80 := not_lt_of_toNat (by omega)
  have h2 : ¬ (decide (0xC2 ≤ a) && decide (a ≤ 0xDF)) = true := by
    simp only [and_le_iff, UInt8.reduceToNat]; omega
  have h3 : ¬ (decide (0xE0 ≤ a) && decide (a ≤ 0xEF)) = true := by
    simp only [and_le_iff, UInt8.reduceToNat]; omega
  have h4 : (decide (0xF0 ≤ a) && decide (a ≤ 0xF4)) = true := by
    simp only [and_le_iff, UInt8.reduceToNat]; omega
  have hb' : isSecond a b = true := isSecond_iff.mpr (by omega)
  have hc' : isTail c = true := isTail_iff.mpr (by omega)
  have hd' : isTail d = true := isTail_iff.mpr (by omega)
  have hcode : (((a.toNat - 0xF0) * 64 + tailBits b) * 64 + tailBits c) * 64 + tailBits d =
      code := by
    unfold tailBits; omega
  simp only [decode, if_neg h1, if_neg h2, if_neg h3, if_pos h4, hb', hc', hd', Bool.and_self,
    if_true, hcode]

/-- A byte of ASCII is a code point of its own. -/
theorem decode_ascii {b : UInt8} (hb : b < 0x80) (rest : Bytes) :
    decode (b :: rest) = (b.toNat, 1) := by
  unfold decode
  exact if_pos hb

/-- What was written for a scalar value is read back, whatever follows. -/
theorem decode_encode_append {code : Nat} (h : IsScalar code) (rest : Bytes) :
    decode (encode code ++ rest) = (code, (encode code).length) := by
  unfold IsScalar at h
  have lead : ∀ n, n < 0x100 → (UInt8.ofNat n).toNat = n := fun n hn => by
    rw [UInt8.toNat_ofNat', Nat.mod_eq_of_lt hn]
  have tail : ∀ n, (UInt8.ofNat (0x80 + n % 64)).toNat = 0x80 + n % 64 := fun n =>
    lead _ (by omega)
  unfold encode
  split_ifs with h1 h2 h3 h4
  · have hl := lead code (by omega)
    have hlt : UInt8.ofNat code < 0x80 := by
      simpa only [UInt8.lt_iff_toNat_lt, hl, UInt8.reduceToNat] using h1
    rw [List.singleton_append, decode_ascii hlt, hl, List.length_singleton]
  · exact decode_two (by omega) (lead _ (by omega)) (tail code) rest
  · simp only [Bool.or_eq_true, Bool.and_eq_true, decide_eq_true_eq] at h3
    omega
  · exact decode_three (by omega) (by omega) (lead _ (by omega)) (tail (code / 64)) (tail code) rest
  · exact decode_four (by omega) (lead _ (by omega)) (tail (code / 4096)) (tail (code / 64))
      (tail code) rest

/-! ### Continuation bytes -/

private theorem isTail_of_isSecond {a b : UInt8} (h : isSecond a b = true) : isTail b = true := by
  rw [isSecond_iff] at h
  exact isTail_iff.mpr ⟨h.1, h.2.1⟩

/-- No code point begins with a continuation byte. -/
theorem decode_of_isTail {b : UInt8} (hb : isTail b = true) (rest : Bytes) :
    decode (b :: rest) = (replacement, 1) := by
  rw [isTail_iff] at hb
  have h1 : ¬ b < 0x80 := not_lt_of_toNat hb.1
  have above : ∀ lo hi : UInt8, 0xBF < lo.toNat →
      ¬ (decide (lo ≤ b) && decide (b ≤ hi)) = true := by
    intro lo hi hlo
    rw [and_le_iff]
    omega
  have h2 := above 0xC2 0xDF (by decide)
  have h3 := above 0xE0 0xEF (by decide)
  have h4 := above 0xF0 0xF4 (by decide)
  simp only [decode, if_neg h1, if_neg h2, if_neg h3, if_neg h4]

/-- A code point consists of continuation bytes from its second byte on. -/
theorem isTail_of_mem_take (a : UInt8) (rest : Bytes) :
    ∀ b ∈ rest.take ((decode (a :: rest)).2 - 1), isTail b = true := by
  generalize htext : a :: rest = text
  -- all cases but the longer sequences are one byte long
  fun_cases decode text with
  | case1 => cases htext
  | case3 a _ _ b rest hb =>
    cases htext
    simp [hb]
  | case6 a _ _ _ b c rest hbc =>
    cases htext
    rw [Bool.and_eq_true] at hbc
    simp [isTail_of_isSecond hbc.1, hbc.2]
  | case9 a _ _ _ _ b c d rest hbcd =>
    cases htext
    rw [Bool.and_eq_true, Bool.and_eq_true] at hbcd
    simp [isTail_of_isSecond hbcd.1.1, hbcd.1.2, hbcd.2]
  | _ => simp

/-! ### The last code point -/

/-- A byte of ASCII at the end is the last code point. -/
theorem decodeLast_append_ascii {b : UInt8} (hb : b < 0x80) (u : Bytes) :
    decodeLast (u ++ [b]) = (b.toNat, 1) := by
  rw [decodeLast, List.reverse_append, List.reverse_singleton, List.singleton_append]
  exact if_pos hb

/-- A sequence at the end is the last code point: looking back over its continuation bytes ends at
its first byte. -/
private theorem decodeLast_append_sequence {code : Nat} {a b : UInt8} {bs : Bytes}
    (hlead : isTail a = false) (htails : ∀ x ∈ b :: bs, isTail x = true) (hlen : bs.length ≤ 2)
    (hdecode : decode (a :: b :: bs) = (code, bs.length + 2)) (u : Bytes) :
    decodeLast (u ++ a :: b :: bs) = (code, bs.length + 2) := by
  -- `before` are the continuation bytes in front of the last one, from the end
  obtain ⟨last, before, hreverse⟩ := List.exists_cons_of_ne_nil
    (l := (b :: bs).reverse) (by simp)
  have hbefore : before.length = bs.length := by
    have := congrArg List.length hreverse
    simpa using this.symm
  have hmem : ∀ x ∈ last :: before, isTail x = true := by
    rw [← hreverse]
    exact fun x hx => htails x (List.mem_reverse.mp hx)
  rw [List.forall_mem_cons] at hmem
  have hlast : ¬ last < 0x80 := not_lt_of_toNat (isTail_iff.mp hmem.1).1
  have hwindow : ((before ++ a :: u.reverse).take 3).takeWhile isTail = before := by
    obtain ⟨n, hn⟩ : ∃ n, 3 - before.length = n + 1 := ⟨2 - before.length, by omega⟩
    rw [List.take_append, List.take_of_length_le (by omega), hn, List.take_succ_cons,
      List.takeWhile_append_of_pos hmem.2, List.takeWhile_cons_of_neg (by simp [hlead]),
      List.append_nil]
  have hsize : min (before.length + 2) (u ++ a :: b :: bs).length = bs.length + 2 := by
    simp only [List.length_append, List.length_cons]
    omega
  have hdrop : (u ++ a :: b :: bs).drop ((u ++ a :: b :: bs).length - (bs.length + 2)) =
      a :: b :: bs := by
    rw [List.length_append, List.length_cons, List.length_cons, Nat.add_sub_cancel, List.drop_left]
  rw [decodeLast, List.reverse_append, List.reverse_cons, hreverse]
  simp only [List.cons_append, List.append_assoc, List.nil_append, if_neg hlast, hwindow, hsize,
    hdrop, hdecode, if_true]

/-- What was written for a scalar value at the end is found there, whatever stands before it. -/
theorem decodeLast_append_encode {code : Nat} (h : IsScalar code) (u : Bytes) :
    decodeLast (u ++ encode code) = (code, (encode code).length) := by
  have hdecode := decode_encode_append h []
  rw [List.append_nil] at hdecode
  have hcases : (code < 0x80 ∧ encode code = [UInt8.ofNat code]) ∨
      ∃ a b bs, encode code = a :: b :: bs ∧ bs.length ≤ 2 := by
    unfold encode
    split_ifs <;> simp [*]
  obtain ⟨hcode, hencode⟩ | ⟨a, b, bs, hencode, hlen⟩ := hcases
  · have htoNat : (UInt8.ofNat code).toNat = code := by
      rw [UInt8.toNat_ofNat', Nat.mod_eq_of_lt (by omega)]
    have hascii : UInt8.ofNat code < 0x80 := by
      simpa only [UInt8.lt_iff_toNat_lt, htoNat, UInt8.reduceToNat] using hcode
    rw [hencode, decodeLast_append_ascii hascii, htoNat, List.length_singleton]
  · rw [hencode] at hdecode ⊢
    have htails : ∀ x ∈ b :: bs, isTail x = true := by
      have hmem := isTail_of_mem_take a (b :: bs)
      rw [hdecode] at hmem
      simpa using hmem
    have hlead : isTail a = false := by
      refine Bool.eq_false_iff.mpr fun ha => ?_
      rw [decode_of_isTail ha] at hdecode
      simp at hdecode
    exact decodeLast_append_sequence hlead htails hlen hdecode u

end TensorLang.Utf8
