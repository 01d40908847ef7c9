import TensorLang.Proofs.Text.Utf8
import TensorLang.Text.LetterCase

/-!
# ASCII text

In a text of ASCII bytes every byte is a code point of its own, so what is defined by code points
can be done byte by byte.
-/

namespace TensorLang

/-- The bytes below `0x80`. -/
def Bytes.IsAscii (text : Bytes) : Prop := ∀ b ∈ text, b < 0x80

namespace Utf8

theorem split_cons_of_ascii {b : UInt8} (hb : b < 0x80) (bs : Bytes) :
    split (b :: bs) = (b.toNat, [b]) :: split bs := by
  rw [split, decode_ascii hb]
  simp

/-- ASCII text is well-formed. -/
theorem isValid_of_isAscii {text : Bytes} (h : text.IsAscii) : isValid text = true := by
  induction text with
  | nil => simp [isValid, split]
  | cons b bs ih =>
    obtain ⟨hb, hbs⟩ := List.forall_mem_cons.mp h
    rw [isValid, split_cons_of_ascii hb, List.all_cons, ← isValid, ih hbs, Bool.and_true]
    -- a byte is no replacement character
    have hne : b.toNat ≠ replacement := Nat.ne_of_lt (Nat.lt_trans b.toNat_lt (by decide))
    simp [isMalformed, hne]

theorem codes_of_isAscii {text : Bytes} (h : text.IsAscii) : codes text = text.map UInt8.toNat := by
  induction text with
  | nil => simp [codes, split]
  | cons b bs ih =>
    have hb : b < 0x80 := h b List.mem_cons_self
    have hbs : Bytes.IsAscii bs := fun x hx => h x (List.mem_cons_of_mem b hx)
    rw [codes, split_cons_of_ascii hb, List.map_cons, List.map_cons, ← ih hbs, codes]

theorem encode_ascii {code : Nat} (h : code < 0x80) : encode code = [UInt8.ofNat code] := by
  unfold encode
  exact if_pos h

/-- Beyond ASCII, code points are encoded by bytes from 0x80 on. -/
theorem le_of_mem_encode {code : Nat} (hcode : 0x80 ≤ code) {b : UInt8}
    (hb : b ∈ encode code) : 0x80 ≤ b.toNat := by
  simp only [encode, Bool.or_eq_true, Bool.and_eq_true, decide_eq_true_eq] at hb
  split_ifs at hb
  · omega
  all_goals
    simp only [List.mem_cons, List.not_mem_nil, or_false] at hb
    rcases hb with rfl | rfl | rfl | rfl <;>
      simp only [UInt8.toNat_ofNat', UInt8.reduceToNat] <;> omega

/-- A byte of ASCII occurs only in the encoding of itself. -/
theorem encode_eq_of_mem {code : Nat} {b : UInt8} (hb : b ∈ encode code)
    (hascii : b.toNat < 0x80) : encode code = [b] := by
  have hcode : code < 0x80 := by
    by_contra hge
    have hle := le_of_mem_encode (Nat.le_of_not_lt hge) hb
    omega
  rw [encode_ascii hcode] at hb ⊢
  rw [List.mem_singleton.mp hb]

end Utf8

namespace Text

private theorem encode_lowerCode {b : UInt8} (hb : b < 0x80) :
    Utf8.encode (lowerCode b.toNat) = [if 65 ≤ b && b ≤ 90 then b + 32 else b] := by
  have hlt : b.toNat < 0x80 := UInt8.lt_iff_toNat_lt.mp hb
  have hcase : (65 ≤ b && b ≤ 90) = (65 ≤ b.toNat && b.toNat ≤ 90) := by
    simp only [UInt8.le_iff_toNat_le, UInt8.reduceToNat]
  have hother : (b.toNat == 0x130) = false ∧ (b.toNat == 0x212A) = false := by
    simp only [beq_eq_false_iff_ne]
    omega
  simp only [lowerCode, hcase, hother.1, hother.2, Bool.false_eq_true, if_false]
  split_ifs with h
  · rw [Bool.and_eq_true, decide_eq_true_eq, decide_eq_true_eq] at h
    rw [Utf8.encode_ascii (by omega), UInt8.ofNat_add, UInt8.ofNat_toNat]
    rfl
  · rw [Utf8.encode_ascii hlt, UInt8.ofNat_toNat]

/-- The lower case of ASCII text, byte by byte. -/
theorem lower_of_isAscii {text : Bytes} (h : text.IsAscii) :
    lower text = Bytes.toLowerAscii text := by
  rw [lower, Utf8.codes_of_isAscii h, Utf8.encodeAll, Bytes.toLowerAscii]
  induction text with
  | nil => rfl
  | cons b bs ih =>
    have hb := encode_lowerCode (h b List.mem_cons_self)
    have hbs := ih fun x hx => h x (List.mem_cons_of_mem b hx)
    rw [List.map_cons, List.map_cons, List.flatMap_cons, List.map_cons, hb, hbs,
      List.singleton_append]

end Text

end TensorLang
