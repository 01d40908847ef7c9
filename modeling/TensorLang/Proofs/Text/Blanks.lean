import TensorLang.Proofs.Text.Utf8
import TensorLang.Text.Blank

/-!
# Runs of blanks

`Blanks w` says that `w` is a run of white space: the encodings of blank code points, one after the
other. The scanner `blankLength` walks over the bytes instead and decodes at each place; the two are
tied together here.

* `blanks_take_blankLength`: what the scanner passes over is a run of blanks.
* `startsBlank_drop_blankLength`: it stops where no blank begins.
* `blankLength_append`: a run of blanks that no blank follows is passed over exactly, however it was
  put together.
* `trimRight_append`: from the end, a run of blanks is taken off exactly up to a visible byte.
-/

namespace TensorLang.Text

/-- A run of white space. -/
inductive Blanks : Bytes → Prop where
  | nil : Blanks []
  | cons {code : Nat} {w : Bytes} :
      isBlank code = true → Blanks w → Blanks (Utf8.encode code ++ w)

/-! ### Single blanks -/

theorem isScalar_of_isBlank {code : Nat} (h : isBlank code = true) :
    Utf8.IsScalar code := by
  simp only [isBlank, Bool.or_eq_true, Bool.and_eq_true, decide_eq_true_eq, beq_iff_eq] at h
  unfold Utf8.IsScalar
  omega

/-- The encoding of a blank begins with a blank. -/
theorem startsBlank_encode_append {code : Nat} (h : isBlank code = true) (rest : Bytes) :
    startsBlank (Utf8.encode code ++ rest) = true := by
  rw [startsBlank, Utf8.decode_encode_append (isScalar_of_isBlank h)]
  exact h

/-- A text that begins with a blank begins with the encoding of one. -/
theorem take_of_startsBlank {text : Bytes} (h : startsBlank text = true) :
    isBlank (Utf8.decode text).1 = true ∧
      text.take (Utf8.decode text).2 = Utf8.encode (Utf8.decode text).1 := by
  rw [startsBlank] at h
  refine ⟨h, (Utf8.encode_decode fun hr => ?_).symm⟩
  rw [hr] at h
  exact absurd h (by decide)

/-- No blank begins with an ASCII byte that is no blank itself. -/
theorem startsBlank_cons_of_ascii {b : UInt8} (hb : b < 0x80) (hn : isBlank b.toNat = false)
    (rest : Bytes) : startsBlank (b :: rest) = false := by
  rw [startsBlank, Utf8.decode_ascii hb]
  exact hn

@[simp]
theorem startsBlank_nil : startsBlank [] = false := by
  rw [startsBlank]
  decide

/-! ### The scanner -/

/-- The scanner passes over one blank and goes on behind it. -/
theorem blankLength_encode_append {code : Nat} (h : isBlank code = true) (rest : Bytes) :
    blankLength (Utf8.encode code ++ rest) = (Utf8.encode code).length + blankLength rest := by
  obtain ⟨a, as, ha⟩ := List.exists_cons_of_ne_nil (Utf8.encode_ne_nil code)
  have hstarts := startsBlank_encode_append h rest
  have hdecode := Utf8.decode_encode_append (isScalar_of_isBlank h) rest
  rw [ha, List.cons_append] at hstarts hdecode ⊢
  rw [blankLength, if_pos hstarts, hdecode]
  have hdrop : (as ++ rest).drop ((a :: as).length - 1) = rest := by simp
  simp only [hdrop]
  simp only [List.length_cons]
  omega

/-- The scanner stops at once where no blank begins. -/
theorem blankLength_of_startsBlank_eq_false {text : Bytes} (h : startsBlank text = false) :
    blankLength text = 0 := by
  cases text with
  | nil => rw [blankLength]
  | cons a rest => rw [blankLength]; simp [h]

/-- A run of blanks that no blank follows is passed over exactly. -/
theorem blankLength_append {w rest : Bytes} (hw : Blanks w) (hr : startsBlank rest = false) :
    blankLength (w ++ rest) = w.length := by
  induction hw with
  | nil => exact blankLength_of_startsBlank_eq_false hr
  | cons hcode _ ih =>
    rw [List.append_assoc, blankLength_encode_append hcode, ih, List.length_append]

/-- What the scanner passes over is a run of blanks, and no blank begins where it stops. -/
private theorem blankLength_spec (text : Bytes) :
    ∃ w rest, text = w ++ rest ∧ Blanks w ∧ startsBlank rest = false := by
  induction h : text.length using Nat.strongRecOn generalizing text with
  | ind n ih =>
    cases hb : startsBlank text with
    | false => exact ⟨[], text, rfl, .nil, hb⟩
    | true =>
      obtain ⟨hcode, htake⟩ := take_of_startsBlank hb
      have hne : text.take (Utf8.decode text).2 ≠ [] := htake ▸ Utf8.encode_ne_nil _
      have hlt : (text.drop (Utf8.decode text).2).length < n := by
        have := List.length_pos_iff.mpr hne
        simp only [List.length_take, List.length_drop] at this ⊢
        omega
      obtain ⟨w, rest, heq, hw, hr⟩ := ih _ hlt _ rfl
      refine ⟨Utf8.encode (Utf8.decode text).1 ++ w, rest, ?_, .cons hcode hw, hr⟩
      rw [List.append_assoc, ← heq, ← htake, List.take_append_drop]

/-- What the scanner passes over is a run of blanks. -/
theorem blanks_take_blankLength (text : Bytes) : Blanks (text.take (blankLength text)) := by
  obtain ⟨w, rest, rfl, hw, hr⟩ := blankLength_spec text
  rwa [blankLength_append hw hr, List.take_left]

/-- The scanner stops where no blank begins. -/
theorem startsBlank_drop_blankLength (text : Bytes) :
    startsBlank (text.drop (blankLength text)) = false := by
  obtain ⟨w, rest, rfl, hw, hr⟩ := blankLength_spec text
  rwa [blankLength_append hw hr, List.drop_left]

theorem blankLength_le (text : Bytes) : blankLength text ≤ text.length := by
  obtain ⟨w, rest, rfl, hw, hr⟩ := blankLength_spec text
  rw [blankLength_append hw hr, List.length_append]
  exact Nat.le_add_right _ _

/-! ### Putting runs together -/

theorem Blanks.append {v w : Bytes} (hv : Blanks v) (hw : Blanks w) : Blanks (v ++ w) := by
  induction hv with
  | nil => exact hw
  | cons hcode _ ih => rw [List.append_assoc]; exact .cons hcode ih

theorem Blanks.startsBlank {w : Bytes} (h : Blanks w) (hne : w ≠ []) : startsBlank w = true := by
  cases h with
  | nil => exact absurd rfl hne
  | cons hcode _ => exact startsBlank_encode_append hcode _

/-- No visible byte of ASCII is a blank. -/
theorem isBlank_eq_false_of_visible {n : Nat} (h : 0x20 < n ∧ n < 0x80) : isBlank n = false := by
  simp only [isBlank, Bool.or_eq_false_iff, Bool.and_eq_false_iff, decide_eq_false_iff_not,
    beq_eq_false_iff_ne]
  omega

/-- The first byte of a run of blanks is a control byte, the space, or no ASCII byte. -/
theorem Blanks.head_bound {b : UInt8} {w : Bytes} (h : Blanks (b :: w)) :
    b.toNat ≤ 0x20 ∨ 0x80 ≤ b.toNat := by
  by_contra hb
  have hascii : b < 0x80 := by
    simp only [UInt8.lt_iff_toNat_lt, UInt8.reduceToNat]
    omega
  have hblank : isBlank b.toNat = false := isBlank_eq_false_of_visible (by omega)
  have hstarts := h.startsBlank (List.cons_ne_nil b w)
  rw [startsBlank_cons_of_ascii hascii hblank] at hstarts
  exact Bool.false_ne_true hstarts

/-! ### Blanks at the end -/

/-- One blank is taken off. -/
private theorem trimRight_append_encode {code : Nat} (h : isBlank code = true) (u : Bytes) :
    trimRight (u ++ Utf8.encode code) = trimRight u := by
  have hne : u ++ Utf8.encode code ≠ [] :=
    List.append_ne_nil_of_right_ne_nil u (Utf8.encode_ne_nil code)
  have hlen : (u ++ Utf8.encode code).length - 1 - ((Utf8.encode code).length - 1) = u.length := by
    have hpos := List.length_pos_iff.mpr (Utf8.encode_ne_nil code)
    rw [List.length_append]
    omega
  rw [trimRight, Utf8.decodeLast_append_encode (isScalar_of_isBlank h), if_pos ⟨hne, h⟩, hlen,
    List.take_left]

/-- **Blanks at the end are taken off.** -/
theorem trimRight_append_blanks {w : Bytes} (hw : Blanks w) (u : Bytes) :
    trimRight (u ++ w) = trimRight u := by
  induction hw generalizing u with
  | nil => rw [List.append_nil]
  | cons hcode _ ih => rw [← List.append_assoc, ih, trimRight_append_encode hcode]

/-- A visible byte of ASCII at the end stays. -/
theorem trimRight_append_visible {b : UInt8} (hb : 0x20 < b.toNat ∧ b.toNat < 0x80) (u : Bytes) :
    trimRight (u ++ [b]) = u ++ [b] := by
  have hascii : b < 0x80 := by simpa only [UInt8.lt_iff_toNat_lt, UInt8.reduceToNat] using hb.2
  rw [trimRight, Utf8.decodeLast_append_ascii hascii, if_neg]
  rintro ⟨-, hblank⟩
  rw [isBlank_eq_false_of_visible hb] at hblank
  exact Bool.false_ne_true hblank

/-- Up to a visible byte of ASCII, a text with blanks behind it is trimmed. -/
theorem trimRight_append {u w : Bytes} {b : UInt8} (hb : 0x20 < b.toNat ∧ b.toNat < 0x80)
    (hlast : u.getLast? = some b) (hw : Blanks w) : trimRight (u ++ w) = u := by
  obtain ⟨v, rfl⟩ := List.getLast?_eq_some_iff.mp hlast
  rw [trimRight_append_blanks hw, trimRight_append_visible hb]

/-- What is left of a text is a beginning of it. -/
theorem trimRight_prefix (text : Bytes) : trimRight text <+: text := by
  fun_induction trimRight text with
  | case1 text last _ ih => exact ih.trans (List.take_prefix _ _)
  | case2 => exact List.prefix_rfl

end TensorLang.Text
