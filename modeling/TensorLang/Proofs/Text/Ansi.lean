import TensorLang.Proofs.Text.Decimal
import TensorLang.Proofs.Text.Pieces
import TensorLang.Text.Ansi

/-!
# What a terminal shows

Escape sequences begin with an escape byte, end with the letter `m`, and are not shown. So painted
text is shown as the text itself (`Ansi.visible_paint_append`), and only digits and a few other
signs are added to it.
-/

namespace TensorLang.Ansi

/-- What a terminal shows of a text; `inside` tells that an escape sequence has begun and not ended
yet. -/
def visibleFrom (inside : Bool) : Bytes → Bytes
  | [] => []
  | b :: rest =>
    if inside then visibleFrom (b != 109) rest
    else if b = 0x1B then visibleFrom true rest
    else b :: visibleFrom false rest

/-- What a terminal shows of a text: everything but escape sequences. -/
def visible (text : Bytes) : Bytes := visibleFrom false text

theorem visible_append {text : Bytes} (h : 0x1B ∉ text) (rest : Bytes) :
    visible (text ++ rest) = text ++ visible rest := by
  induction text with
  | nil => rfl
  | cons b text ih =>
    rw [List.mem_cons, not_or] at h
    have hstep : visible (b :: (text ++ rest)) = b :: visible (text ++ rest) := by
      rw [visible, visibleFrom, if_neg (by decide), if_neg (Ne.symm h.1), visible]
    rw [List.cons_append, hstep, ih h.2, List.cons_append]

theorem visible_of_not_mem {text : Bytes} (h : 0x1B ∉ text) : visible text = text := by
  have happend : visible (text ++ []) = text ++ [] := visible_append h []
  rwa [List.append_nil] at happend

theorem visibleFrom_inside {text : Bytes} (h : 109 ∉ text) (rest : Bytes) :
    visibleFrom true (text ++ 109 :: rest) = visible rest := by
  induction text with
  | nil => rfl
  | cons b text ih =>
    rw [List.mem_cons, not_or] at h
    have hb : (b != 109) = true := bne_iff_ne.mpr (Ne.symm h.1)
    rw [List.cons_append, visibleFrom, if_pos rfl, hb, ih h.2]

/-- The signs in an escape sequence before the letter that ends it. -/
theorem sequence_eq (codes : List Nat) :
    ∃ body : Bytes, sequence codes = 0x1B :: (body ++ [109]) ∧
      ∀ b ∈ body, b = 91 ∨ b = 59 ∨ Decimal.isDigit b = true := by
  have hutf8 : ";".utf8 = [59] ∧ "m".utf8 = [109] := by decide
  refine ⟨91 :: Bytes.joinWith [59] (codes.map Decimal.ofNat), ?_, ?_⟩
  · rw [sequence, hutf8.1, hutf8.2]
    rfl
  · intro b hb
    rcases List.mem_cons.mp hb with rfl | hb
    · exact .inl rfl
    rcases Bytes.mem_joinWith hb with hsep | ⟨part, hpart, hb⟩
    · exact .inr (.inl (List.mem_singleton.mp hsep))
    · obtain ⟨n, -, rfl⟩ := List.mem_map.mp hpart
      exact .inr (.inr (Decimal.isDigit_of_mem_ofNat hb))

/-- Other signs do not occur in escape sequences. -/
theorem not_mem_sequence {b : UInt8} (hsign : b ∉ ([0x1B, 91, 59, 109] : Bytes))
    (hdigit : Decimal.isDigit b = false) (codes : List Nat) : b ∉ sequence codes := by
  obtain ⟨body, hsequence, hbody⟩ := sequence_eq codes
  simp only [List.mem_cons, List.not_mem_nil, or_false, not_or] at hsign
  rw [hsequence, List.mem_cons, List.mem_append, List.mem_singleton]
  rintro (h | h | h)
  · exact hsign.1 h
  · rcases hbody b h with h | h | h
    · exact hsign.2.1 h
    · exact hsign.2.2.1 h
    · rw [hdigit] at h
      cases h
  · exact hsign.2.2.2 h

theorem visible_sequence_append (codes : List Nat) (rest : Bytes) :
    visible (sequence codes ++ rest) = visible rest := by
  obtain ⟨body, hsequence, hbody⟩ := sequence_eq codes
  have hend : 109 ∉ body := by
    intro h
    rcases hbody 109 h with h | h | h <;> exact absurd h (by decide)
  rw [hsequence, List.cons_append, List.append_assoc, List.singleton_append]
  exact visibleFrom_inside hend rest

/-- What switches a style on. -/
def opening (enabled : Bool) (style : List Attribute) : Bytes :=
  if enabled then sequence (style.map Attribute.onCode) else []

/-- What switches a style off. -/
def closing (enabled : Bool) (style : List Attribute) : Bytes :=
  if enabled then sequence (style.map Attribute.offCode) else []

section Paint

variable (enabled : Bool) (style : List Attribute)

theorem paint_eq (text : Bytes) :
    paint enabled style text = opening enabled style ++ text ++ closing enabled style := by
  cases enabled with
  | false => exact (List.append_nil text).symm
  | true => rfl

theorem visible_opening_append (rest : Bytes) :
    visible (opening enabled style ++ rest) = visible rest := by
  cases enabled with
  | false => rfl
  | true => exact visible_sequence_append _ rest

theorem visible_closing_append (rest : Bytes) :
    visible (closing enabled style ++ rest) = visible rest := by
  cases enabled with
  | false => rfl
  | true => exact visible_sequence_append _ rest

/-- Colours are not seen as text. -/
theorem visible_paint_append {text : Bytes} (h : 0x1B ∉ text) (rest : Bytes) :
    visible (paint enabled style text ++ rest) = text ++ visible rest := by
  rw [paint_eq, List.append_assoc, List.append_assoc, visible_opening_append, visible_append h,
    visible_closing_append]

theorem not_mem_opening {b : UInt8} (hsign : b ∉ ([0x1B, 91, 59, 109] : Bytes))
    (hdigit : Decimal.isDigit b = false) : b ∉ opening enabled style := by
  cases enabled with
  | false => exact List.not_mem_nil
  | true => exact not_mem_sequence hsign hdigit _

theorem not_mem_closing {b : UInt8} (hsign : b ∉ ([0x1B, 91, 59, 109] : Bytes))
    (hdigit : Decimal.isDigit b = false) : b ∉ closing enabled style := by
  cases enabled with
  | false => exact List.not_mem_nil
  | true => exact not_mem_sequence hsign hdigit _

theorem not_mem_paint {b : UInt8} (hsign : b ∉ ([0x1B, 91, 59, 109] : Bytes))
    (hdigit : Decimal.isDigit b = false) {text : Bytes} (h : b ∉ text) :
    b ∉ paint enabled style text := by
  rw [paint_eq, List.mem_append, List.mem_append, not_or, not_or]
  exact ⟨⟨not_mem_opening enabled style hsign hdigit, h⟩,
    not_mem_closing enabled style hsign hdigit⟩

end Paint

end TensorLang.Ansi
