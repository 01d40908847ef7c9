import TensorLang.Proofs.Syntax.Layout

/-!
# Spans end at the last token

A reader skips the blanks behind every token, so a cursor behind a reading stands at the next token,
and the text that was read for a node ends with blanks. The span of the node is taken from that text
after trimming (`Cursor.trimmedTo`). Since a terminal ends with a visible byte and nothing but
blanks stands behind it, trimming ends exactly behind the last terminal
(`Cursor.Passes.trimmedTo_eq`): neither does a byte of a wide blank stay, nor is a byte of the
terminal lost. So the span of a node reaches from its first to its last terminal.
-/

namespace TensorLang

open Text (Blanks)

namespace Grammar

/-! ### What terminals end with -/

theorem isNamePart_of_isNameStart (b : UInt8) (h : isNameStart b = true) :
    isNamePart b = true := by
  rw [isNamePart, h, Bool.true_or]

/-- Names consist of letters, digits and underscores. -/
theorem IsName.isNamePart_of_mem {letters : Bytes} (h : IsName letters) {b : UInt8}
    (hb : b ∈ letters) : isNamePart b = true := by
  obtain ⟨first, rest, rfl, hfirst, hrest⟩ := h.eq_cons
  rcases List.mem_cons.mp hb with rfl | hb
  · exact isNamePart_of_isNameStart _ hfirst
  · exact hrest b hb

/-- Terminals are made of visible bytes of ASCII. -/
theorem Terminal.visible (t : Terminal) {b : UInt8} (hb : b ∈ t.text) :
    0x20 < b.toNat ∧ b.toNat < 0x80 := by
  cases t with
  | number digits h =>
    have := isDigit_iff.mp (h.2 b hb)
    omega
  | word letters h =>
    have := isNamePart_iff.mp (h.isNamePart_of_mem hb)
    omega
  | _ =>
    -- byte by byte along the text, not by trying all bytes
    have hall (l : Bytes) (h : l.all fun c => decide (0x20 < c.toNat ∧ c.toNat < 0x80)) :
        ∀ c ∈ l, 0x20 < c.toNat ∧ c.toNat < 0x80 := by simpa using h
    exact hall _ (by decide) b hb

/-- A terminal ends with a visible byte of ASCII. -/
theorem Terminal.exists_getLast? (t : Terminal) :
    ∃ b, t.text.getLast? = some b ∧ 0x20 < b.toNat ∧ b.toNat < 0x80 := by
  have hlast := List.getLast?_eq_some_getLast (List.length_pos_iff.mp t.text_length_pos)
  exact ⟨_, hlast, t.visible (List.mem_of_getLast? hlast)⟩

end Grammar

/-! ### Trimming -/

namespace Cursor

open Grammar (Lexeme Terminal across)

variable {c c' : Cursor} {l m : Lexeme} {ls : List Lexeme}

/-- Up to a visible byte with blanks behind it, the span is trimmed. -/
private theorem trimmedTo_of_append {u w : Bytes} {b : UInt8} (hrest : c.rest = u ++ w ++ c'.rest)
    (hpos : c'.pos = c.pos + u.length + w.length) (hw : Blanks w) (hlast : u.getLast? = some b)
    (hb : 0x20 < b.toNat ∧ b.toNat < 0x80) : c.trimmedTo c' = c.spanOf u.length := by
  have htake : c.rest.take (c'.pos - c.pos) = u ++ w := by
    have hlen : c'.pos - c.pos = (u ++ w).length := by
      rw [List.length_append]
      omega
    rw [hrest, hlen, List.take_left]
  rw [trimmedTo, htake, Text.trimRight_append hb hlast hw]

/-- A terminal alone, without the blanks behind it. -/
theorem trimmedTo_advance {t : Terminal} {rest : Bytes} (h : c.rest = t.text ++ rest) :
    c.trimmedTo (c.advance t.text.length) = c.spanOf t.text.length := by
  obtain ⟨b, hlast, hb⟩ := t.exists_getLast?
  refine trimmedTo_of_append (w := []) ?_ rfl .nil hlast hb
  rw [advance, h, List.drop_left, List.append_nil]

/-- Behind a terminal there are blanks up to where the cursor stands. -/
private theorem Step.exists_append (h : Step c l c') :
    ∃ w, c.rest = l.value.text ++ w ++ c'.rest ∧
      c'.pos = c.pos + l.value.text.length + w.length ∧ Blanks w ∧
      l.span = c.spanOf l.value.text.length := by
  cases h with
  | @mk t rest hrest =>
    have hdrop : (c.advance t.text.length).rest = rest := by rw [advance, hrest, List.drop_left]
    have hlen : (rest.take (Text.blankLength rest)).length = Text.blankLength rest := by
      rw [List.length_take, Nat.min_eq_left (Text.blankLength_le rest)]
    refine ⟨rest.take (Text.blankLength rest), ?_, ?_, Text.blanks_take_blankLength rest, rfl⟩
    · have hskip : (c.advance t.text.length).skipBlanks.rest =
          rest.drop (Text.blankLength rest) := by
        rw [skipBlanks, hdrop, advance, hdrop]
      rw [hskip, List.append_assoc, List.take_append_drop, hrest]
    · rw [hlen, skipBlanks, hdrop]
      rfl

theorem Step.span_eq (h : Step c l c') : l.span = c.spanOf l.value.text.length :=
  h.exists_append.choose_spec.2.2.2

/-- Passing over terminals leads further in the same file. -/
theorem Passes.file_eq_and_pos_le (h : Passes c ls c') : c'.file = c.file ∧ c.pos ≤ c'.pos := by
  induction h with
  | nil => exact ⟨rfl, Nat.le_refl _⟩
  | cons hstep _ ih =>
    obtain ⟨w, -, hpos, -⟩ := hstep.exists_append
    refine ⟨ih.1.trans ?_, by omega⟩
    cases hstep
    rfl

/-- What was passed over ends with the last terminal and with blanks behind it. -/
private theorem Passes.exists_append (h : Passes c ls c') (hm : ls.getLast? = some m) :
    ∃ u w b, c.rest = u ++ w ++ c'.rest ∧ c'.pos = c.pos + u.length + w.length ∧ Blanks w ∧
      m.span.stop = c.pos + u.length ∧ u.getLast? = some b ∧ 0x20 < b.toNat ∧ b.toNat < 0x80 := by
  induction h with
  | nil => cases hm
  | @cons c c₁ c₂ l ls hstep hrest ih =>
    obtain ⟨v, hv, hvpos, hblanks, hspan⟩ := hstep.exists_append
    cases ls with
    | nil =>
      obtain rfl := passes_nil_iff.mp hrest
      obtain rfl : l = m := by simpa using hm
      obtain ⟨b, hlast, hb⟩ := l.value.exists_getLast?
      exact ⟨_, v, b, hv, hvpos, hblanks, by rw [hspan]; rfl, hlast, hb⟩
    | cons l' ls =>
      obtain ⟨u, w, b, hu, hupos, hw, hstop, hlast, hb⟩ := ih (by simpa using hm)
      refine ⟨l.value.text ++ v ++ u, w, b, ?_, ?_, hw, ?_, ?_, hb⟩
      · rw [hv, hu]
        simp only [List.append_assoc]
      · rw [hupos, hvpos]
        simp only [List.length_append]
        omega
      · rw [hstop, hvpos]
        simp only [List.length_append]
        omega
      · rw [List.getLast?_append, hlast, Option.some_or]

/-- **Trimming ends at the last token** of those that were passed over. -/
theorem Passes.trimmedTo_eq (h : Passes c ls c') (hm : ls.getLast? = some m) :
    c.trimmedTo c' = ⟨c.file, c.pos, m.span.stop⟩ := by
  obtain ⟨u, w, b, hrest, hpos, hw, hstop, hlast, hb⟩ := h.exists_append hm
  rw [trimmedTo_of_append hrest hpos hw hlast hb, spanOf, hstop]

/-- The span of what was passed over reaches from the first to the last lexeme. -/
theorem Passes.trimmedTo_eq_across (h : Passes c ls c') (hl : ls.head? = some l)
    (hm : ls.getLast? = some m) : c.trimmedTo c' = across l.span m.span := by
  rw [h.trimmedTo_eq hm]
  cases h with
  | nil => cases hl
  | cons hstep _ =>
    obtain rfl := Option.some.inj hl
    rw [across, hstep.span_eq]
    rfl

end Cursor

end TensorLang
