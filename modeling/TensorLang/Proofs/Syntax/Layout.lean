import TensorLang.Proofs.Syntax.Derivation

/-!
# Layouts and cursors

A reader works on a cursor that stands in front of a token, with the blanks before it already
skipped. `Cursor.Step` is the move over one terminal and the blanks behind it, and `Cursor.Passes`
is a sequence of such moves.

The main statements, `passes_of_laid` and `laid_of_passes`, say that the layouts of a text are
exactly the ways to move over it: a layout may distribute its blanks as it likes, while a move
always takes all of them, and this makes no difference because no terminal begins with a blank.
-/

namespace TensorLang

open Text (Blanks startsBlank blankLength)

/-! ### What terminals begin with -/

namespace Grammar

/-- The bytes that terminals begin with: no blank begins with one of them. -/
private theorem startsBlank_cons_of_visible {b : UInt8} (h : 0x20 < b.toNat ∧ b.toNat < 0x80)
    (rest : Bytes) : startsBlank (b :: rest) = false := by
  refine Text.startsBlank_cons_of_ascii ?_ ?_ rest
  · simp only [UInt8.lt_iff_toNat_lt, UInt8.reduceToNat]
    omega
  · exact Text.isBlank_eq_false_of_visible h

theorem isDigit_iff {b : UInt8} : Decimal.isDigit b = true ↔ 48 ≤ b.toNat ∧ b.toNat ≤ 57 := by
  simp [Decimal.isDigit, UInt8.le_iff_toNat_le]

theorem isNameStart_iff {b : UInt8} :
    isNameStart b = true ↔
      b.toNat = 95 ∨ (65 ≤ b.toNat ∧ b.toNat ≤ 90) ∨ (97 ≤ b.toNat ∧ b.toNat ≤ 122) := by
  simp [isNameStart, UInt8.le_iff_toNat_le, ← UInt8.toNat_inj, or_assoc]

theorem isNamePart_iff {b : UInt8} :
    isNamePart b = true ↔
      b.toNat = 95 ∨ (65 ≤ b.toNat ∧ b.toNat ≤ 90) ∨ (97 ≤ b.toNat ∧ b.toNat ≤ 122) ∨
        (48 ≤ b.toNat ∧ b.toNat ≤ 57) := by
  simp only [isNamePart, Bool.or_eq_true, isNameStart_iff, isDigit_iff, or_assoc]

theorem IsName.eq_cons {letters : Bytes} (h : IsName letters) :
    ∃ b bs, letters = b :: bs ∧ isNameStart b = true ∧ ∀ c ∈ bs, isNamePart c = true := by
  cases letters with
  | nil => exact h.elim
  | cons b bs => exact ⟨b, bs, rfl, h⟩

namespace Terminal

/-- A terminal begins with a visible byte of ASCII. -/
theorem text_eq_cons (t : Terminal) :
    ∃ b bs, t.text = b :: bs ∧ 0x20 < b.toNat ∧ b.toNat < 0x80 := by
  cases t with
  | number digits h =>
    obtain ⟨hne, hall⟩ := h
    obtain ⟨b, bs, rfl⟩ := List.exists_cons_of_ne_nil hne
    have hb := isDigit_iff.mp (hall b List.mem_cons_self)
    exact ⟨b, bs, rfl, by omega⟩
  | word letters h =>
    obtain ⟨b, bs, rfl, hb, -⟩ := h.eq_cons
    have hb' := isNameStart_iff.mp hb
    exact ⟨b, bs, rfl, by omega⟩
  | _ => exact ⟨_, _, rfl, by decide⟩

theorem text_length_pos (t : Terminal) : 0 < t.text.length := by
  obtain ⟨b, bs, ht, -⟩ := t.text_eq_cons
  simp [ht]

/-- No terminal begins with a blank. -/
theorem startsBlank_text_append (t : Terminal) (rest : Bytes) :
    startsBlank (t.text ++ rest) = false := by
  obtain ⟨b, bs, ht, hb⟩ := t.text_eq_cons
  rw [ht, List.cons_append]
  exact startsBlank_cons_of_visible hb _

end Terminal

end Grammar

/-! ### Cursors -/

namespace Cursor

open Grammar (Lexeme Terminal Laid)

/-- No blank stands directly ahead. -/
def IsTrimmed (c : Cursor) : Prop := startsBlank c.rest = false

@[simp]
theorem advance_zero (c : Cursor) : c.advance 0 = c := by
  simp [advance]

theorem isTrimmed_skipBlanks (c : Cursor) : c.skipBlanks.IsTrimmed :=
  Text.startsBlank_drop_blankLength c.rest

theorem IsTrimmed.skipBlanks_eq {c : Cursor} (h : c.IsTrimmed) : c.skipBlanks = c := by
  rw [skipBlanks, Text.blankLength_of_startsBlank_eq_false h, advance_zero]

theorem length_skipBlanks_le (c : Cursor) : c.skipBlanks.rest.length ≤ c.rest.length := by
  rw [skipBlanks, advance, List.length_drop]
  exact Nat.sub_le _ _

/-- The cursor moves over one terminal and the blanks behind it. -/
inductive Step (c : Cursor) : Lexeme → Cursor → Prop where
  | mk {t : Terminal} {rest : Bytes} :
      c.rest = t.text ++ rest →
      Step c ⟨t, c.spanOf t.text.length⟩ (c.advance t.text.length).skipBlanks

/-- The cursor moves over terminals one after the other. -/
inductive Passes : Cursor → List Lexeme → Cursor → Prop where
  | nil {c : Cursor} : Passes c [] c
  | cons {c c' c'' : Cursor} {l : Lexeme} {ls : List Lexeme} :
      Step c l c' → Passes c' ls c'' → Passes c (l :: ls) c''

theorem Step.isTrimmed {c c' : Cursor} {l : Lexeme} (h : Step c l c') : c'.IsTrimmed := by
  cases h
  exact isTrimmed_skipBlanks _

/-- A step takes up text. -/
theorem Step.length_lt {c c' : Cursor} {l : Lexeme} (h : Step c l c') :
    c'.rest.length < c.rest.length := by
  cases h with
  | @mk t rest hrest =>
    have hpos := t.text_length_pos
    have hle := (c.advance t.text.length).length_skipBlanks_le
    have hlen : (c.advance t.text.length).rest.length + t.text.length = c.rest.length := by
      simp [advance, hrest, Nat.add_comm]
    omega

/-- The first byte ahead of a step is that of its terminal. -/
theorem Step.head? {c c' : Cursor} {l : Lexeme} (h : Step c l c') :
    c.rest.head? = l.value.text.head? := by
  cases h with
  | @mk t rest hrest =>
    obtain ⟨b, bs, ht, -⟩ := t.text_eq_cons
    simp [hrest, ht]

theorem Step.passes {c c' : Cursor} {l : Lexeme} (h : Step c l c') : Passes c [l] c' :=
  .cons h .nil

theorem Passes.isTrimmed {c c' : Cursor} {ls : List Lexeme} (h : Passes c ls c')
    (hc : c.IsTrimmed) : c'.IsTrimmed := by
  induction h with
  | nil => exact hc
  | cons hstep _ ih => exact ih hstep.isTrimmed

/-- A terminal ahead means that no blank is ahead. -/
theorem Step.isTrimmed_left {c c' : Cursor} {l : Lexeme} (h : Step c l c') : c.IsTrimmed := by
  cases h with
  | @mk t rest hrest => rw [IsTrimmed, hrest]; exact t.startsBlank_text_append rest

theorem Passes.isTrimmed_left {c c' : Cursor} {ls : List Lexeme} (h : Passes c ls c')
    (hne : ls ≠ []) : c.IsTrimmed := by
  cases h with
  | nil => exact absurd rfl hne
  | cons hstep _ => exact hstep.isTrimmed_left

theorem Passes.append {c c' c'' : Cursor} {ls ms : List Lexeme} (h : Passes c ls c')
    (h' : Passes c' ms c'') : Passes c (ls ++ ms) c'' := by
  induction h with
  | nil => exact h'
  | cons hstep _ ih => exact .cons hstep (ih h')

theorem passes_append_iff {c c'' : Cursor} {ls ms : List Lexeme} :
    Passes c (ls ++ ms) c'' ↔ ∃ c', Passes c ls c' ∧ Passes c' ms c'' := by
  refine ⟨fun h => ?_, fun ⟨_, h, h'⟩ => h.append h'⟩
  induction ls generalizing c with
  | nil => exact ⟨c, .nil, h⟩
  | cons l ls ih =>
    cases h with
    | cons hstep hrest =>
      obtain ⟨c', h1, h2⟩ := ih hrest
      exact ⟨c', .cons hstep h1, h2⟩

theorem passes_cons_iff {c c'' : Cursor} {l : Lexeme} {ls : List Lexeme} :
    Passes c (l :: ls) c'' ↔ ∃ c', Step c l c' ∧ Passes c' ls c'' :=
  ⟨fun | .cons h h' => ⟨_, h, h'⟩, fun ⟨_, h, h'⟩ => .cons h h'⟩

@[simp]
theorem passes_nil_iff {c c' : Cursor} : Passes c [] c' ↔ c' = c :=
  ⟨fun | .nil => rfl, fun h => h ▸ .nil⟩

theorem passes_singleton_iff {c c' : Cursor} {l : Lexeme} : Passes c [l] c' ↔ Step c l c' := by
  refine ⟨fun h => ?_, Step.passes⟩
  obtain ⟨c₁, hstep, hnil⟩ := passes_cons_iff.mp h
  exact passes_nil_iff.mp hnil ▸ hstep

/-- Passing over any terminals takes up text. -/
theorem Passes.length_lt {c c' : Cursor} {ls : List Lexeme} (h : Passes c ls c') (hne : ls ≠ []) :
    c'.rest.length < c.rest.length := by
  induction h with
  | nil => exact absurd rfl hne
  | @cons c c' c'' l ls hstep hrest ih =>
    have hlt := hstep.length_lt
    cases ls with
    | nil => obtain rfl := passes_nil_iff.mp hrest; exact hlt
    | cons m ms => exact Nat.lt_trans (ih (List.cons_ne_nil m ms)) hlt

end Cursor

/-! ### Layouts are ways to move -/

namespace Grammar

open Cursor (Passes)

/-- Blanks in front of a layout belong to it. -/
theorem Laid.prepend {file pos : Nat} {w text : Bytes} {ls : List Lexeme} (hw : Blanks w)
    (h : Laid file (pos + w.length) text ls) : Laid file pos (w ++ text) ls := by
  cases h with
  | nil hv => exact .nil (hw.append hv)
  | @cons _ v rest t ls hv hrest =>
    have hlaid : Laid file pos (w ++ v ++ t.text ++ rest) _ :=
      .cons (hw.append hv) (by rwa [List.length_append, ← Nat.add_assoc])
    rwa [List.length_append, ← Nat.add_assoc, List.append_assoc w, List.append_assoc w] at hlaid

/-- The cursor skips a run of blanks that no blank follows. -/
theorem skipBlanks_append (file pos : Nat) {w rest : Bytes} (hw : Blanks w)
    (hr : startsBlank rest = false) :
    (⟨file, pos, w ++ rest⟩ : Cursor).skipBlanks = ⟨file, pos + w.length, rest⟩ := by
  simp only [Cursor.skipBlanks, Cursor.advance, Text.blankLength_append hw hr, List.drop_left]

/-- What was skipped is a run of blanks, and a layout may begin with them. -/
theorem exists_skipped (c : Cursor) :
    ∃ u, c.rest = u ++ c.skipBlanks.rest ∧ c.skipBlanks.pos = c.pos + u.length ∧
      ∀ text ls, Laid c.file c.skipBlanks.pos text ls → Laid c.file c.pos (u ++ text) ls := by
  have hlen : (c.rest.take (blankLength c.rest)).length = blankLength c.rest := by
    rw [List.length_take, Nat.min_eq_left (Text.blankLength_le c.rest)]
  refine ⟨c.rest.take (blankLength c.rest), (List.take_append_drop _ _).symm, ?_, ?_⟩
  · rw [hlen]
    rfl
  · intro text ls h
    exact Laid.prepend (Text.blanks_take_blankLength c.rest) (by rw [hlen]; exact h)

private theorem laid_of_skipBlanks (c : Cursor) {ls : List Lexeme}
    (h : Laid c.file c.skipBlanks.pos c.skipBlanks.rest ls) : Laid c.file c.pos c.rest ls := by
  obtain ⟨u, hu, -, hlaid⟩ := exists_skipped c
  rw [hu]
  exact hlaid _ ls h

/-- The cursor, once it has skipped the blanks at the beginning, passes over the lexemes of a layout
up to the end. -/
theorem passes_of_laid {file pos : Nat} {text : Bytes} {ls : List Lexeme}
    (h : Laid file pos text ls) :
    Passes (⟨file, pos, text⟩ : Cursor).skipBlanks ls ⟨file, pos + text.length, []⟩ := by
  induction h with
  | @nil pos w hw =>
    have hskip := skipBlanks_append file pos hw Text.startsBlank_nil
    rw [List.append_nil] at hskip
    rw [hskip]
    exact .nil
  | @cons pos w rest t ls hw _ ih =>
    have hskip := skipBlanks_append file pos hw (t.startsBlank_text_append rest)
    have hstep : Cursor.Step ⟨file, pos + w.length, t.text ++ rest⟩ _ _ := .mk rfl
    have hadvance : (⟨file, pos + w.length, t.text ++ rest⟩ : Cursor).advance t.text.length =
        ⟨file, pos + w.length + t.text.length, rest⟩ := by
      simp only [Cursor.advance, List.drop_left]
    have hend : pos + w.length + t.text.length + rest.length =
        pos + (w ++ (t.text ++ rest)).length := by
      simp only [List.length_append]
      omega
    rw [hadvance] at hstep
    rw [hend] at ih
    rw [List.append_assoc, hskip]
    exact .cons hstep ih

private theorem laid_of_passes_trimmed {c c' : Cursor} {ls : List Lexeme} (h : Passes c ls c')
    (hc' : c'.rest = []) : Laid c.file c.pos c.rest ls := by
  induction h with
  | nil => rw [hc']; exact .nil .nil
  | @cons c _ _ _ _ hstep _ ih =>
    cases hstep with
    | @mk t rest hrest =>
      have hlaid := laid_of_skipBlanks (c.advance t.text.length) (ih hc')
      simp only [Cursor.advance, hrest, List.drop_left] at hlaid
      rw [hrest]
      exact .cons .nil hlaid

/-- What the cursor passes over up to the end is a layout. -/
theorem laid_of_passes {c c' : Cursor} {ls : List Lexeme} (h : Passes c.skipBlanks ls c')
    (hc' : c'.rest = []) : Laid c.file c.pos c.rest ls :=
  laid_of_skipBlanks c (laid_of_passes_trimmed h hc')

end Grammar

end TensorLang
