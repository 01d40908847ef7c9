import TensorLang.Proofs.Syntax.Reading
import TensorLang.Proofs.Text.Ascii
import TensorLang.Proofs.Text.Pieces

/-!
# Reading terminals

Every terminal is read in exactly one situation: the cursor stands in front of its text and, for a
number or a word, the text behind it does not go on in the same class of bytes. For signs there is
no second condition, since a sign is no proper beginning of another one.

The readers of literals convert what they read and may reject it. What they accept is what the rules
`Int32Literal`, `Dimension` and `Annotation` of the grammar allow.
-/

namespace TensorLang

open Grammar (Lexeme Terminal IsNumber IsName)

/-! ### Primitive readers -/

namespace Cursor

/-- The text ahead does not begin with a byte of the class. -/
def Stops (c : Cursor) (cls : UInt8 → Bool) : Prop := ∀ b, c.rest.head? = some b → cls b = false

end Cursor

namespace Reader

variable {α β : Type} {c c' : Cursor}

theorem exactly_eq_some {text : Bytes} {s : Span} :
    (exactly text c).value = some (s, c') ↔
      (∃ rest, c.rest = text ++ rest) ∧ s = c.spanOf text.length ∧ c' = c.advance text.length := by
  rw [exactly]
  split_ifs with h
  · simp only [Option.some.injEq, Prod.mk.injEq, Bytes.startsWith_iff.mp h, true_and,
      eq_comm (a := s), eq_comm (a := c')]
  · rw [Bytes.startsWith_iff] at h
    simp [h]

theorem exactly_accepts {text rest : Bytes} (h : c.rest = text ++ rest) :
    (exactly text).Accepts c (c.spanOf text.length) (c.advance text.length) := by
  refine ⟨[], (c.spanOf text.length).fits, ?_, rfl⟩
  rw [exactly, if_pos (Bytes.startsWith_iff.mpr ⟨rest, h⟩)]

theorem exactly_refuses {b : UInt8} {bs : Bytes} (h : c.rest.head? ≠ some b) :
    (exactly (b :: bs)).Refuses c := by
  refine ⟨[.expected c.pos (.token (b :: bs))], true, ?_, rfl⟩
  rw [exactly, if_neg]
  rw [Bytes.startsWith_iff]
  rintro ⟨rest, hrest⟩
  exact h (by rw [hrest, List.cons_append, List.head?_cons])

section Run

variable {label : Label} {first rest : UInt8 → Bool}

/-- A run is as long as it can be. -/
theorem run_eq_some {w : Bytes} (h : (run label first rest c).value = some (w, c')) :
    ∃ b bs tail, w = b :: bs ∧ first b = true ∧ (∀ x ∈ bs, rest x = true) ∧ c.rest = w ++ tail ∧
      c' = c.advance w.length := by
  rw [run] at h
  split at h
  · next b bs hrest =>
    split_ifs at h with hb
    simp only [Option.some.injEq, Prod.mk.injEq] at h
    obtain ⟨rfl, rfl⟩ := h
    refine ⟨b, bs.takeWhile rest, bs.dropWhile rest, rfl, hb,
      List.all_eq_true.mp List.all_takeWhile, ?_, rfl⟩
    rw [hrest, List.cons_append, List.takeWhile_append_dropWhile]
  · simp at h

theorem run_accepts {b : UInt8} {bs tail : Bytes} (hrest : c.rest = b :: bs ++ tail)
    (hb : first b = true) (hbs : ∀ x ∈ bs, rest x = true)
    (htail : ∀ x, tail.head? = some x → rest x = false) :
    (run label first rest).Accepts c (b :: bs) (c.advance (b :: bs).length) := by
  have hword : (bs ++ tail).takeWhile rest = bs := by
    rw [List.takeWhile_append_of_pos hbs]
    cases tail with
    | nil => simp
    | cons x xs => simp [htail x rfl]
  refine ⟨[], true, ?_, rfl⟩
  simp only [run, hrest, List.cons_append, hb, if_true, hword]

theorem run_refuses (h : c.Stops first) : (run label first rest).Refuses c := by
  refine ⟨[.expected c.pos label], true, ?_, rfl⟩
  rw [run]
  split
  · next b bs hrest => rw [if_neg (by simp [h b (by rw [hrest, List.head?_cons])])]
  · rfl

end Run

theorem convert_eq_some {p : Reader α} {f : α → Except LiteralProblem β} {b : β}
    (h : (convert p f c).value = some (b, c')) :
    ∃ a, (p c).value = some (a, c') ∧ f a = .ok b := by
  rw [convert] at h
  rcases hp : p c with ⟨_ | ⟨a, c₁⟩, log, fits⟩
  · simp [hp] at h
  · rw [hp] at h
    dsimp only at h
    split at h
    · next b hb =>
      simp only [Option.some.injEq, Prod.mk.injEq] at h
      obtain ⟨rfl, rfl⟩ := h
      exact ⟨a, rfl, hb⟩
    · simp at h

theorem Accepts.convert {p : Reader α} {f : α → Except LiteralProblem β} {a : α} {b : β}
    (hp : p.Accepts c a c') (hf : f a = .ok b) : (convert p f).Accepts c b c' := by
  obtain ⟨l, s, hp, hl⟩ := hp
  exact ⟨l, s, by simp only [Reader.convert, hp, hf], hl⟩

theorem Refuses.convert {p : Reader α} {f : α → Except LiteralProblem β} (hp : p.Refuses c) :
    (convert p f).Refuses c := by
  obtain ⟨l, s, hp, hl⟩ := hp
  exact ⟨l, s, by simp only [Reader.convert, hp], hl⟩

theorem atEnd_eq_some {u : Unit} : (atEnd c).value = some (u, c') ↔ c.rest = [] ∧ c' = c := by
  rw [atEnd]
  split
  · next h => simp [h, eq_comm]
  · next h => simp [h]

theorem atEnd_accepts (h : c.rest = []) : atEnd.Accepts c () c := by
  refine ⟨[], true, ?_, rfl⟩
  simp only [atEnd, h]

end Reader

/-! ### Signs -/

namespace Cursor

variable {c c' : Cursor}

/-- A class that holds no blank ends in front of blanks, too. -/
theorem Stops.of_skipBlanks {cls : UInt8 → Bool} (h : c.skipBlanks.Stops cls)
    (hcls : ∀ b, cls b = true → 0x20 < b.toNat ∧ b.toNat < 0x80) : c.Stops cls := by
  intro b hb
  have hblanks := Text.blanks_take_blankLength c.rest
  rcases hn : Text.blankLength c.rest with _ | n
  · have hskip : c.skipBlanks = c := by rw [skipBlanks, hn, advance_zero]
    exact h b (by rwa [hskip])
  · obtain ⟨bs, hbs⟩ : ∃ bs, c.rest = b :: bs := List.head?_eq_some_iff.mp hb
    rw [hn, hbs, List.take_succ_cons] at hblanks
    have hbound := hblanks.head_bound
    cases hb' : cls b with
    | false => rfl
    | true => have := hcls b hb'; omega

theorem Step.head?_ne {t : Terminal} {s : Span} {b : UInt8} (h : Step c ⟨t, s⟩ c')
    (hb : t.text.head? ≠ some b) : c.rest.head? ≠ some b := by
  rwa [h.head?]

/-- The text ahead of a terminal begins with its first byte. -/
theorem Step.stops {l : Lexeme} {cls : UInt8 → Bool} (h : Step c l c')
    (hl : l.value.text.head?.all (fun b => !cls b) = true) : c.Stops cls := by
  intro b hb
  rw [h.head?] at hb
  rw [hb] at hl
  simpa using hl

end Cursor

namespace Grammar

open Reader
open Cursor (Step Stops)

variable {c c' : Cursor}

theorem token_sound {text : String} {s : Span} (t : Terminal) (ht : t.text = text.utf8)
    (hc : c.IsTrimmed) (h : (token text c).value = some (s, c')) : Step c ⟨t, s⟩ c' := by
  obtain ⟨c₁, hread, rfl⟩ := (padded_eq_some hc).mp h
  rw [exactly_eq_some, ← ht] at hread
  obtain ⟨⟨rest, hrest⟩, rfl, rfl⟩ := hread
  exact .mk hrest

theorem token_accepts {text : String} {t : Terminal} {s : Span} (h : Step c ⟨t, s⟩ c')
    (ht : t.text = text.utf8) : (token text).Accepts c s c' := by
  have hc := h.isTrimmed_left
  cases h with
  | mk hrest =>
    rw [ht] at hrest ⊢
    exact (exactly_accepts hrest).padded hc

theorem token_refuses {text : String} {b : UInt8} {bs : Bytes} (ht : text.utf8 = b :: bs)
    (hc : c.IsTrimmed) (h : c.rest.head? ≠ some b) : (token text).Refuses c := by
  rw [token, ht]
  exact (exactly_refuses h).padded hc

/-! ### Numbers and words -/

private theorem visible_of_isDigit (b : UInt8) (h : Decimal.isDigit b = true) :
    0x20 < b.toNat ∧ b.toNat < 0x80 := by
  have := isDigit_iff.mp h
  omega

private theorem visible_of_isNamePart (b : UInt8) (h : isNamePart b = true) :
    0x20 < b.toNat ∧ b.toNat < 0x80 := by
  have := isNamePart_iff.mp h
  omega

theorem digits_sound {w : Bytes} (h : (digits c).value = some (w, c')) :
    ∃ hw : IsNumber w, Step c ⟨.number w hw, c.trimmedTo c'⟩ c'.skipBlanks := by
  obtain ⟨b, bs, tail, hw, hb, hbs, hrest, rfl⟩ := run_eq_some h
  have hnum : IsNumber w := by
    rw [hw]
    exact ⟨List.cons_ne_nil b bs, List.forall_mem_cons.mpr ⟨hb, hbs⟩⟩
  refine ⟨hnum, ?_⟩
  have hspan : c.trimmedTo (c.advance w.length) = c.spanOf w.length :=
    Cursor.trimmedTo_advance (t := .number w hnum) hrest
  rw [hspan]
  exact .mk (t := .number w hnum) hrest

theorem digits_accepts {ds : Bytes} {h : IsNumber ds} {s : Span}
    (hstep : Step c ⟨.number ds h, s⟩ c') (hstop : c'.Stops Decimal.isDigit) :
    ∃ c₁, digits.Accepts c ds c₁ ∧ c₁.skipBlanks = c' ∧ c.trimmedTo c₁ = s := by
  cases hstep with
  | @mk _ tail hrest =>
    obtain ⟨b, bs, rfl⟩ := List.exists_cons_of_ne_nil h.1
    obtain ⟨hb, hbs⟩ := List.forall_mem_cons.mp h.2
    have htail := hstop.of_skipBlanks visible_of_isDigit
    simp only [Cursor.Stops, Cursor.advance, hrest, List.drop_left] at htail
    exact ⟨_, run_accepts hrest hb hbs htail, rfl, Cursor.trimmedTo_advance hrest⟩

theorem word_sound {w : Bytes} (h : (word c).value = some (w, c')) :
    ∃ hw : IsName w, Step c ⟨.word w hw, c.trimmedTo c'⟩ c'.skipBlanks := by
  obtain ⟨b, bs, tail, hw, hb, hbs, hrest, rfl⟩ := run_eq_some h
  have hname : IsName w := by
    rw [hw]
    exact ⟨hb, hbs⟩
  refine ⟨hname, ?_⟩
  have hspan : c.trimmedTo (c.advance w.length) = c.spanOf w.length :=
    Cursor.trimmedTo_advance (t := .word w hname) hrest
  rw [hspan]
  exact .mk (t := .word w hname) hrest

theorem word_accepts {letters : Bytes} {h : IsName letters} {s : Span}
    (hstep : Step c ⟨.word letters h, s⟩ c') (hstop : c'.Stops isNamePart) :
    ∃ c₁, word.Accepts c letters c₁ ∧ c₁.skipBlanks = c' ∧ c.trimmedTo c₁ = s := by
  cases hstep with
  | @mk _ tail hrest =>
    obtain ⟨b, bs, rfl, hb, hbs⟩ := h.eq_cons
    have htail := hstop.of_skipBlanks visible_of_isNamePart
    simp only [Cursor.Stops, Cursor.advance, hrest, List.drop_left] at htail
    exact ⟨_, run_accepts hrest hb hbs htail, rfl, Cursor.trimmedTo_advance hrest⟩

theorem name_sound {w : Spanned Bytes} (hc : c.IsTrimmed) (h : (name c).value = some (w, c')) :
    ∃ hw : IsName w.value, Step c ⟨.word w.value hw, w.span⟩ c' := by
  obtain ⟨c₁, hread, rfl⟩ := (padded_eq_some hc).mp h
  obtain ⟨letters, hword, rfl⟩ := located_eq_some.mp hread
  exact word_sound hword

theorem name_accepts {letters : Bytes} {h : IsName letters} {s : Span}
    (hstep : Step c ⟨.word letters h, s⟩ c') (hstop : c'.Stops isNamePart) :
    name.Accepts c ⟨letters, s⟩ c' := by
  obtain ⟨c₁, haccepts, rfl, rfl⟩ := word_accepts hstep hstop
  exact (haccepts.located Spanned.mk).padded hstep.isTrimmed_left

/-! ### Literals -/

section Literals

variable {β : Type} {f : Bytes → Except LiteralProblem β} {v : Spanned β}

private theorem number_sound (hc : c.IsTrimmed)
    (h : (padded (located (convert digits f) Spanned.mk) c).value = some (v, c')) :
    ∃ ds hds, f ds = .ok v.value ∧ Step c ⟨.number ds hds, v.span⟩ c' := by
  obtain ⟨c₁, hread, rfl⟩ := (padded_eq_some hc).mp h
  obtain ⟨b, hconvert, rfl⟩ := located_eq_some.mp hread
  obtain ⟨ds, hds, hf⟩ := convert_eq_some hconvert
  obtain ⟨hnum, hstep⟩ := digits_sound hds
  exact ⟨ds, hnum, hf, hstep⟩

private theorem number_accepts {ds : Bytes} {hds : IsNumber ds} {s : Span} {b : β}
    (hstep : Step c ⟨.number ds hds, s⟩ c') (hf : f ds = .ok b)
    (hstop : c'.Stops Decimal.isDigit) :
    (padded (located (convert digits f) Spanned.mk)).Accepts c ⟨b, s⟩ c' := by
  obtain ⟨c₁, haccepts, rfl, rfl⟩ := digits_accepts hstep hstop
  exact ((haccepts.convert hf).located Spanned.mk).padded hstep.isTrimmed_left

private theorem number_refuses (hc : c.IsTrimmed) (h : c.Stops Decimal.isDigit) :
    (padded (located (convert digits f) Spanned.mk)).Refuses c :=
  ((run_refuses h).convert.located Spanned.mk).padded hc

end Literals

theorem int32_sound {v : Spanned Int32} (hc : c.IsTrimmed)
    (h : (int32 c).value = some (v, c')) : ∃ l, Int32Literal l v ∧ Step c l c' := by
  obtain ⟨ds, hds, hf, hstep⟩ := number_sound hc h
  rw [toInt32] at hf
  split_ifs at hf with hlt
  obtain ⟨v, s⟩ := v
  obtain rfl : Int32.ofNat (Decimal.value ds) = v := by simpa using hf
  exact ⟨_, .mk hlt, hstep⟩

theorem int32_accepts {l : Lexeme} {v : Spanned Int32} (h : Int32Literal l v)
    (hstep : Step c l c') (hstop : c'.Stops Decimal.isDigit) : int32.Accepts c v c' := by
  cases h with
  | mk hlt => exact number_accepts hstep (if_pos hlt) hstop

theorem dimension_sound {d : Spanned Int64} (hc : c.IsTrimmed)
    (h : (dimension c).value = some (d, c')) : ∃ l, Dimension l d ∧ Step c l c' := by
  obtain ⟨ds, hds, hf, hstep⟩ := number_sound hc h
  rw [toDimension] at hf
  split_ifs at hf with hlt
  obtain ⟨v, s⟩ := d
  obtain rfl : Int64.ofNat (Decimal.value ds) = v := by simpa using hf
  exact ⟨_, .mk hlt, hstep⟩

theorem dimension_accepts {l : Lexeme} {d : Spanned Int64} (h : Dimension l d)
    (hstep : Step c l c') (hstop : c'.Stops Decimal.isDigit) : dimension.Accepts c d c' := by
  cases h with
  | mk hlt => exact number_accepts hstep (if_pos hlt) hstop

theorem dimension_refuses (hc : c.IsTrimmed) (h : c.Stops Decimal.isDigit) :
    dimension.Refuses c :=
  number_refuses hc h

/-- Names are ASCII text. -/
theorem IsName.isAscii {letters : Bytes} (h : IsName letters) : letters.IsAscii := by
  intro b hb
  have := visible_of_isNamePart b (h.isNamePart_of_mem hb)
  simp only [UInt8.lt_iff_toNat_lt, UInt8.reduceToNat]
  omega

/-- The spellings of element types are told apart by their letters. -/
private theorem lookup_spellings {letters : Bytes} {dt : DType} :
    DType.spellings.lookup letters = some dt ↔ (letters, dt) ∈ DType.spellings := by
  refine ⟨fun h => ?_, fun h => ?_⟩
  · obtain ⟨l, r, heq, -⟩ := List.lookup_eq_some_iff.mp h
    rw [heq]
    exact List.mem_append_right l List.mem_cons_self
  · have hall : ∀ e ∈ DType.spellings, DType.spellings.lookup e.1 = some e.2 := by decide
    exact hall _ h

theorem toDType_eq_ok {letters : Bytes} (h : IsName letters) {dt : DType} :
    toDType letters = .ok dt ↔ (Bytes.toLowerAscii letters, dt) ∈ DType.spellings := by
  rw [← lookup_spellings, ← Text.lower_of_isAscii h.isAscii, toDType, DType.ofName?]
  cases DType.spellings.lookup (Text.lower letters) <;> simp

theorem dtype_sound {dt : Spanned DType} (hc : c.IsTrimmed)
    (h : (dtype c).value = some (dt, c')) : ∃ l, Annotation l dt ∧ Step c l c' := by
  obtain ⟨c₁, hread, rfl⟩ := (padded_eq_some hc).mp h
  obtain ⟨b, hconvert, rfl⟩ := located_eq_some.mp hread
  obtain ⟨w, hw, hf⟩ := convert_eq_some hconvert
  obtain ⟨hname, hstep⟩ := word_sound hw
  exact ⟨_, .mk ((toDType_eq_ok hname).mp hf), hstep⟩

theorem dtype_accepts {l : Lexeme} {dt : Spanned DType} (h : Annotation l dt)
    (hstep : Step c l c') (hstop : c'.Stops isNamePart) : dtype.Accepts c dt c' := by
  cases h with
  | @mk letters hname s dt hmem =>
    obtain ⟨c₁, haccepts, rfl, rfl⟩ := word_accepts hstep hstop
    exact ((haccepts.convert ((toDType_eq_ok hname).mpr hmem)).located Spanned.mk).padded
      hstep.isTrimmed_left

end Grammar

end TensorLang
