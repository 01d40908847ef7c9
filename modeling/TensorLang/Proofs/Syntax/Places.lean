import Mathlib.Data.List.Infix
import TensorLang.Proofs.Syntax.Completeness
import TensorLang.Proofs.Syntax.Respan

/-!
# Places in a text

Lexemes that stand next to each other in a layout take up a part of the text, from the first byte of
the first to the last byte of the last one, and nothing else of the text matters to them
(`Grammar.Stands`). Such a part begins and ends with a visible byte, whatever stands around it
(`Stands.tight`), and it can be cut out: it is laid out as the same lexemes, with places that count
from its own beginning (`Stands.laid_slice`).
-/

namespace TensorLang

open Text (Blanks startsBlank)

/-! ### Spans -/

namespace Span

/-- The text under a span. -/
def slice (s : Span) (text : Bytes) : Bytes := (text.drop s.start).take (s.stop - s.start)

/-- One span lies inside another one. -/
def Within (inner outer : Span) : Prop := outer.start ≤ inner.start ∧ inner.stop ≤ outer.stop

/-- The same span when the first `k` bytes of the text are cut off. -/
def lower (k : Nat) (s : Span) : Span := ⟨s.file, s.start - k, s.stop - k⟩

/-- The span of some bytes of a text, with no blank at either end of them. -/
structure Tight (file : Nat) (text : Bytes) (s : Span) : Prop where
  file_eq : s.file = file
  start_lt_stop : s.start < s.stop
  stop_le : s.stop ≤ text.length
  /-- The text under the span does not begin with a blank. -/
  not_startsBlank : startsBlank (s.slice text) = false
  /-- No run of blanks stands at the end of the text under the span. -/
  not_endsBlank : ∀ v w, s.slice text = v ++ w → Blanks w → w = []

theorem slice_append (file : Nat) (before body after : Bytes) :
    slice ⟨file, before.length, before.length + body.length⟩ (before ++ body ++ after) = body := by
  rw [slice, List.append_assoc, List.drop_left, Nat.add_sub_cancel_left, List.take_left]

theorem cover_lower (k : Nat) (s t : Span) :
    (s.lower k).cover (t.lower k) = (s.cover t).lower k := by
  by_cases h : s.file = t.file
  · simp only [cover, lower, h, if_true, Span.mk.injEq, true_and]
    omega
  · simp only [cover, lower, h, if_false]

end Span

/-- No byte of a run of blanks is a visible byte of ASCII. -/
theorem Text.Blanks.invisible {w : Bytes} (h : Blanks w) {b : UInt8} (hb : b ∈ w) :
    b.toNat ≤ 0x20 ∨ 0x80 ≤ b.toNat := by
  induction h with
  | nil => cases hb
  | @cons code w hcode _ ih =>
    rcases List.mem_append.mp hb with hb | hb
    -- a blank outside of ASCII is encoded by bytes from 0x80 on
    · simp only [isBlank, Bool.or_eq_true, Bool.and_eq_true, decide_eq_true_eq, beq_iff_eq] at hcode
      unfold Utf8.encode at hb
      split_ifs at hb <;>
        simp only [List.mem_cons, List.not_mem_nil, or_false] at hb <;>
        rcases hb with rfl | rfl | rfl | rfl <;>
        simp only [UInt8.toNat_ofNat', UInt8.reduceToNat] <;> omega
    · exact ih hb

namespace Grammar

variable {file pos : Nat} {text : Bytes} {ls ms : List Lexeme} {l : Lexeme}

/-! ### Parts of a layout -/

/-- Every lexeme of a layout stands at its place. -/
theorem Laid.eq_append_of_mem (h : Laid file pos text ls) (hl : l ∈ ls) :
    ∃ before after, text = before ++ l.value.text ++ after ∧
      l.span = ⟨file, pos + before.length, pos + before.length + l.value.text.length⟩ := by
  induction h with
  | nil => cases hl
  | @cons pos w rest t ls _ _ ih =>
    rcases List.mem_cons.mp hl with rfl | hl
    · exact ⟨w, rest, rfl, rfl⟩
    · obtain ⟨before, after, rfl, hspan⟩ := ih hl
      refine ⟨w ++ t.text ++ before, after, by simp only [List.append_assoc], ?_⟩
      rw [hspan]
      simp only [List.length_append, Nat.add_assoc]

/-- A layout can be cut behind any of its lexemes. -/
theorem Laid.split (h : Laid file pos text (ls ++ ms)) :
    ∃ s t, text = s ++ t ∧ Laid file pos s ls ∧ Laid file (pos + s.length) t ms ∧
      (ls = [] → s = []) ∧ ∀ l ∈ ls.getLast?, l.span.stop = pos + s.length := by
  induction ls generalizing pos text with
  | nil => exact ⟨[], text, rfl, .nil .nil, h, fun _ => rfl, nofun⟩
  | cons l ls ih =>
    rw [List.cons_append] at h
    cases h with
    | @cons _ w rest t _ hw hrest =>
      obtain ⟨s, t', rfl, hs, ht, hnil, hlast⟩ := ih hrest
      have hlen : pos + (w ++ t.text ++ s).length = pos + w.length + t.text.length + s.length := by
        simp only [List.length_append, Nat.add_assoc]
      refine ⟨w ++ t.text ++ s, t', by simp only [List.append_assoc], .cons hw hs, ?_, nofun, ?_⟩
      · rwa [hlen]
      · rw [hlen]
        cases ls with
        | nil => rw [hnil rfl]; rintro _ ⟨⟩; rfl
        | cons m ls => exact hlast

/-- The blanks in front of a layout can be cut off. -/
theorem Laid.trim (h : Laid file pos text (l :: ls)) :
    ∃ w t, text = w ++ t ∧ Blanks w ∧ Laid file (pos + w.length) t (l :: ls) ∧
      l.span.start = pos + w.length := by
  cases h with
  | @cons _ w rest t _ hw hrest =>
    refine ⟨w, t.text ++ rest, List.append_assoc .., hw, ?_, rfl⟩
    exact @Laid.cons file (pos + w.length) [] rest t ls .nil hrest

/-- Nothing in a layout depends on what stands before it. -/
theorem Laid.lower {k : Nat} (hk : k ≤ pos) (h : Laid file pos text ls) :
    Laid file (pos - k) text (ls.map (Spanned.respan (Span.lower k))) := by
  induction h with
  | nil hw => exact .nil hw
  | @cons pos w rest t ls hw _ ih =>
    have hlaid := ih (by omega)
    have hstart : pos + w.length - k = pos - k + w.length := by omega
    have hstop : pos + w.length + t.text.length - k = pos - k + w.length + t.text.length := by omega
    rw [hstop] at hlaid
    rw [List.map_cons, Spanned.respan, Span.lower, hstart, hstop]
    exact .cons hw hlaid

/-! ### Lexemes under a span -/

/-- The text consists of the lexemes, without blanks around them. -/
structure Fills (file pos : Nat) (text : Bytes) (ls : List Lexeme) : Prop where
  laid : Laid file pos text ls
  start_eq : ∀ l ∈ ls.head?, l.span.start = pos
  stop_eq : ∀ l ∈ ls.getLast?, l.span.stop = pos + text.length

/-- The text begins with the first lexeme. -/
theorem Fills.eq_first_append (h : Fills file pos text ls) (hl : ls.head? = some l) :
    ∃ w, text = l.value.text ++ w := by
  obtain ⟨v, w, rfl, hspan⟩ := h.laid.eq_append_of_mem (List.mem_of_head? hl)
  have hstart := h.start_eq l hl
  rw [hspan] at hstart
  obtain rfl : v = [] := List.eq_nil_of_length_eq_zero (by simpa using hstart)
  exact ⟨w, rfl⟩

/-- The text ends with the last lexeme. -/
theorem Fills.eq_append_last (h : Fills file pos text ls) (hl : ls.getLast? = some l) :
    ∃ v, text = v ++ l.value.text ∧ l.span.start = pos + v.length := by
  obtain ⟨v, w, rfl, hspan⟩ := h.laid.eq_append_of_mem (List.mem_of_getLast? hl)
  have hstop := h.stop_eq l hl
  rw [hspan] at hstop
  simp only [List.length_append] at hstop
  obtain rfl : w = [] := List.eq_nil_of_length_eq_zero (by omega)
  exact ⟨v, List.append_nil _, by rw [hspan]⟩

/-- A layout of at least one lexeme is filled between blanks. -/
theorem Laid.fills (h : Laid file pos text (ls ++ ms)) (hls : ls ≠ []) :
    ∃ w s t, text = w ++ s ++ t ∧ Blanks w ∧ Fills file (pos + w.length) s ls ∧
      Laid file (pos + w.length + s.length) t ms := by
  obtain ⟨l, ls, rfl⟩ := List.exists_cons_of_ne_nil hls
  obtain ⟨s, t, rfl, hs, ht, -, hstop⟩ := h.split
  obtain ⟨w, s, rfl, hw, hs, hstart⟩ := hs.trim
  rw [List.length_append, ← Nat.add_assoc] at ht hstop
  exact ⟨w, s, t, rfl, hw, ⟨hs, by rintro _ ⟨⟩; exact hstart, hstop⟩, ht⟩

/-- Neighbours in a layout take up a part of the text. -/
theorem Laid.part (h : Laid file pos text ms) (hpart : ls <:+: ms) (hls : ls ≠ []) :
    ∃ v s w, text = v ++ s ++ w ∧ Fills file (pos + v.length) s ls := by
  obtain ⟨ks, ns, rfl⟩ := hpart
  rw [List.append_assoc] at h
  obtain ⟨v, t, rfl, -, ht, -⟩ := h.split
  obtain ⟨w, s, t, rfl, -, hs, -⟩ := ht.fills hls
  refine ⟨v ++ w, s, t, by simp only [List.append_assoc], ?_⟩
  rwa [List.length_append, ← Nat.add_assoc]

variable {s : Span}

/-- The text under the span consists of the lexemes. -/
inductive Stands (file : Nat) (text : Bytes) (ls : List Lexeme) : Span → Prop where
  | mk {before body after : Bytes} :
      text = before ++ body ++ after → Fills file before.length body ls →
      Stands file text ls ⟨file, before.length, before.length + body.length⟩

theorem Laid.stands (h : Laid file 0 text ms) (hpart : ls <:+: ms) (hls : ls ≠ []) :
    ∃ s, Stands file text ls s := by
  obtain ⟨before, body, after, htext, hfills⟩ := h.part hpart hls
  rw [Nat.zero_add] at hfills
  exact ⟨_, .mk htext hfills⟩

namespace Stands

theorem file_eq (h : Stands file text ls s) : s.file = file := by
  cases h
  rfl

theorem start_eq (h : Stands file text ls s) (hl : ls.head? = some l) :
    s.start = l.span.start := by
  cases h with
  | mk _ hfills => exact (hfills.start_eq l hl).symm

theorem stop_eq (h : Stands file text ls s) (hl : ls.getLast? = some l) :
    s.stop = l.span.stop := by
  cases h with
  | mk _ hfills => exact (hfills.stop_eq l hl).symm

/-- The span reaches from the first lexeme to the last one. -/
theorem eq_across {m : Lexeme} (h : Stands file text ls s) (hfirst : ls.head? = some l)
    (hlast : ls.getLast? = some m) : s = across l.span m.span := by
  have hfile : l.span.file = file := by
    cases h with
    | mk _ hfills =>
      obtain ⟨v, w, -, hspan⟩ := hfills.laid.eq_append_of_mem (List.mem_of_head? hfirst)
      rw [hspan]
  rw [across, ← h.start_eq hfirst, ← h.stop_eq hlast, hfile, ← h.file_eq]

theorem eq_span (h : Stands file text [l] s) : s = l.span := h.eq_across rfl rfl

/-- Neighbours under a span stand under a span of their own inside it. -/
theorem part (h : Stands file text ms s) (hpart : ls <:+: ms) (hls : ls ≠ []) :
    ∃ a, Stands file text ls a ∧ a.Within s := by
  cases h with
  | @mk before body after htext hfills =>
    obtain ⟨v, u, w, rfl, hu⟩ := hfills.laid.part hpart hls
    refine ⟨_, @Stands.mk file text ls (before ++ v) u (w ++ after) ?_ ?_, ?_⟩
    · rw [htext]
      simp only [List.append_assoc]
    · rwa [List.length_append]
    · simp only [Span.Within, List.length_append]
      omega

/-- The first lexemes under a span stand at its beginning. -/
theorem left (h : Stands file text (ls ++ ms) s) (hls : ls ≠ []) :
    ∃ a, Stands file text ls a ∧ a.Within s ∧ a.start = s.start := by
  obtain ⟨a, ha, hwithin⟩ := h.part (List.prefix_append ls ms).isInfix hls
  have hhead := List.head?_eq_some_head hls
  have hhead' : (ls ++ ms).head? = some (ls.head hls) := by
    rw [List.head?_append, hhead, Option.some_or]
  exact ⟨a, ha, hwithin, (ha.start_eq hhead).trans (h.start_eq hhead').symm⟩

/-- The last lexemes under a span stand at its end. -/
theorem right (h : Stands file text (ls ++ ms) s) (hms : ms ≠ []) :
    ∃ a, Stands file text ms a ∧ a.Within s ∧ a.stop = s.stop := by
  obtain ⟨a, ha, hwithin⟩ := h.part (List.suffix_append ls ms).isInfix hms
  have hlast := List.getLast?_eq_some_getLast hms
  have hlast' : (ls ++ ms).getLast? = some (ms.getLast hms) := by
    rw [List.getLast?_append, hlast, Option.some_or]
  exact ⟨a, ha, hwithin, (ha.stop_eq hlast).trans (h.stop_eq hlast').symm⟩

/-- Every lexeme under a span stands inside it. -/
theorem of_mem (h : Stands file text ls s) (hl : l ∈ ls) :
    Stands file text [l] l.span ∧ l.span.Within s := by
  obtain ⟨a, ha, hwithin⟩ := h.part ((List.singleton_infix_iff l ls).mpr hl) (List.cons_ne_nil l [])
  obtain rfl := ha.eq_span
  exact ⟨ha, hwithin⟩

/-- What is written under the span of one lexeme. -/
theorem slice_eq (h : Stands file text [l] s) : s.slice text = l.value.text := by
  cases h with
  | mk htext hfills =>
    obtain ⟨v, rfl, hstart⟩ := hfills.eq_append_last (l := l) rfl
    have hpos := hfills.start_eq l rfl
    obtain rfl : v = [] := List.eq_nil_of_length_eq_zero (by omega)
    rw [htext, Span.slice_append, List.nil_append]

/-- **A span of lexemes is tight**: it begins and ends with visible bytes. -/
theorem tight (h : Stands file text ls s) (hls : ls ≠ []) : s.Tight file text := by
  cases h with
  | @mk before body after htext hfills =>
    have hslice : Span.slice ⟨file, before.length, before.length + body.length⟩ text = body := by
      rw [htext, Span.slice_append]
    obtain ⟨w, hfirst⟩ := hfills.eq_first_append (List.head?_eq_some_head hls)
    obtain ⟨v, hlast, -⟩ := hfills.eq_append_last (List.getLast?_eq_some_getLast hls)
    refine ⟨rfl, ?_, ?_, ?_, ?_⟩
    · have hpos := (ls.head hls).value.text_length_pos
      simp only [hfirst, List.length_append]
      omega
    · simp only [htext, List.length_append]
      omega
    · rw [hslice, hfirst]
      exact Terminal.startsBlank_text_append _ w
    · intro v' w' hw hblanks
      by_contra hne
      -- the last byte of a run of blanks would be the last byte of a terminal
      have hb := List.getLast?_eq_some_getLast hne
      have hb' := List.getLast?_eq_some_getLast
        (List.length_pos_iff.mp (ls.getLast hls).value.text_length_pos)
      have hsame : (v' ++ w').getLast? = (v ++ (ls.getLast hls).value.text).getLast? := by
        rw [← hw, hslice, ← hlast]
      rw [List.getLast?_append, List.getLast?_append, hb, hb', Option.some_or, Option.some_or,
        Option.some.injEq] at hsame
      have hvisible := Terminal.visible _ (List.mem_of_getLast? hb')
      have hinvisible := hblanks.invisible (List.mem_of_getLast? hb)
      rw [hsame] at hinvisible
      omega

/-- The part of the text can be cut out, with places that count from its own beginning. -/
theorem laid_slice (h : Stands file text ls s) :
    Laid file 0 (s.slice text) (ls.map (Spanned.respan (Span.lower s.start))) := by
  cases h with
  | mk htext hfills =>
    have hlaid := hfills.laid.lower (Nat.le_refl _)
    rw [htext, Span.slice_append]
    rwa [Nat.sub_self] at hlaid

end Stands

end Grammar

end TensorLang
