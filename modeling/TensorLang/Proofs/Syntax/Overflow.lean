import Mathlib.Algebra.Group.Nat.Defs
import TensorLang.Proofs.Syntax.Completeness
import TensorLang.Proofs.Syntax.RelocatedParse

/-!
# Long texts

The offsets of a span are 32-bit words, and the making of a span that does not fit stops the
program. In a text of fewer than `2 ^ 32` bytes this never happens, whatever the readers try
(`Reader.Fitting`), so there `Program.parse?` answers what `Program.parse` does
(`Program.parse?_of_lt`). A program of `2 ^ 32` bytes or more is never read, since its own span does
not fit (`Program.parse?_eq_ok_iff`).
-/

namespace TensorLang

theorem Span.fits_iff {s : Span} : s.fits = true ↔ s.start < 2 ^ 32 ∧ s.stop < 2 ^ 32 :=
  decide_eq_true_iff

namespace Cursor

/-- The offsets from here to the end of the text fit into 32-bit words. -/
def Low (c : Cursor) : Prop := c.pos + c.rest.length < 2 ^ 32

variable {c c' : Cursor}

theorem Low.advance (h : c.Low) {n : Nat} (hn : n ≤ c.rest.length) : (c.advance n).Low := by
  simp only [Low, Cursor.advance, List.length_drop] at h ⊢
  omega

theorem Low.skipBlanks (h : c.Low) : c.skipBlanks.Low := h.advance (Text.blankLength_le c.rest)

theorem Low.fits_spanOf (h : c.Low) {n : Nat} (hn : n ≤ c.rest.length) :
    (c.spanOf n).fits = true := by
  rw [Low] at h
  rw [Span.fits_iff, spanOf]
  dsimp only
  omega

theorem Low.fits_spanTo (h : c.Low) (h' : c'.Low) : (c.spanTo c').fits = true := by
  rw [Low] at h h'
  rw [Span.fits_iff, spanTo]
  dsimp only
  omega

theorem Low.fits_trimmedTo (h : c.Low) (c' : Cursor) : (c.trimmedTo c').fits = true := by
  refine h.fits_spanOf ?_
  have hle := (Text.trimRight_prefix (c.rest.take (c'.pos - c.pos))).length_le
  rw [List.length_take] at hle
  omega

end Cursor

namespace Reader

open Cursor (Low)

variable {α β : Type} {p q : Reader α} {f : α → Reader β} {c : Cursor}

/-! ### The spans of a reading -/

theorem fits_bind :
    ((p >>= f) c).fits = true ↔
      (p c).fits = true ∧ ∀ a c', (p c).value = some (a, c') → (f a c').fits = true := by
  change (Reader.bind p f c).fits = true ↔ _
  rw [Reader.bind]
  rcases p c with ⟨_ | ⟨a, c'⟩, log, fits⟩ <;> simp

theorem fits_orElse :
    (orElse p q c).fits = true ↔
      (p c).fits = true ∧ ((p c).value = none → (q c).fits = true) := by
  rw [orElse]
  rcases p c with ⟨_ | ⟨a, c'⟩, log, fits⟩ <;> simp

theorem fits_optional (p : Reader α) (c : Cursor) : (optional p c).fits = (p c).fits := by
  rw [optional]
  rcases p c with ⟨_ | ⟨a, c'⟩, log, fits⟩ <;> rfl

theorem fits_located {g : α → Span → β} :
    (located p g c).fits = true ↔
      (p c).fits = true ∧ ∀ a c', (p c).value = some (a, c') → (c.trimmedTo c').fits = true := by
  rw [located]
  rcases p c with ⟨_ | ⟨a, c'⟩, log, fits⟩ <;> simp

theorem fits_convert {g : α → Except LiteralProblem β} (h : (p c).fits = true)
    (hspan : ∀ a c', (p c).value = some (a, c') → (c.spanTo c').fits = true) :
    (convert p g c).fits = true := by
  rw [convert]
  generalize p c = reply at h hspan
  obtain ⟨_ | ⟨a, c'⟩, log, fits⟩ := reply
  · exact h
  · dsimp only
    cases g a with
    | ok b => exact h
    | error problem => exact (Bool.and_eq_true _ _).mpr ⟨h, hspan a c' rfl⟩

/-- In a text that is short enough the reader makes only spans that fit, and stays in the text. -/
structure Fitting (p : Reader α) : Prop where
  fits : ∀ ⦃c : Cursor⦄, c.Low → (p c).fits = true
  low : ∀ ⦃c c' : Cursor⦄ ⦃a : α⦄, c.Low → (p c).value = some (a, c') → c'.Low

/-! ### Combinators -/

theorem fitting_pure (a : α) : Fitting (pure a : Reader α) where
  fits _ _ := rfl
  low c c' a' hc h := by
    obtain ⟨-, rfl⟩ := pure_eq_some.mp h
    exact hc

theorem Fitting.bind (hp : p.Fitting) (hf : ∀ a, (f a).Fitting) : (p >>= f).Fitting where
  fits c hc := fits_bind.mpr ⟨hp.fits hc, fun a _ hread => (hf a).fits (hp.low hc hread)⟩
  low c c'' b hc h := by
    obtain ⟨a, c', hread, h⟩ := bind_eq_some.mp h
    exact (hf a).low (hp.low hc hread) h

theorem Fitting.orElse (hp : p.Fitting) (hq : q.Fitting) : Fitting (orElse p q) where
  fits c hc := fits_orElse.mpr ⟨hp.fits hc, fun _ => hq.fits hc⟩
  low c c' a hc h := by
    obtain h | ⟨-, h⟩ := orElse_eq_some.mp h
    · exact hp.low hc h
    · exact hq.low hc h

theorem Fitting.optional (hp : p.Fitting) : Fitting (optional p) where
  fits c hc := (fits_optional p c).trans (hp.fits hc)
  low c c' o hc h := by
    obtain ⟨a, -, h⟩ | ⟨-, rfl, -⟩ := optional_eq_some.mp h
    · exact hp.low hc h
    · exact hc

theorem Fitting.many (hp : p.Fitting) : Fitting (many p) where
  fits c hc := by
    -- by induction on the rounds
    fun_induction Reader.many p c with
    | case1 c log fits hread => exact (congrArg Reply.fits hread).symm.trans (hp.fits hc)
    | case2 c a c' log fits hread _ more ih =>
      have hfits := (congrArg Reply.fits hread).symm.trans (hp.fits hc)
      exact (Bool.and_eq_true _ _).mpr ⟨hfits, ih (hp.low hc (congrArg Reply.value hread))⟩
    | case3 c a c' log fits hread => exact (congrArg Reply.fits hread).symm.trans (hp.fits hc)
  low c c'' as hc h := by
    induction c, as, h using many_induction with
    | stop => exact hc
    | round c a c' as _ hread _ ih => exact ih (hp.low hc hread)

theorem Fitting.separated {sep : Reader β} (hp : p.Fitting) (hsep : sep.Fitting) :
    Fitting (separated p sep) := by
  refine hp.optional.bind fun o => ?_
  cases o with
  | none => exact fitting_pure _
  | some a => exact (Fitting.many (hsep.bind fun _ => hp)).bind fun as => fitting_pure _

theorem Fitting.padded (hp : p.Fitting) : Fitting (padded p) where
  fits c hc := hp.fits hc.skipBlanks
  low c c'' a hc h := by
    obtain ⟨⟨a, c'⟩, hread, heq⟩ := Option.map_eq_some_iff.mp h
    obtain ⟨rfl, rfl⟩ := Prod.mk.inj heq
    exact (hp.low hc.skipBlanks hread).skipBlanks

theorem Fitting.located (hp : p.Fitting) (g : α → Span → β) : Fitting (located p g) where
  fits c hc := fits_located.mpr ⟨hp.fits hc, fun _ c' _ => hc.fits_trimmedTo c'⟩
  low c c' b hc h := by
    obtain ⟨a, hread, -⟩ := located_eq_some.mp h
    exact hp.low hc hread

theorem Fitting.convert (hp : p.Fitting) (g : α → Except LiteralProblem β) :
    Fitting (convert p g) where
  fits c hc := fits_convert (hp.fits hc) fun _ _ hread => hc.fits_spanTo (hp.low hc hread)
  low c c' b hc h := by
    obtain ⟨a, hread, -⟩ := convert_eq_some h
    exact hp.low hc hread

/-! ### Tokens -/

theorem fitting_exactly (text : Bytes) : (exactly text).Fitting where
  fits c hc := by
    rw [exactly]
    split_ifs with h
    · obtain ⟨rest, hrest⟩ := Bytes.startsWith_iff.mp h
      exact hc.fits_spanOf (by simp [hrest])
    · rfl
  low c c' s hc h := by
    obtain ⟨⟨rest, hrest⟩, -, rfl⟩ := exactly_eq_some.mp h
    exact hc.advance (by simp [hrest])

theorem fitting_run (label : Label) (first rest : UInt8 → Bool) :
    (run label first rest).Fitting where
  fits c _ := by
    rw [run]
    split
    · split_ifs <;> rfl
    · rfl
  low c c' w hc h := by
    obtain ⟨b, bs, tail, -, -, -, hsplit, rfl⟩ := run_eq_some h
    exact hc.advance (by simp [hsplit])

theorem fitting_atEnd : atEnd.Fitting where
  fits c _ := by
    rw [atEnd]
    split <;> rfl
  low c c' u hc h := by
    obtain ⟨-, rfl⟩ := atEnd_eq_some.mp h
    exact hc

end Reader

/-! ### The grammar -/

namespace Grammar

open Reader

theorem fitting_token (sign : String) : (token sign).Fitting := (fitting_exactly sign.utf8).padded

theorem fitting_int32 : int32.Fitting :=
  (((fitting_run _ _ _).convert toInt32).located Spanned.mk).padded

theorem fitting_dimension : dimension.Fitting :=
  (((fitting_run _ _ _).convert toDimension).located Spanned.mk).padded

theorem fitting_dtype : dtype.Fitting :=
  (((fitting_run _ _ _).convert toDType).located Spanned.mk).padded

theorem fitting_fill : fill.Fitting := by
  refine (fitting_token "[").bind fun _ => ?_
  refine (fitting_dimension.separated (fitting_token "x")).bind fun shape => ?_
  refine (fitting_token ";").bind fun _ => fitting_int32.bind fun value => ?_
  refine ((fitting_token ";").bind fun _ => fitting_dtype).optional.bind fun dt => ?_
  exact (fitting_token "]").bind fun _ => fitting_pure _

theorem fitting_range : range.Fitting := by
  refine (fitting_token "[").bind fun _ => fitting_int32.bind fun lo => ?_
  refine (fitting_token "..").bind fun _ => fitting_int32.bind fun hi => ?_
  refine ((fitting_token ";").bind fun _ => fitting_int32).optional.bind fun step => ?_
  exact (fitting_token "]").bind fun _ => fitting_pure _

theorem fitting_atom : atom.Fitting := by
  have hname : nameRef.Fitting := (fitting_run _ _ _).bind fun _ => fitting_pure _
  exact ((fitting_fill.orElse (fitting_range.orElse hname)).located id).padded

theorem fitting_expr : expr.Fitting := by
  refine fitting_atom.bind fun first => (Fitting.many ?_).bind fun factors => fitting_pure _
  exact (fitting_token "*").bind fun op => fitting_atom.bind fun rhs => fitting_pure _

theorem fitting_stmt : stmt.Fitting := by
  have heval : evalStmt.Fitting :=
    fitting_expr.bind fun value => (fitting_token ";").bind fun _ => fitting_pure _
  have hassign : assignStmt.Fitting := by
    refine ((fitting_run _ _ _).located Spanned.mk).padded.bind fun n => ?_
    refine (fitting_token "=").bind fun _ => fitting_expr.bind fun value => ?_
    exact (fitting_token ";").bind fun _ => fitting_pure _
  exact ((heval.orElse hassign).located id).padded

theorem fitting_stmts : stmts.Fitting :=
  fitting_stmt.many.bind fun _ => fitting_atEnd.bind fun _ => fitting_pure _

end Grammar

namespace Program

variable {file : Nat} {text : Bytes}

/-- The span that is made last lies in the text. -/
private theorem lastSpan_parse_le (file : Nat) (text : Bytes) :
    (lastSpan (parse file text)).start ≤ text.length ∧
      (lastSpan (parse file text)).stop ≤ text.length := by
  have hmap := @Relocation.parse_map (.clamp file text.length) text rfl
  change parse file text = ((parse file text).map _).mapError _ at hmap
  have hlast : lastSpan (parse file text) =
      (Relocation.clamp file text.length).map (lastSpan (parse file text)) := by
    cases hparse : parse file text with
    | ok p =>
      rw [hparse] at hmap
      exact congrArg Program.span (Except.ok.inj hmap)
    | error e =>
      rw [hparse] at hmap
      have hspan := congrArg ParseError.primary (Except.error.inj hmap)
      have hrespan (φ : Span → Span) : (e.respan φ).primary = φ e.primary := by
        obtain ⟨first | first, more⟩ := e <;> rfl
      exact hspan.trans (hrespan _)
  rw [hlast]
  exact ⟨Nat.min_le_right _ _, Nat.min_le_right _ _⟩

/-- **In a short text every span fits**, and what is read is what `parse` answers. -/
theorem parse?_of_lt (h : text.length < 2 ^ 32) :
    parse? file text = some (parse file text) := by
  have hstart : (Cursor.start file text).Low := by
    simpa only [Cursor.Low, Cursor.start, Nat.zero_add] using h
  have hfits := Grammar.fitting_stmts.fits hstart.skipBlanks
  obtain ⟨hle, hle'⟩ := lastSpan_parse_le file text
  have hlast : (lastSpan (parse file text)).fits = true :=
    Span.fits_iff.mpr ⟨Nat.lt_of_le_of_lt hle h, Nat.lt_of_le_of_lt hle' h⟩
  simp only [parse?, hfits, hlast, Bool.and_self, if_true]

/-- Where there is an answer, it is that of `parse`, and its span fits. -/
theorem of_parse?_eq_some {answer : Except ParseError Program}
    (h : parse? file text = some answer) :
    parse file text = answer ∧ (lastSpan answer).fits = true := by
  rw [parse?] at h
  split_ifs at h with hfits
  rw [Bool.and_eq_true] at hfits
  rw [Option.some.injEq] at h
  exact ⟨h, h ▸ hfits.2⟩

/-- **A text is read as a program if it is one and has fewer than `2 ^ 32` bytes.** -/
theorem parse?_eq_ok_iff {p : Program} :
    parse? file text = some (.ok p) ↔ parse file text = .ok p ∧ text.length < 2 ^ 32 := by
  refine ⟨fun h => ?_, fun ⟨h, hlt⟩ => h ▸ parse?_of_lt hlt⟩
  obtain ⟨hparse, hfits⟩ := of_parse?_eq_some h
  have hspan : p.span = ⟨file, 0, text.length⟩ := (parse_eq_ok_iff.mp hparse).1
  rw [lastSpan, hspan, Span.fits_iff] at hfits
  exact ⟨hparse, hfits.2⟩

/-- Reading a program that is too long stops. -/
theorem parse?_eq_none {p : Program} (h : parse file text = .ok p)
    (hlen : 2 ^ 32 ≤ text.length) : parse? file text = none := by
  cases hparse : parse? file text with
  | none => rfl
  | some answer =>
    obtain rfl : .ok p = answer := h.symm.trans (of_parse?_eq_some hparse).1
    exact absurd (parse?_eq_ok_iff.mp hparse).2 (Nat.not_lt.mpr hlen)

end Program

end TensorLang
