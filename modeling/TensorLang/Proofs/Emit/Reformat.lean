import TensorLang.Proofs.Emit.Respan
import TensorLang.Proofs.Syntax.Canonical
import TensorLang.Proofs.Typing.Respan

/-!
# Formatting keeps the meaning

What is read from the canonical text of a program is the same tree up to spans, and neither the
checker nor the emitter looks at spans. So the checker says the same about both, and both become the
same text for every target (`Program.sameMeaning_of_format`).
-/

namespace TensorLang

/-- The bound names with their types. -/
def SymbolTable.types (t : SymbolTable) : List (Bytes × Option Ty) :=
  t.entries.map fun e => (e.1, e.2.ty)

/-- Nothing but places tells the two programs apart: neither for the checker nor for the emitter
of any target. -/
structure Program.SameMeaning (p q : Program) : Prop where
  /-- The errors are the same up to spans. -/
  errors : (check (some q)).errors.map (TypeError.respan fun _ => Span.none) =
    (check (some p)).errors.map (TypeError.respan fun _ => Span.none)
  codes : (check (some q)).errors.map TypeError.code = (check (some p)).errors.map TypeError.code
  messages :
    (check (some q)).errors.map TypeError.message = (check (some p)).errors.map TypeError.message
  types : (check (some q)).symbols.types = (check (some p)).symbols.types
  /-- If one is emitted, the other one is, and as the same text. -/
  fragments : ∀ (t : Target) (fs : List Fragment), p.fragments t = .ok fs →
    ∃ fs', q.fragments t = .ok fs' ∧ fs'.map Fragment.text = fs.map Fragment.text ∧
      (t.print fs').mapError (MalformedOutput.respan fun _ => Span.none) =
        (t.print fs).mapError (MalformedOutput.respan fun _ => Span.none)
  /-- If one is not emitted, neither is the other one, for the same reason. -/
  failures : ∀ (t : Target) (e : EmitError), p.fragments t = .error e →
    ∃ e', q.fragments t = .error e' ∧
      e'.diagnostic?.map Diagnostic.code = e.diagnostic?.map Diagnostic.code ∧
      e'.message = e.message

variable (φ : Span → Span)

theorem SymbolTable.types_respan (t : SymbolTable) : (t.respan φ).types = t.types := by
  rw [types, types, respan, List.map_map]
  rfl

theorem EmitError.code_respan (e : EmitError) :
    (e.respan φ).diagnostic?.map Diagnostic.code = e.diagnostic?.map Diagnostic.code := by
  cases e <;> rfl

theorem Target.print_respan_eq (t : Target) (fs : List Fragment) :
    (t.print (fs.map (Fragment.respan φ))).mapError (MalformedOutput.respan fun _ => Span.none) =
      (t.print fs).mapError (MalformedOutput.respan fun _ => Span.none) := by
  rcases eq_or_ne fs [] with rfl | hne
  · rfl
  · rw [t.print_respan φ hne]
    cases t.print fs <;> rfl

namespace Program

/-- A program means the same whatever its spans are. -/
theorem sameMeaning_respan (p : Program) : SameMeaning p (p.respan φ) where
  errors := by
    rw [check_respan, Checked.errors_respan, List.map_map]
    refine List.map_congr_left fun e _ => ?_
    cases e <;> rfl
  codes := by
    rw [check_respan, Checked.errors_respan, List.map_map]
    exact List.map_congr_left fun e _ => e.code_respan φ
  messages := by
    rw [check_respan, Checked.errors_respan, List.map_map]
    exact List.map_congr_left fun e _ => e.message_respan φ
  types := by
    rw [check_respan]
    exact SymbolTable.types_respan φ _
  fragments := by
    intro t fs hfs
    refine ⟨fs.map (Fragment.respan φ), ?_, Fragment.map_text_respan φ fs, t.print_respan_eq φ fs⟩
    rw [fragments_respan, hfs]
    rfl
  failures := by
    intro t e he
    refine ⟨e.respan φ, ?_, e.code_respan φ, e.message_respan φ⟩
    rw [fragments_respan, he]
    rfl

theorem SameMeaning.trans {p q r : Program} (h : SameMeaning p q) (h' : SameMeaning q r) :
    SameMeaning p r where
  errors := h'.errors.trans h.errors
  codes := h'.codes.trans h.codes
  messages := h'.messages.trans h.messages
  types := h'.types.trans h.types
  fragments := by
    intro t fs hfs
    obtain ⟨fs', hfs', htext, hprint⟩ := h.fragments t fs hfs
    obtain ⟨fs'', hfs'', htext', hprint'⟩ := h'.fragments t fs' hfs'
    exact ⟨fs'', hfs'', htext'.trans htext, hprint'.trans hprint⟩
  failures := by
    intro t e he
    obtain ⟨e', he', hcode, hmessage⟩ := h.failures t e he
    obtain ⟨e'', he'', hcode', hmessage'⟩ := h'.failures t e' he'
    exact ⟨e'', he'', hcode'.trans hcode, hmessage'.trans hmessage⟩

theorem SameMeaning.symm {p q : Program} (h : SameMeaning p q) : SameMeaning q p where
  errors := h.errors.symm
  codes := h.codes.symm
  messages := h.messages.symm
  types := h.types.symm
  fragments := by
    intro t fs hfs
    cases hp : p.fragments t with
    | ok fs' =>
      obtain ⟨fs'', hq, htext, hprint⟩ := h.fragments t fs' hp
      cases hfs.symm.trans hq
      exact ⟨fs', rfl, htext.symm, hprint.symm⟩
    | error e =>
      obtain ⟨e', hq, -⟩ := h.failures t e hp
      cases hfs.symm.trans hq
  failures := by
    intro t e he
    cases hp : p.fragments t with
    | ok fs =>
      obtain ⟨fs', hq, -⟩ := h.fragments t fs hp
      cases he.symm.trans hq
    | error e' =>
      obtain ⟨e'', hq, hcode, hmessage⟩ := h.failures t e' hp
      cases he.symm.trans hq
      exact ⟨e', rfl, hcode.symm, hmessage.symm⟩

/-- Programs that agree up to spans mean the same. -/
theorem sameMeaning_of_erase {p q : Program}
    (h : q.stmts.map Stmt.erase = p.stmts.map Stmt.erase) : SameMeaning p q := by
  have hspanless : (p.respan fun _ => Span.none) = q.respan fun _ => Span.none := by
    rw [map_erase_eq, map_erase_eq] at h
    exact congrArg (fun stmts => Program.mk stmts Span.none) h.symm
  have hp := sameMeaning_respan (fun _ => Span.none) p
  rw [hspanless] at hp
  exact hp.trans (sameMeaning_respan _ q).symm

/-- **Formatting keeps the meaning**: the checker and the emitter tell the program that was read and
the one that is read again from its canonical text apart by places only. It is read again if the
canonical text has fewer than `2 ^ 32` bytes, and cannot be read otherwise. -/
theorem sameMeaning_of_format (file file' : Nat) (text : Bytes) (p : Program)
    (hp : parse? file text = some (.ok p)) :
    ∃ q, SameMeaning p q ∧
      parse? file' p.format = if p.format.length < 2 ^ 32 then some (.ok q) else none := by
  obtain ⟨q, htree, hq⟩ := parse?_format (writable_of_parse (parse?_eq_ok_iff.mp hp).1) file'
  exact ⟨q, sameMeaning_of_erase htree, hq⟩

/-- A program that reads a name. -/
private def reading : Program := ⟨[.eval .none (.var .none "a".utf8)], .none⟩

/-- A text that is read, and the two programs for it. -/
theorem sameMeaning_of_format_reading :
    ∃ p q, parse? 0 reading.format = some (.ok p) ∧ parse? 1 p.format = some (.ok q) ∧
      SameMeaning p q := by
  have hreading : reading.Writable := by decide
  have hlen : reading.format.length < 2 ^ 32 := by decide
  obtain ⟨p, htree, hp⟩ := parse?_format hreading 0
  rw [if_pos hlen] at hp
  obtain ⟨q, hsame, hq⟩ := sameMeaning_of_format 0 1 _ p hp
  rw [format_congr htree, if_pos hlen] at hq
  exact ⟨p, q, hp, (format_congr htree).symm ▸ hq, hsame⟩

/-- The program that uses a name of `2 ^ 32 - 2` letters is read, but no program is read from its
canonical text. -/
theorem sameMeaning_of_format_limit :
    ∃ p, parse? 0 (longUse (2 ^ 32 - 3)).format = some (.ok p) ∧
      ¬∃ q, parse? 1 p.format = some (.ok q) ∧ SameMeaning p q := by
  obtain ⟨p, hp, hlength, -⟩ := exists_format_outgrows (n := 2 ^ 32 - 3) rfl 0
  refine ⟨p, hp, fun ⟨q, hq, _⟩ => ?_⟩
  exact absurd (parse?_eq_ok_iff.mp hq).2 (Nat.not_lt.mpr (Nat.le_of_eq hlength.symm))

end Program

end TensorLang
