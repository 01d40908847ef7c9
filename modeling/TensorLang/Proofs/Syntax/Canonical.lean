import TensorLang.Proofs.Syntax.Overflow
import TensorLang.Proofs.Syntax.RoundTrip
import TensorLang.Proofs.Text.Ascii
import TensorLang.Proofs.Text.Pieces
import TensorLang.Source.Normalize

/-!
# Canonical text is stable

Canonical text does not depend on spans, so what is read back has the same canonical text; and it
consists of ASCII bytes without carriage returns, so that normalisation leaves it alone. Together
with the reading of canonical text this makes formatting and reading inverse to each other
(`Program.format_inverse`).
-/

namespace TensorLang

/-! ### Spans do not show -/

theorem Expr.format_erase (e : Expr) : e.erase.format = e.format := by
  induction e with
  | fill span value shape dtype =>
    cases dtype <;> simp only [erase, format, List.map_map] <;> rfl
  | range span first last step => cases step <;> rfl
  | var | missing => rfl
  | binary span op lhs rhs ihl ihr => rw [erase, format, format, ihl, ihr]; rfl

theorem Stmt.format_erase (s : Stmt) : s.erase.format = s.format := by
  cases s with
  | eval span value => rw [erase, format, format, value.format_erase]
  | assign span name value => rw [erase, format, format, value.format_erase]; rfl
  | missing => rfl

/-- Programs that agree up to spans have the same canonical text. -/
theorem Program.format_congr {p q : Program} (h : p.stmts.map Stmt.erase = q.stmts.map Stmt.erase) :
    p.format = q.format := by
  have hformat : ∀ r : Program,
      r.format = (r.stmts.map Stmt.erase).flatMap fun s => s.format ++ "\n".utf8 := by
    intro r
    rw [format, List.flatMap_map]
    simp only [Stmt.format_erase]
  rw [hformat p, hformat q, h]

/-! ### Normal text -/

namespace Bytes

/-- ASCII bytes and no carriage return. -/
def IsPlain (text : Bytes) : Prop := ∀ b ∈ text, b < 0x80 ∧ b ≠ 13

instance : DecidablePred IsPlain := fun text =>
  List.decidableBAll (fun b => b < 0x80 ∧ b ≠ 13) text

@[simp]
theorem isPlain_append {s t : Bytes} : IsPlain (s ++ t) ↔ s.IsPlain ∧ t.IsPlain :=
  List.forall_mem_append

end Bytes

open Bytes (IsPlain)

namespace Source

theorem dropReturns_of_isPlain {text : Bytes} (h : IsPlain text) : dropReturns text = text := by
  fun_induction dropReturns text with
  | case1 | case2 => rfl
  | case3 a b rest hreturn => exact absurd hreturn.1 (h a List.mem_cons_self).2
  | case4 a b rest _ ih => rw [ih fun x hx => h x (List.mem_cons_of_mem a hx)]

theorem dropMark_of_isPlain {text : Bytes} (h : IsPlain text) : dropMark text = text := by
  fun_cases dropMark text with
  | case1 rest => exact absurd (h 0xEF List.mem_cons_self).1 (by decide)
  | case2 => rfl

/-- Plain text is in normal form. -/
theorem normalize_of_isPlain {text : Bytes} (h : IsPlain text) : normalize text = (text, 0) := by
  have hnfc : Text.nfc text = text := Text.nfc_of_ascii fun b hb => (h b hb).1
  simp only [normalize, dropMark_of_isPlain h, dropReturns_of_isPlain h, hnfc, if_true]

end Source

private theorem isPlain_of_isNamePart {text : Bytes}
    (h : ∀ b ∈ text, Grammar.isNamePart b = true) : IsPlain text := by
  intro b hb
  have hpart := Grammar.isNamePart_iff.mp (h b hb)
  simp only [UInt8.lt_iff_toNat_lt, UInt8.reduceToNat, ne_eq, ← UInt8.toNat_inj]
  omega

private theorem isPlain_ofNat (n : Nat) : IsPlain (Decimal.ofNat n) :=
  isPlain_of_isNamePart fun b hb => by
    rw [Grammar.isNamePart, Decimal.isDigit_of_mem_ofNat hb, Bool.or_true]

private theorem isPlain_int (n : Int) : IsPlain (Decimal.ofInt n) := by
  cases n with
  | ofNat n => exact isPlain_ofNat n
  | negSucc n =>
    intro b hb
    rcases List.mem_cons.mp hb with rfl | hb
    · decide
    · exact isPlain_ofNat (n + 1) b hb

private theorem isPlain_joinWith {sep : Bytes} {parts : List Bytes} (hsep : IsPlain sep)
    (h : ∀ part ∈ parts, IsPlain part) : IsPlain (Bytes.joinWith sep parts) := by
  intro b hb
  rcases Bytes.mem_joinWith hb with hb | ⟨part, hpart, hb⟩
  · exact hsep b hb
  · exact h part hpart b hb

theorem Expr.isPlain_format {e : Expr} (h : e.Writable) : IsPlain e.format := by
  induction e with
  | fill span value shape dtype =>
    have hshape : IsPlain (Bytes.joinWith " x ".utf8 (shape.map fun d => Int64.text d.value)) := by
      refine isPlain_joinWith (by decide) fun part hpart => ?_
      obtain ⟨d, -, rfl⟩ := List.mem_map.mp hpart
      exact isPlain_int _
    have hknown : ∀ dt ∈ DType.known, IsPlain dt.shortName := by decide
    have hvalue : IsPlain (Int32.text value.value) := isPlain_int _
    cases dtype with
    | none =>
      simp only [format, Bytes.isPlain_append, hshape, hvalue]
      decide
    | some dt =>
      simp only [format, Bytes.isPlain_append, hshape, hvalue, hknown _ (h.2.2 dt rfl)]
      decide
  | range span first last step =>
    have hnum : ∀ n : Int32, IsPlain (Int32.text n) := fun n => isPlain_int _
    cases step <;> simp only [format, Bytes.isPlain_append, hnum] <;> decide
  | var span name => exact isPlain_of_isNamePart fun b hb => Grammar.IsName.isNamePart_of_mem h hb
  | binary span op lhs rhs ihl ihr =>
    obtain ⟨hop, -, hlhs, hrhs⟩ := h
    rw [format, hop]
    simp only [Bytes.isPlain_append, ihl hlhs, ihr hrhs]
    decide
  | missing => exact h.elim

theorem Stmt.isPlain_format {s : Stmt} (h : s.Writable) : IsPlain s.format := by
  cases s with
  | eval span value =>
    simp only [format, Bytes.isPlain_append, Expr.isPlain_format h]
    decide
  | assign span name value =>
    have hname : IsPlain name.value :=
      isPlain_of_isNamePart fun b hb => Grammar.IsName.isNamePart_of_mem h.1 hb
    simp only [format, Bytes.isPlain_append, hname, Expr.isPlain_format h.2]
    decide
  | missing => exact h.elim

theorem Program.isPlain_format {p : Program} (h : p.Writable) : IsPlain p.format := by
  intro b hb
  obtain ⟨s, hs, hb⟩ := List.mem_flatMap.mp hb
  have hline : IsPlain (s.format ++ "\n".utf8) :=
    Bytes.isPlain_append.mpr ⟨Stmt.isPlain_format (h s hs), by decide⟩
  exact hline b hb

/-! ### Formatting and reading -/

/-- The canonical text of one statement is a program: the one with this statement. -/
theorem Stmt.parse_format {s : Stmt} (h : s.Writable) (file : Nat) :
    ∃ p, Program.parse file s.format = .ok p ∧ p.format = s.format ++ "\n".utf8 := by
  obtain ⟨ls, hlaid, s', hrule, htree⟩ := Grammar.spells_stmt h .nil file 0
  rw [List.append_nil] at hlaid
  have hsentence : Grammar.Sentence file s.format [s'] :=
    ⟨ls, hlaid, List.append_nil ls ▸ Grammar.Repeated.cons hrule .nil⟩
  refine ⟨_, hsentence.parse_eq_ok, ?_⟩
  rw [Program.format, List.flatMap_singleton, ← format_erase s', htree, format_erase]

namespace Program

/-- What is read is writable. -/
theorem writable_of_parse {file : Nat} {text : Bytes} {p : Program} (h : parse file text = .ok p) :
    p.Writable :=
  (parse_eq_ok_iff.mp h).2.writable

/-- Canonical text is read again as long as it is short enough for its offsets. -/
theorem parse?_format {p : Program} (h : p.Writable) (file : Nat) :
    ∃ q, q.stmts.map Stmt.erase = p.stmts.map Stmt.erase ∧
      parse? file p.format = if p.format.length < 2 ^ 32 then some (.ok q) else none := by
  obtain ⟨q, hread, htree⟩ := parse_format h file
  refine ⟨q, htree, ?_⟩
  split_ifs with hlen
  · exact parse?_eq_ok_iff.mpr ⟨hread, hlen⟩
  · exact parse?_eq_none hread (Nat.not_lt.mp hlen)

theorem checkRoundTrip_of_writable {p : Program} (h : p.Writable) :
    checkRoundTrip (some p) = if p.format.length < 2 ^ 32 then .same else .overflow := by
  obtain ⟨q, htree, hread⟩ := parse?_format h 0
  rw [checkRoundTrip, hread]
  split_ifs with hlen
  · simp only [htree, if_true]
  · rfl

/-- **Formatting and reading are inverse to each other**, as far as texts have offsets. The
canonical text of every writable program reads back as the same tree up to spans, if it has fewer
than `2 ^ 32` bytes; otherwise it cannot be read. Every program that was read is writable, and its
canonical text is its own normal form; so the program survives the round trip, and its canonical
text does not change when it is formatted again, under the same condition. -/
theorem format_inverse (file : Nat) :
    (∀ p : Program, p.Writable →
      ∃ q, q.stmts.map Stmt.erase = p.stmts.map Stmt.erase ∧
        parse? file p.format = if p.format.length < 2 ^ 32 then some (.ok q) else none) ∧
    ∀ (text : Bytes) (p : Program), parse? file text = some (.ok p) →
      p.Writable ∧ Source.normalize p.format = (p.format, 0) ∧
      checkRoundTrip (some p) = (if p.format.length < 2 ^ 32 then .same else .overflow) ∧
      (p.format.length < 2 ^ 32 →
        ∃ q, parse? file p.format = some (.ok q) ∧ changed p.format q = false) := by
  refine ⟨fun p h => parse?_format h file, fun text p hp => ?_⟩
  have h := writable_of_parse (parse?_eq_ok_iff.mp hp).1
  refine ⟨h, Source.normalize_of_isPlain (isPlain_format h), checkRoundTrip_of_writable h,
    fun hlen => ?_⟩
  obtain ⟨q, htree, hread⟩ := parse?_format h file
  rw [if_pos hlen] at hread
  have hsame : q.format = p.format := format_congr htree
  refine ⟨q, hread, ?_⟩
  rw [changed, hsame, bne_self_eq_false]

/-- The product `[2 x 3; 1; i64] * a`, with no spans at all. -/
private def scaled : Program where
  stmts := [.eval .none (.binary .none ⟨.mul, .none⟩
    (.fill .none ⟨1, .none⟩ [⟨2, .none⟩, ⟨3, .none⟩] (some ⟨.int64, .none⟩)) (.var .none "a".utf8))]
  span := .none

/-- A product is written and read back, and then its text is canonical. -/
theorem format_inverse_scaled :
    scaled.Writable ∧ ∃ p, parse? 0 scaled.format = some (.ok p) ∧
      p.stmts.map Stmt.erase = scaled.stmts ∧ checkRoundTrip (some p) = .same := by
  have hscaled : scaled.Writable := by decide
  obtain ⟨hwrite, hread⟩ := format_inverse 0
  obtain ⟨p, htree, hp⟩ := hwrite scaled hscaled
  have hlen : scaled.format.length < 2 ^ 32 := by decide +kernel
  rw [if_pos hlen] at hp
  obtain ⟨-, -, htrip, -⟩ := hread _ p hp
  have hformat : p.format = scaled.format := format_congr htree
  rw [hformat, if_pos hlen] at htrip
  exact ⟨hscaled, p, hp, htree, htrip⟩

/-! ### The longest texts -/

/-- A statement that uses a name of `n + 1` letters. -/
def longUse (n : Nat) : Stmt := .eval .none (.var .none (List.replicate (n + 1) 97))

theorem writable_longUse (n : Nat) : (longUse n).Writable := by
  refine ⟨by decide, fun b hb => ?_⟩
  rw [List.eq_of_mem_replicate hb]
  decide

theorem length_format_longUse (n : Nat) : (longUse n).format.length = n + 2 := by
  change (List.replicate (n + 1) 97 ++ ";".utf8).length = n + 2
  rw [List.length_append, List.length_replicate]
  rfl

/-- The canonical text of a statement without its newline may be just short enough to be read, and
then that of the program cannot be read back. -/
theorem exists_format_outgrows {n : Nat} (h : n + 3 = 2 ^ 32) (file : Nat) :
    ∃ p, parse? file (longUse n).format = some (.ok p) ∧
      p.format.length = 2 ^ 32 ∧ parse? file p.format = none := by
  obtain ⟨p, hparse, hformat⟩ := (longUse n).parse_format (writable_longUse n) file
  have hshort := length_format_longUse n
  have hlength : p.format.length = n + 3 := by
    rw [hformat, List.length_append, hshort]
    rfl
  obtain ⟨q, -, hread⟩ := parse?_format (writable_of_parse hparse) file
  rw [if_neg (by omega)] at hread
  exact ⟨p, parse?_eq_ok_iff.mpr ⟨hparse, by omega⟩, hlength.trans h, hread⟩

/-- Two programs that do not come back: the one with a missing statement, and the one that was read
from a name of `2 ^ 32 - 2` letters with a semicolon. -/
theorem format_inverse_limit :
    (checkRoundTrip (some ⟨[.missing .none], .none⟩)).isSame = false ∧
    ∃ p, parse? 0 (longUse (2 ^ 32 - 3)).format = some (.ok p) ∧
      parse? 0 p.format = none ∧ (checkRoundTrip (some p)).isSame = false := by
  obtain ⟨p, hp, -, hread⟩ := exists_format_outgrows (n := 2 ^ 32 - 3) rfl 0
  refine ⟨by decide +kernel, p, hp, hread, ?_⟩
  rw [checkRoundTrip, hread]
  rfl

end Program

end TensorLang
