import Mathlib.Tactic.Common
import TensorLang.Proofs.Syntax.Overflow
import TensorLang.Proofs.Syntax.Places
import TensorLang.Proofs.Syntax.Retold
import TensorLang.Source.Normalize

/-!
# Line ends do not matter

A carriage return in front of a newline is removed before a text is read. Nothing is lost by this:
the text with its returns and the text without them are read as the same tree up to spans, or both
are not read (`Program.parse_dropReturns_iff`). This holds for every byte string, be it valid UTF-8
or not, and for returns that stand alone or in a row. Only a text that is too long for its offsets
may become short enough (`Program.parse_dropReturns`).

The argument does not follow the reader. Terminals hold no line ends, so removing returns changes
the runs of blanks between them only (`Laid.dropReturns`); conversely, whatever was a run of blanks
after the removal was one before (`Laid.of_dropReturns`). And what the rules derive depends on the
terminals alone, up to spans (`Statements.retold`).
-/

namespace TensorLang

/-! ### Removing returns -/

namespace Source

theorem dropReturns_cons_of_ne {b : UInt8} (hb : b ≠ 13) (text : Bytes) :
    dropReturns (b :: text) = b :: dropReturns text := by
  cases text with
  | nil => rfl
  | cons c rest => rw [dropReturns, if_neg fun h => hb h.1]

/-- A return is removed or stays. -/
theorem dropReturns_return_cons (text : Bytes) :
    dropReturns (13 :: text) = dropReturns text ∨
      dropReturns (13 :: text) = 13 :: dropReturns text := by
  cases text with
  | nil => exact .inr rfl
  | cons c rest =>
    rw [dropReturns]
    split_ifs
    · exact .inl rfl
    · exact .inr rfl

theorem dropReturns_append_of_not_mem {s : Bytes} (hs : 13 ∉ s) (t : Bytes) :
    dropReturns (s ++ t) = s ++ dropReturns t := by
  induction s with
  | nil => rfl
  | cons b s ih =>
    have hb : b ≠ 13 := fun h => hs (h ▸ List.mem_cons_self)
    have hrest : 13 ∉ s := fun h => hs (List.mem_cons_of_mem b h)
    rw [List.cons_append, dropReturns_cons_of_ne hb, ih hrest, List.cons_append]

/-- Texts are cleared of returns one by one if the second one does not begin with a newline. -/
theorem dropReturns_append {s t : Bytes} (ht : t.head? ≠ some 10) :
    dropReturns (s ++ t) = dropReturns s ++ dropReturns t := by
  fun_induction dropReturns s with
  | case1 => rfl
  | case2 b =>
    cases t with
    | nil => rfl
    | cons c rest =>
      have hc : c ≠ 10 := fun h => ht (congrArg some h)
      rw [List.singleton_append, dropReturns, if_neg fun h => hc h.2, List.singleton_append]
  | case3 a b rest h ih =>
    rw [List.cons_append, List.cons_append, dropReturns, if_pos h]
    exact ih
  | case4 a b rest h ih =>
    rw [List.cons_append, List.cons_append, dropReturns, if_neg h, List.cons_append]
    exact congrArg (a :: ·) ih

theorem length_dropReturns_le (s : Bytes) : (dropReturns s).length ≤ s.length := by
  fun_induction dropReturns s with
  | case1 | case2 => exact Nat.le_refl _
  | case3 a b rest _ ih => exact Nat.le_succ_of_le ih
  | case4 a b rest _ ih => exact Nat.succ_le_succ ih

/-- A cut of what is left comes from a cut of the text. A return in front of a newline goes to the
same side as the newline. -/
theorem exists_of_dropReturns_eq_append {s a b : Bytes} (h : dropReturns s = a ++ b) :
    ∃ a' b', s = a' ++ b' ∧ dropReturns a' = a ∧ dropReturns b' = b := by
  fun_induction dropReturns s generalizing a with
  | case1 =>
    obtain ⟨rfl, rfl⟩ := List.append_eq_nil_iff.mp h.symm
    exact ⟨[], [], rfl, rfl, rfl⟩
  | case2 c =>
    rcases List.append_eq_singleton_iff.mp h.symm with ⟨rfl, rfl⟩ | ⟨rfl, rfl⟩
    · exact ⟨[], [c], rfl, rfl, rfl⟩
    · exact ⟨[c], [], rfl, rfl, rfl⟩
  | case3 c d rest hcut ih =>
    obtain ⟨a', b', hs, ha, hb⟩ := ih h
    cases a' with
    | nil =>
      refine ⟨[], c :: d :: rest, rfl, ha, ?_⟩
      rw [dropReturns, if_pos hcut, hs]
      exact hb
    | cons d' a' =>
      obtain ⟨rfl, rfl⟩ := List.cons.inj hs
      refine ⟨c :: d :: a', b', rfl, ?_, hb⟩
      rw [dropReturns, if_pos hcut]
      exact ha
  | case4 c d rest hcut ih =>
    cases a with
    | nil =>
      refine ⟨[], c :: d :: rest, rfl, rfl, ?_⟩
      rw [dropReturns, if_neg hcut]
      exact h
    | cons c' a =>
      obtain ⟨rfl, hrest⟩ := List.cons.inj h
      obtain ⟨a', b', hs, ha, hb⟩ := ih hrest
      refine ⟨c :: a', b', congrArg (c :: ·) hs, ?_, hb⟩
      cases a' with
      | nil => rw [← ha]; rfl
      | cons d' a' =>
        obtain ⟨rfl, -⟩ := List.cons.inj hs
        rw [dropReturns, if_neg hcut, ha]

/-- Where no newline is left, no return was removed. -/
theorem dropReturns_eq_self {s : Bytes} (h : 10 ∉ dropReturns s) : dropReturns s = s := by
  fun_induction dropReturns s with
  | case1 | case2 => rfl
  | case3 a b rest hcut =>
    refine absurd ?_ h
    rw [hcut.2, dropReturns_cons_of_ne (by decide)]
    exact List.mem_cons_self
  | case4 a b rest _ ih => rw [ih fun hmem => h (List.mem_cons_of_mem a hmem)]

theorem eq_nil_of_dropReturns_eq_nil {s : Bytes} (h : dropReturns s = []) : s = [] := by
  have hnone : 10 ∉ dropReturns s := by simp [h]
  rw [← dropReturns_eq_self hnone, h]

/-- What becomes a newline is a newline, with a return in front of it or without. -/
theorem eq_of_dropReturns_eq_newline {s : Bytes} (h : dropReturns s = [10]) :
    s = [10] ∨ s = [13, 10] := by
  fun_cases dropReturns s with
  | case1 => cases h
  | case2 b => exact .inl h
  | case3 a b rest hcut =>
    obtain ⟨rfl, rfl⟩ := hcut
    rw [dropReturns, if_pos ⟨rfl, rfl⟩, dropReturns_cons_of_ne (by decide)] at h
    have hrest := eq_nil_of_dropReturns_eq_nil (List.cons.inj h).2
    exact .inr (by rw [hrest])
  | case4 a b rest hcut =>
    rw [dropReturns, if_neg hcut] at h
    cases eq_nil_of_dropReturns_eq_nil (List.cons.inj h).2

end Source

/-! ### Runs of blanks -/

namespace Text

/-- Removing returns from blanks leaves blanks. -/
theorem Blanks.dropReturns {w : Bytes} (h : Blanks w) : Blanks (Source.dropReturns w) := by
  induction h with
  | nil => exact .nil
  | @cons code w hcode _ ih =>
    by_cases hreturn : 13 ∈ Utf8.encode code
    · have hencode := Utf8.encode_eq_of_mem hreturn (by decide)
      rw [hencode, List.singleton_append]
      rcases Source.dropReturns_return_cons w with heq | heq
      · rw [heq]
        exact ih
      · rw [heq, ← List.singleton_append, ← hencode]
        exact .cons hcode ih
    · rw [Source.dropReturns_append_of_not_mem hreturn]
      exact .cons hcode ih

/-- What is blank without its returns is blank. -/
theorem Blanks.of_dropReturns {w v : Bytes} (h : Blanks v) (hv : Source.dropReturns w = v) :
    Blanks w := by
  induction h generalizing w with
  | nil =>
    rw [Source.eq_nil_of_dropReturns_eq_nil hv]
    exact .nil
  | @cons code v hcode _ ih =>
    obtain ⟨a, b, rfl, ha, hb⟩ := Source.exists_of_dropReturns_eq_append hv
    refine Blanks.append ?_ (ih hb)
    have hnewline : Blanks [10] := @Blanks.cons 10 [] rfl .nil
    by_cases hmem : 10 ∈ Utf8.encode code
    · rw [Utf8.encode_eq_of_mem hmem (by decide)] at ha
      rcases Source.eq_of_dropReturns_eq_newline ha with rfl | rfl
      · exact hnewline
      · exact @Blanks.cons 13 [10] rfl hnewline
    · have hsame : a = Utf8.encode code := by
        rw [← ha, Source.dropReturns_eq_self (ha ▸ hmem)]
      rw [hsame, ← List.append_nil (Utf8.encode code)]
      exact .cons hcode .nil

end Text

namespace Grammar

/-! ### Layouts -/

variable {file pos : Nat} {text : Bytes} {ls ms : List Lexeme}

/-- Terminals hold no line ends. -/
theorem Terminal.not_mem_text (t : Terminal) {b : UInt8} (hb : b.toNat ≤ 0x20) : b ∉ t.text := by
  intro hmem
  have hvisible := t.visible hmem
  omega

/-- Removing returns from a text changes its layout in the blanks only. -/
theorem Laid.dropReturns (h : Laid file pos text ls) (pos' : Nat) :
    ∃ ms, Laid file pos' (Source.dropReturns text) ms ∧ Retold ls ms := by
  induction h generalizing pos' with
  | nil hw => exact ⟨[], .nil hw.dropReturns, rfl⟩
  | @cons pos w rest t ls hw _ ih =>
    have hhead : (t.text ++ rest).head? ≠ some 10 := by
      obtain ⟨b, bs, htext, hb, -⟩ := t.text_eq_cons
      rw [htext, List.cons_append, List.head?_cons]
      rintro ⟨⟩
      exact absurd hb (by decide)
    have hcut : Source.dropReturns (w ++ t.text ++ rest) =
        Source.dropReturns w ++ t.text ++ Source.dropReturns rest := by
      rw [List.append_assoc, Source.dropReturns_append hhead,
        Source.dropReturns_append_of_not_mem (t.not_mem_text (by decide)), List.append_assoc]
    obtain ⟨ms, hms, hretold⟩ := ih (pos' + (Source.dropReturns w).length + t.text.length)
    rw [hcut]
    exact ⟨_ :: ms, .cons hw.dropReturns hms, congrArg (t :: ·) hretold⟩

/-- A layout of what is left is one of the text, up to blanks. -/
theorem Laid.of_dropReturns {left : Bytes} (h : Laid file pos left ls)
    (hleft : Source.dropReturns text = left) (pos' : Nat) :
    ∃ ms, Laid file pos' text ms ∧ Retold ls ms := by
  induction h generalizing text pos' with
  | nil hw => exact ⟨[], .nil (hw.of_dropReturns hleft), rfl⟩
  | @cons pos w rest t ls hw _ ih =>
    rw [List.append_assoc] at hleft
    obtain ⟨w', text', rfl, hw', htext'⟩ := Source.exists_of_dropReturns_eq_append hleft
    obtain ⟨word, rest', rfl, hword, hrest'⟩ := Source.exists_of_dropReturns_eq_append htext'
    -- nothing was removed from the terminal
    have hsame : word = t.text := by
      rw [← hword, Source.dropReturns_eq_self (hword ▸ t.not_mem_text (by decide))]
    subst hsame
    obtain ⟨ms, hms, hretold⟩ := ih hrest' (pos' + w'.length + t.text.length)
    rw [← List.append_assoc]
    exact ⟨_ :: ms, .cons (hw.of_dropReturns hw') hms, congrArg (t :: ·) hretold⟩

/-! ### Texts -/

/-- A sentence stays one without its returns. -/
theorem Sentence.dropReturns {stmts : List Stmt} (h : Sentence file text stmts) :
    ∃ stmts', Sentence file (Source.dropReturns text) stmts' ∧
      stmts'.map Stmt.erase = stmts.map Stmt.erase := by
  obtain ⟨ls, hlaid, hls⟩ := h
  obtain ⟨ms, hms, hretold⟩ := hlaid.dropReturns 0
  obtain ⟨stmts', hstmts', herase⟩ := Statements.retold hls hretold
  exact ⟨stmts', ⟨ms, hms, hstmts'⟩, herase⟩

/-- What is a sentence without its returns is one with them. -/
theorem Sentence.of_dropReturns {stmts : List Stmt}
    (h : Sentence file (Source.dropReturns text) stmts) :
    ∃ stmts', Sentence file text stmts' ∧ stmts'.map Stmt.erase = stmts.map Stmt.erase := by
  obtain ⟨ls, hlaid, hls⟩ := h
  obtain ⟨ms, hms, hretold⟩ := hlaid.of_dropReturns rfl 0
  obtain ⟨stmts', hstmts', herase⟩ := Statements.retold hls hretold
  exact ⟨stmts', ⟨ms, hms, hstmts'⟩, herase⟩

end Grammar

namespace Program

open Source (dropReturns)

/-- Without its returns a text is a program exactly if it is one, and then the same one up to
spans. -/
theorem parse_dropReturns_iff (file : Nat) (text : Bytes) :
    ((∃ q, parse file (dropReturns text) = .ok q) ↔ ∃ p, parse file text = .ok p) ∧
    ∀ p q, parse file text = .ok p → parse file (dropReturns text) = .ok q →
      q.stmts.map Stmt.erase = p.stmts.map Stmt.erase := by
  refine ⟨⟨?_, ?_⟩, ?_⟩
  · rintro ⟨q, hq⟩
    obtain ⟨stmts, hstmts, -⟩ := (parse_eq_ok_iff.mp hq).2.of_dropReturns
    exact ⟨_, hstmts.parse_eq_ok⟩
  · rintro ⟨p, hp⟩
    obtain ⟨stmts, hstmts, -⟩ := (parse_eq_ok_iff.mp hp).2.dropReturns
    exact ⟨_, hstmts.parse_eq_ok⟩
  · intro p q hp hq
    obtain ⟨stmts, hstmts, herase⟩ := (parse_eq_ok_iff.mp hp).2.dropReturns
    -- a text is read in one way only
    have hsame : q = ⟨stmts, ⟨file, 0, (dropReturns text).length⟩⟩ :=
      Except.ok.inj (hq.symm.trans hstmts.parse_eq_ok)
    rw [hsame, herase]

/-- **Line ends do not matter**, except for the number of bytes: a text is read exactly if it has
fewer than `2 ^ 32` bytes and is read without the returns in front of its newlines, and then both
programs are the same up to spans. -/
theorem parse_dropReturns (file : Nat) (text : Bytes) :
    ((∃ p, parse? file text = some (.ok p)) ↔
      text.length < 2 ^ 32 ∧ ∃ q, parse? file (dropReturns text) = some (.ok q)) ∧
    ∀ p q, parse? file text = some (.ok p) → parse? file (dropReturns text) = some (.ok q) →
      q.stmts.map Stmt.erase = p.stmts.map Stmt.erase := by
  obtain ⟨hread, hsame⟩ := parse_dropReturns_iff file text
  have hle : (dropReturns text).length ≤ text.length := Source.length_dropReturns_le text
  refine ⟨⟨?_, ?_⟩, fun p q hp hq =>
    hsame p q (parse?_eq_ok_iff.mp hp).1 (parse?_eq_ok_iff.mp hq).1⟩
  · rintro ⟨p, hp⟩
    obtain ⟨hp, hlen⟩ := parse?_eq_ok_iff.mp hp
    obtain ⟨q, hq⟩ := hread.mpr ⟨p, hp⟩
    exact ⟨hlen, q, parse?_eq_ok_iff.mpr ⟨hq, Nat.lt_of_le_of_lt hle hlen⟩⟩
  · rintro ⟨hlen, q, hq⟩
    obtain ⟨p, hp⟩ := hread.mp ⟨q, (parse?_eq_ok_iff.mp hq).1⟩
    exact ⟨p, parse?_eq_ok_iff.mpr ⟨hp, hlen⟩⟩

/-- Of the four returns two are removed, and the name is read all the same. -/
theorem parse_dropReturns_many :
    dropReturns "\ra\r\r\n;\r\n".utf8 = "\ra\r\n;\n".utf8 ∧
    ∃ p q, parse? 0 "\ra\r\r\n;\r\n".utf8 = some (.ok p) ∧
      parse? 0 "\ra\r\n;\n".utf8 = some (.ok q) ∧
      q.stmts.map Stmt.erase = p.stmts.map Stmt.erase := by
  have hdrop : dropReturns "\ra\r\r\n;\r\n".utf8 = "\ra\r\n;\n".utf8 := by decide
  have hp : parse? 0 "\ra\r\r\n;\r\n".utf8 =
      some (.ok ⟨[.eval ⟨0, 1, 6⟩ (.var ⟨0, 1, 2⟩ "a".utf8)], ⟨0, 0, 8⟩⟩) := by decide +kernel
  obtain ⟨hread, hsame⟩ := parse_dropReturns 0 "\ra\r\r\n;\r\n".utf8
  obtain ⟨-, q, hq⟩ := hread.mp ⟨_, hp⟩
  exact ⟨hdrop, _, q, hp, hdrop ▸ hq, hsame _ q hp hq⟩

/-- A line end of two bytes, and blanks behind it. -/
def longBlanks (n : Nat) : Bytes := 13 :: 10 :: List.replicate n 32

theorem dropReturns_longBlanks (n : Nat) :
    dropReturns (longBlanks n) = 10 :: List.replicate n 32 := by
  have hreturns : 13 ∉ 10 :: List.replicate n (32 : UInt8) := by
    intro h
    rcases List.mem_cons.mp h with h | h
    · cases h
    · exact absurd (List.eq_of_mem_replicate h) (by decide)
  have hcut := Source.dropReturns_append_of_not_mem hreturns []
  rw [List.append_nil] at hcut
  rw [longBlanks, Source.dropReturns, if_pos ⟨rfl, rfl⟩, hcut]
  exact List.append_nil _

/-- With its return a text of blanks may have one byte too many. -/
theorem parse_dropReturns_limit :
    (∃ q, parse? 0 (dropReturns (longBlanks (2 ^ 32 - 2))) = some (.ok q)) ∧
      ¬∃ p, parse? 0 (longBlanks (2 ^ 32 - 2)) = some (.ok p) := by
  generalize hn : 2 ^ 32 - 2 = n
  have hblanks : Text.Blanks (10 :: List.replicate n 32) := by
    refine @Text.Blanks.cons 10 _ rfl ?_
    clear hn
    induction n with
    | zero => exact .nil
    | succ n ih => exact @Text.Blanks.cons 32 _ rfl ih
  have hsentence : Grammar.Sentence 0 (10 :: List.replicate n 32) [] := ⟨[], .nil hblanks, .nil⟩
  rw [dropReturns_longBlanks]
  refine ⟨⟨_, parse?_eq_ok_iff.mpr ⟨hsentence.parse_eq_ok, ?_⟩⟩, fun ⟨p, hp⟩ => ?_⟩
  · rw [List.length_cons, List.length_replicate]
    omega
  · have hlen := (parse?_eq_ok_iff.mp hp).2
    rw [longBlanks, List.length_cons, List.length_cons, List.length_replicate] at hlen
    omega

end Program

end TensorLang
