import TensorLang.Proofs.Results
import TensorLang.Proofs.Syntax.Judgements
import TensorLang.Proofs.Syntax.Places
import TensorLang.Proofs.Syntax.Rejections
import TensorLang.Proofs.Syntax.Viability

/-!
# Literals that are to blame

A rejected literal is **to blame** if no program begins like the text up to the end of the literal:
whatever is changed behind it, the text stays wrong. The readers answer for all of their literals
but one. A number that only fails to be the lower bound of a range is not to blame, since it can
always be a dimension.

Otherwise the literal is rejected in every text that begins alike (`Grammar.stmts_judged`), and a
program rejects none. The main statement is `Program.parse_blames_iff`.
-/

namespace TensorLang

open Cursor (Passes Step)
open Grammar (Lexeme Terminal)

/-! ### Texts -/

namespace Cursor

variable {c c' : Cursor} {ls : List Lexeme}

/-- The cursor moves over a terminal and the blanks behind it. -/
theorem step_of_blanks (file pos : Nat) (t : Terminal) {v w : Bytes} (hv : Text.Blanks v)
    (hw : Text.startsBlank w = false) :
    Step ⟨file, pos, t.text ++ (v ++ w)⟩ ⟨t, ⟨file, pos, pos + t.text.length⟩⟩
      ⟨file, pos + t.text.length + v.length, w⟩ := by
  have hstep : Step ⟨file, pos, t.text ++ (v ++ w)⟩ _ _ := .mk rfl
  have hadvance : (⟨file, pos, t.text ++ (v ++ w)⟩ : Cursor).advance t.text.length =
      ⟨file, pos + t.text.length, v ++ w⟩ := by
    simp only [advance, List.drop_left]
  rwa [hadvance, Grammar.skipBlanks_append _ _ hv hw] at hstep

/-- What a step takes up. -/
theorem Step.exists_blanks {t : Terminal} {s : Span} (h : Step c ⟨t, s⟩ c') :
    s = c.spanOf t.text.length ∧ c'.file = c.file ∧
      ∃ v, Text.Blanks v ∧ c.rest = t.text ++ (v ++ c'.rest) ∧
        c'.pos = c.pos + t.text.length + v.length := by
  cases h with
  | @mk t rest hrest =>
    have hdrop : (c.advance t.text.length).rest = rest := by
      rw [advance, hrest, List.drop_left]
    have hlen : (rest.take (Text.blankLength rest)).length = Text.blankLength rest := by
      rw [List.length_take, Nat.min_eq_left (Text.blankLength_le rest)]
    refine ⟨rfl, rfl, _, Text.blanks_take_blankLength rest, ?_, ?_⟩
    · rw [skipBlanks, hdrop, advance, hdrop, List.take_append_drop, hrest]
    · rw [skipBlanks, hdrop, hlen]
      rfl

theorem Passes.isTrimmed_start (h : Passes c ls c') (hc' : c'.IsTrimmed) : c.IsTrimmed := by
  cases h with
  | nil => exact hc'
  | cons hstep _ => exact hstep.isTrimmed_left

/-- What is passed over is passed over in front of any other text that begins with no blank. -/
theorem Passes.exists_text (h : Passes c ls c') :
    ∃ u, c.rest = u ++ c'.rest ∧ c'.file = c.file ∧ c'.pos = c.pos + u.length ∧
      ∀ w, Text.startsBlank w = false →
        Passes ⟨c.file, c.pos, u ++ w⟩ ls ⟨c.file, c'.pos, w⟩ := by
  induction h with
  | nil => exact ⟨[], rfl, rfl, rfl, fun _ _ => .nil⟩
  | @cons c c₁ c₂ l ls hstep _ ih =>
    obtain ⟨t, s⟩ := l
    obtain ⟨rfl, hfile, v, hv, hrest, hpos⟩ := hstep.exists_blanks
    obtain ⟨u, hu, hufile, hupos, hpass⟩ := ih
    refine ⟨t.text ++ (v ++ u), ?_, hufile.trans hfile, ?_, fun w hw => ?_⟩
    · rw [hrest, hu]
      simp only [List.append_assoc]
    · rw [hupos, hpos]
      simp only [List.length_append]
      omega
    · have hmore := hpass w hw
      rw [hfile, hpos] at hmore
      simp only [List.append_assoc]
      exact .cons (step_of_blanks c.file c.pos t hv (hmore.isTrimmed_start hw)) hmore

/-- A text up to a place that was reached over some lexemes, with something else behind it. -/
theorem Passes.exists_before {file : Nat} {text : Bytes}
    (h : Passes (start file text).skipBlanks ls c) :
    ∃ before, text = before ++ c.rest ∧ c.file = file ∧ c.pos = before.length ∧
      ∀ w, Text.startsBlank w = false →
        Passes (start file (before ++ w)).skipBlanks ls ⟨file, c.pos, w⟩ := by
  obtain ⟨u, hu, hfile, hpos, hpass⟩ := h.exists_text
  have hv := Text.blanks_take_blankLength text
  have hlen : (text.take (Text.blankLength text)).length = Text.blankLength text := by
    rw [List.length_take, Nat.min_eq_left (Text.blankLength_le text)]
  have hstart : (start file text).skipBlanks.pos = (text.take (Text.blankLength text)).length := by
    rw [hlen]
    exact Nat.zero_add _
  refine ⟨text.take (Text.blankLength text) ++ u, ?_, hfile, ?_, fun w hw => ?_⟩
  · rw [List.append_assoc, ← hu]
    exact (List.take_append_drop _ _).symm
  · rw [hpos, hstart, List.length_append]
  · have hmore := hpass w hw
    have hskip := Grammar.skipBlanks_append file 0 hv (hmore.isTrimmed_start hw)
    rw [hstart] at hmore
    rw [List.append_assoc, start, hskip, Nat.zero_add]
    exact hmore

/-- The last lexeme before a place. -/
theorem Passes.exists_last {file : Nat} {text before : Bytes} {last : Lexeme}
    (h : Passes (start file text).skipBlanks ls c) (hlast : ls.getLast? = some last)
    (hbefore : text = before ++ c.rest) :
    ∃ head v, before = head ++ last.value.text ++ v ∧ Text.Blanks v := by
  obtain ⟨t, s⟩ := last
  obtain ⟨init, rfl⟩ := List.getLast?_eq_some_iff.mp hlast
  obtain ⟨c₁, hinit, hd⟩ := passes_append_iff.mp h
  have hstep := passes_singleton_iff.mp hd
  obtain ⟨head, hhead, -⟩ := hinit.exists_before
  obtain ⟨-, -, v, hv, hrest, -⟩ := hstep.exists_blanks
  refine ⟨head, v, ?_, hv⟩
  rw [hhead, hrest] at hbefore
  refine (List.append_left_inj c.rest).mp (hbefore.symm.trans ?_)
  simp only [List.append_assoc]

end Cursor

/-- Visible bytes of ASCII. -/
def Text.isVisible (b : UInt8) : Bool := 0x20 < b.toNat && b.toNat < 0x80

theorem Text.Blanks.filter_isVisible {w : Bytes} (h : Blanks w) : w.filter isVisible = [] := by
  rw [List.filter_eq_nil_iff]
  intro b hb
  have := h.invisible hb
  simp only [isVisible, Bool.and_eq_true, decide_eq_true_eq]
  omega

namespace Grammar

theorem Terminal.filter_isVisible (t : Terminal) : t.text.filter Text.isVisible = t.text := by
  rw [List.filter_eq_self]
  intro b hb
  simpa [Text.isVisible] using t.visible hb

/-- The last visible byte tells whether a bracket was opened. -/
theorem Terminal.eq_openBracket {t : Terminal} {head before v w : Bytes}
    (h : head ++ t.text ++ v = before ++ "[".utf8 ++ w) (hv : Text.Blanks v)
    (hw : Text.Blanks w) : t = .openBracket := by
  have hlast : t.text.getLast? = some 91 := by
    have hfilter := congrArg (fun u => (u.filter Text.isVisible).getLast?) h
    have hbracket : "[".utf8.filter Text.isVisible = [91] := by decide
    simp only [List.filter_append, hv.filter_isVisible, hw.filter_isVisible, t.filter_isVisible,
      hbracket, List.append_nil, List.getLast?_append, List.getLast?_singleton,
      Option.some_or] at hfilter
    obtain ⟨b, bs, hb, -⟩ := t.text_eq_cons
    cases hgot : t.text.getLast? with
    | none => simp [hb] at hgot
    | some b => rw [hgot] at hfilter; exact hfilter
  have hmem : (91 : UInt8) ∈ t.text := List.mem_of_getLast? hlast
  cases t with
  | openBracket => rfl
  | number digits hnumber => exact absurd (hnumber.2 91 hmem) (by decide)
  | word letters hname => exact absurd (hname.isNamePart_of_mem hmem) (by decide)
  | _ => exact absurd hlast (by decide)

end Grammar

/-! ### Programs -/

namespace LiteralProblem

/-- Problems with 32-bit numbers are told from all others by their messages. -/
theorem eq_int32_of_message {problem : LiteralProblem} {digits : Bytes}
    (h : problem.message = (int32 digits).message) : problem = int32 digits := by
  have hhead := congrArg List.head? h
  have hi : "integer literal ".utf8.head? = some 105 := by decide
  have hd : "dimension ".utf8.head? = some 100 := by decide
  have hu : "unknown data type ".utf8.head? = some 117 := by decide
  cases problem with
  | int32 digits' =>
    rw [message, message, List.append_cancel_right_eq, List.append_cancel_left_eq] at h
    rw [h]
  | dimension => simp [message, hi, hd] at hhead
  | dtype => simp [message, DType.unknownMessage, hi, hu] at hhead

/-- A problem that reads like another one spares the same literals. -/
theorem FitsDimension.of_message {problem problem' : LiteralProblem}
    (h : problem.message = problem'.message) (hfits : problem'.FitsDimension) :
    problem.FitsDimension := by
  cases problem' with
  | int32 digits => rwa [eq_int32_of_message h]
  | dimension => exact hfits.elim
  | dtype => exact hfits.elim

end LiteralProblem

namespace Program

variable {file : Nat} {text : Bytes} {e : ParseError} {span : Span} {problem : LiteralProblem}

/-- An error that blames a literal comes from a literal that was rejected. -/
theorem exists_rejected_of_mem_errors (herror : parse file text = .error e)
    (hmem : .rejected span problem.message ∈ e.errors) :
    ∃ problem', problem.message = problem'.message ∧
      .rejected span problem' ∈ (Grammar.stmts (Cursor.start file text).skipBlanks).log := by
  obtain ⟨hnone, rfl⟩ := of_parse_eq_error herror
  -- without rejected literals the only error is a mismatch
  by_cases hnil : Complaint.rejections (Grammar.stmts (Cursor.start file text).skipBlanks).log = []
  · obtain ⟨pos, label, hexpected⟩ := Grammar.exists_expected_of_stmts hnone
    obtain ⟨far, labels, -, he⟩ := ParseError.ofLog_eq_mismatch hnil hexpected
    rw [he] at hmem
    cases List.mem_singleton.mp hmem
  · rw [ParseError.errors_ofLog hnil] at hmem
    obtain ⟨span', problem', hlog, heq⟩ := Complaint.mem_of_rejections hmem
    obtain ⟨rfl, hmessage⟩ := SyntaxError.rejected.inj heq
    exact ⟨problem', hmessage, hlog⟩

/-- A text that can go on with a terminal can go on with blanks behind the terminal, too. -/
theorem parse_of_promises {n pos : Nat} {label : Label} {blanks : Bytes}
    (h : (Cursor.start file text).skipBlanks.Promises n pos label Grammar.Statements)
    (hblanks : Text.Blanks blanks) :
    ∃ t rest p, label.Admits t ∧
      parse file (text.take pos ++ (t.text ++ (blanks ++ rest))) = .ok p := by
  obtain ⟨ls, c, t, ts, hpass, rfl, hadmits, -, hgoes⟩ := h
  obtain ⟨ms, hms, hlaid⟩ :=
    Grammar.exists_laid file (c.pos + t.text.length + blanks.length) ts
  have hmore : Grammar.Laid file c.pos (t.text ++ (blanks ++ ts.flatMap Terminal.text)) _ :=
    @Grammar.Laid.cons _ c.pos [] _ t ms .nil (hlaid.prepend hblanks)
  obtain ⟨stmts, hstmts⟩ := (hgoes _).apply hms
  have hsentence : Grammar.Sentence file _ stmts := ⟨_, Grammar.laid_take hpass hmore, hstmts⟩
  exact ⟨t, _, _, hadmits, hsentence.parse_eq_ok⟩

/-- **Which literals are to blame.** A rejected literal is reported with its span. No program begins
like the text up to the end of the literal, followed by a space, unless the literal would do for a
dimension and stands right behind an opening bracket. A literal that stands there is reported
because it is no lower bound of a range, and as a dimension it is the beginning of a program. -/
theorem parse_blames_iff (herror : parse file text = .error e)
    (hmem : .rejected span problem.message ∈ e.errors) :
    (∀ rest p, parse file (text.take span.stop ++ " ".utf8 ++ rest) ≠ .ok p) ↔
      ¬ (problem.FitsDimension ∧ ∃ before blanks,
        text.take span.start = before ++ "[".utf8 ++ blanks ∧ Text.Blanks blanks) := by
  obtain ⟨problem', hmessage, hlog⟩ := exists_rejected_of_mem_errors herror hmem
  obtain ⟨ls, last, c, hpass, hlast, ⟨⟨t, ht⟩, ⟨tail, hrest⟩, rfl⟩, -, hgoes, hbars⟩ :=
    Grammar.stmts_judged (Cursor.start file text).isTrimmed_skipBlanks hlog
  obtain ⟨before, hbefore, hfile, hpos, hagain⟩ := hpass.exists_before
  obtain ⟨head, v, hhead, hv⟩ := hpass.exists_last hlast hbefore
  have hstart : text.take c.pos = before := by
    rw [hbefore, hpos, List.take_left]
  have hstop : text.take (c.pos + problem'.text.length) = before ++ t.text := by
    rw [hbefore, hrest, ← ht, hpos, ← List.length_append, ← List.append_assoc, List.take_left]
  simp only [Cursor.spanOf, hstart, hstop]
  constructor
  -- the literal is a dimension, and what a tensor needs behind it is written behind the space
  · rintro hnone ⟨hfits, before', blanks, hbracket, hblanks⟩
    have hopen := Grammar.Terminal.eq_openBracket (hhead ▸ hbracket) hv hblanks
    have hspace : Text.Blanks " ".utf8 := @Text.Blanks.cons 32 [] rfl .nil
    obtain ⟨n, hpromises⟩ := hgoes (hfits.of_message hmessage.symm) hopen
    obtain ⟨t', rest, p, ht', hp⟩ := parse_of_promises hpromises hspace
    have htext : t'.text = t.text := ht'.trans ht.symm
    refine hnone rest p ?_
    rw [Cursor.spanOf, hstart, htext] at hp
    simpa only [List.append_assoc] using hp
  -- a text that begins alike rejects a literal, and a program rejects none
  · intro hno rest p hp
    have hspared : ¬ (problem'.FitsDimension ∧ last.value = .openBracket) := by
      rintro ⟨hfits, hopen⟩
      refine hno ⟨hfits.of_message hmessage, head, v, ?_, hv⟩
      rw [hhead, hopen]
      rfl
    have hpassed := hagain _ (t.startsBlank_text_append (" ".utf8 ++ rest))
    have hshows : Cursor.Shows ⟨file, c.pos, t.text ++ (" ".utf8 ++ rest)⟩ problem'.text :=
      ⟨" ".utf8 ++ rest, by rw [ht], fun b hb => by cases hb; rfl⟩
    obtain ⟨span, problem, hrejected⟩ := hbars hspared hpassed hshows
    rw [← List.append_assoc, ← List.append_assoc] at hrejected
    exact not_mem_log_of_parse_eq_ok hp (Reader.mem_log_bind.mpr (.inl hrejected))

/-- A value of a filled tensor has to fit 32 bits, whatever comes behind it. -/
theorem parse_blames_value :
    parse 0 "[1;3000000000];".utf8 =
      .error ⟨.rejected ⟨0, 3, 13⟩ (LiteralProblem.int32 "3000000000".utf8).message, []⟩ ∧
    ∀ rest p, parse 0 ("[1;3000000000 ".utf8 ++ rest) ≠ .ok p := by
  have herror : parse 0 "[1;3000000000];".utf8 =
      .error ⟨.rejected ⟨0, 3, 13⟩ (LiteralProblem.int32 "3000000000".utf8).message, []⟩ := by
    decide +kernel
  refine ⟨herror, (parse_blames_iff herror List.mem_cons_self).mpr ?_⟩
  rintro ⟨-, before, blanks, htext, hblanks⟩
  cases @Grammar.Terminal.eq_openBracket .semicolon "[1".utf8 before [] blanks htext .nil hblanks

/-- The second semicolon is what is wrong here. Still the error blames the dimension, and says that
it does not fit 32 bits, which a dimension does not have to; with a value behind it, the same
dimension is read. -/
theorem parse_blames_dimension :
    parse 0 "[3000000000;;5];".utf8 =
      .error ⟨.rejected ⟨0, 1, 11⟩ (LiteralProblem.int32 "3000000000".utf8).message, []⟩ ∧
    ∃ p, parse 0 ("[3000000000;;5];".utf8.take 11 ++ " ".utf8 ++ ";5];".utf8) = .ok p := by
  have hok : (parse 0 ("[3000000000;;5];".utf8.take 11 ++ " ".utf8 ++ ";5];".utf8)).isOk := by
    decide +kernel
  exact ⟨by decide +kernel, Except.exists_of_isOk hok⟩

end Program

end TensorLang
