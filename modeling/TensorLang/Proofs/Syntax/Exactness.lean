import TensorLang.Proofs.Syntax.Excerpt
import TensorLang.Proofs.Syntax.Overflow

/-!
# Spans are exact

The spans of a tree say where in the text its parts stand. A tree is **exact** for a text if all of
them are right: each one is tight and lies inside the span of the node around it, and the text under
it is the name, the numeral, the operator or the element type that the tree has there
(`Expr.Exact`, `Stmt.Exact`). A program is exact if its statements are, if they follow each other
with nothing but blanks in between, and if each of them can be read on its own
(`Program.Exact`).

Every tree that is read from a text is exact for it (`Program.parse_exact`).
-/

namespace TensorLang

open Text (Blanks)

/-! ### Exact trees -/

/-- The span of a part of what stands under `outer`; the text of the part satisfies `P`. -/
structure Span.Part (file : Nat) (text : Bytes) (s outer : Span) (P : Bytes → Prop) : Prop where
  tight : s.Tight file text
  within : s.Within outer
  written : P (s.slice text)

/-- The digits are a way to write `n`. -/
def Decimal.Numeral (n : Int) (digits : Bytes) : Prop :=
  Grammar.IsNumber digits ∧ (value digits : Int) = n

/-- The word is a way to write the element type. -/
def DType.Spelling (dt : DType) (word : Bytes) : Prop := (Bytes.toLowerAscii word, dt) ∈ spellings

section

variable (file : Nat) (text : Bytes)

/-- All spans of the expression are exact. -/
def Expr.Exact : Expr → Prop
  | fill span value shape dtype =>
    span.Tight file text ∧
    value.span.Part file text span (Decimal.Numeral value.value.toInt) ∧
    (∀ d ∈ shape, d.span.Part file text span (Decimal.Numeral d.value.toInt)) ∧
    ∀ dt ∈ dtype, dt.span.Part file text span dt.value.Spelling
  | range span first last step =>
    span.Tight file text ∧
    first.span.Part file text span (Decimal.Numeral first.value.toInt) ∧
    last.span.Part file text span (Decimal.Numeral last.value.toInt) ∧
    ∀ n ∈ step, n.span.Part file text span (Decimal.Numeral n.value.toInt)
  | var span name => span.Tight file text ∧ span.slice text = name
  | binary span op lhs rhs =>
    span.Tight file text ∧
    (op.value = .mul ∧ op.span.Part file text span (· = "*".utf8)) ∧
    (lhs.span.Within span ∧ rhs.span.Within span) ∧
    (span.start = lhs.span.start ∧ span.stop = rhs.span.stop) ∧
    lhs.Exact ∧ rhs.Exact
  | missing _ => False

/-- All spans of the statement are exact. -/
def Stmt.Exact : Stmt → Prop
  | eval span value =>
    span.Tight file text ∧ value.span.Within span ∧ value.Exact file text
  | assign span name value =>
    span.Tight file text ∧ name.span.Part file text span (· = name.value) ∧
    value.span.Within span ∧ value.Exact file text
  | missing _ => False

/-- From offset `pos` on, the text consists of the statements and of blanks around them. -/
def Spread : (pos : Nat) → List Stmt → Prop
  | pos, [] => Blanks (text.drop pos)
  | pos, s :: rest =>
    pos ≤ s.span.start ∧ Blanks (Span.slice ⟨file, pos, s.span.start⟩ text) ∧
    Spread s.span.stop rest

/-- All spans of the program are exact. -/
structure Program.Exact (p : Program) : Prop where
  /-- The program is the whole text. -/
  span_eq : p.span = ⟨file, 0, text.length⟩
  stmts : ∀ s ∈ p.stmts, s.Exact file text
  /-- The statements are disjoint and stand in order. -/
  ordered : p.stmts.Pairwise fun s t => s.span.stop ≤ t.span.start
  /-- Only blanks stand before, between and after the statements. -/
  spread : Spread file text 0 p.stmts
  /-- The text of a statement is a program with this statement alone. -/
  alone : ∀ s ∈ p.stmts, Program.parse? file (s.span.slice text) =
    some (.ok ⟨[s.respan (Span.lower s.span.start)], ⟨file, 0, (s.span.slice text).length⟩⟩)

end

theorem Stmt.Exact.tight {file : Nat} {text : Bytes} {s : Stmt} (h : s.Exact file text) :
    s.span.Tight file text := by
  cases s with
  | eval | assign => exact h.1
  | missing => exact h.elim

namespace Spread

variable {file pos : Nat} {text : Bytes} {stmts : List Stmt}

theorem le_start (h : Spread file text pos stmts)
    (hpos : ∀ s ∈ stmts, s.span.start < s.span.stop) : ∀ s ∈ stmts, pos ≤ s.span.start := by
  induction stmts generalizing pos with
  | nil => nofun
  | cons s rest ih =>
    obtain ⟨hle, -, hrest⟩ := h
    rw [List.forall_mem_cons] at hpos ⊢
    refine ⟨hle, fun t ht => ?_⟩
    have := ih hrest hpos.2 t ht
    omega

theorem pairwise (h : Spread file text pos stmts)
    (hpos : ∀ s ∈ stmts, s.span.start < s.span.stop) :
    stmts.Pairwise fun s t => s.span.stop ≤ t.span.start := by
  induction stmts generalizing pos with
  | nil => exact .nil
  | cons s rest ih =>
    obtain ⟨-, -, hrest⟩ := h
    have hpos' := (List.forall_mem_cons.mp hpos).2
    exact .cons (hrest.le_start hpos') (ih hrest hpos')

end Spread

namespace Grammar

variable {file : Nat} {text : Bytes} {l : Lexeme} {ls : List Lexeme} {a : Span} {e : Expr}
  {s : Stmt}

/-! ### Literals -/

/-- A lexeme is a part of what it belongs to. -/
theorem Stands.lexeme {P : Bytes → Prop} (h : Stands file text ls a) (hl : l ∈ ls)
    (hP : P l.value.text) : l.span.Part file text a P := by
  obtain ⟨hstands, hwithin⟩ := h.of_mem hl
  refine ⟨hstands.tight (List.cons_ne_nil l []), hwithin, ?_⟩
  rwa [hstands.slice_eq]

theorem Int32Literal.part {n : Spanned Int32} (h : Int32Literal l n) (hs : Stands file text ls a)
    (hl : l ∈ ls) : n.span.Part file text a (Decimal.Numeral n.value.toInt) := by
  cases h with
  | @mk digits hdigits _ hlt =>
    exact hs.lexeme hl ⟨hdigits, (Int32.toInt_ofNat_of_lt hlt).symm⟩

theorem Dimension.part {d : Spanned Int64} (h : Dimension l d) (hs : Stands file text ls a)
    (hl : l ∈ ls) : d.span.Part file text a (Decimal.Numeral d.value.toInt) := by
  cases h with
  | @mk digits hdigits _ hlt =>
    exact hs.lexeme hl ⟨hdigits, (Int64.toInt_ofNat_of_lt hlt).symm⟩

theorem Annotation.part {dt : Spanned DType} (h : Annotation l dt) (hs : Stands file text ls a)
    (hl : l ∈ ls) : dt.span.Part file text a dt.value.Spelling := by
  cases h with
  | mk hmem => exact hs.lexeme hl hmem

theorem Dims.part {ds : List (Spanned Int64)} {ms : List Lexeme} (h : Dims ms ds)
    (hs : Stands file text ls a) (hms : ms ⊆ ls) :
    ∀ d ∈ ds, d.span.Part file text a (Decimal.Numeral d.value.toInt) := by
  cases h with
  | none => nofun
  | some hfirst hmore =>
    intro d hd
    rcases List.mem_cons.mp hd with rfl | hd
    · exact hfirst.part hs (hms List.mem_cons_self)
    · obtain ⟨ns, hpart, hone⟩ := hmore.exists_part hd
      cases hone with
      | mk hdim => exact hdim.part hs (hms (List.mem_cons_of_mem _ (hpart.subset (by simp))))

/-! ### Expressions and statements -/

theorem FillTensor.exact (h : FillTensor ls e) (hs : Stands file text ls a) :
    e.span = a ∧ e.Exact file text := by
  cases h with
  | @plain _ _ last _ _ _ _ hdims hvalue =>
    obtain rfl := hs.eq_across (m := ⟨.closeBracket, last⟩) rfl (by simp [List.getLast?_cons])
    exact ⟨rfl, hs.tight (by simp), hvalue.part hs (by simp), hdims.part hs (by simp), nofun⟩
  | @typed _ _ _ last _ _ _ _ _ _ hdims hvalue hann =>
    obtain rfl := hs.eq_across (m := ⟨.closeBracket, last⟩) rfl (by simp [List.getLast?_cons])
    refine ⟨rfl, hs.tight (by simp), hvalue.part hs (by simp), hdims.part hs (by simp), ?_⟩
    rintro _ ⟨⟩
    exact hann.part hs (by simp)

theorem RangeTensor.exact (h : RangeTensor ls e) (hs : Stands file text ls a) :
    e.span = a ∧ e.Exact file text := by
  cases h with
  | plain hlo hhi =>
    obtain rfl := hs.eq_across rfl rfl
    exact ⟨rfl, hs.tight (by simp), hlo.part hs (by simp), hhi.part hs (by simp), nofun⟩
  | stepped hlo hhi hstep =>
    obtain rfl := hs.eq_across rfl rfl
    refine ⟨rfl, hs.tight (by simp), hlo.part hs (by simp), hhi.part hs (by simp), ?_⟩
    rintro _ ⟨⟩
    exact hstep.part hs (by simp)

theorem Atom.exact (h : Atom ls e) (hs : Stands file text ls a) :
    e.span = a ∧ e.Exact file text := by
  cases h with
  | fill h => exact h.exact hs
  | range h => exact h.exact hs
  | name =>
    obtain rfl := hs.eq_span
    exact ⟨rfl, hs.tight (by simp), hs.slice_eq⟩

/-- A product reaches from the beginning of its left operand to the end of its right one. -/
theorem Product.exact (h : Product ls e) (hs : Stands file text ls a) :
    e.span = a ∧ e.Exact file text := by
  induction h generalizing a with
  | atom hatom => exact hatom.exact hs
  | @mul ls ms lhs rhs op hleft hright ih =>
    -- the operands stand at the two ends of the lexemes, with the sign between them
    obtain ⟨l, hl, hlwithin, hstart⟩ := hs.left hleft.ne_nil
    have hs' := hs
    rw [List.append_cons] at hs'
    obtain ⟨r, hr, hrwithin, hstop⟩ := hs'.right hright.ne_nil
    obtain ⟨rfl, hlhs⟩ := ih hl
    obtain ⟨rfl, hrhs⟩ := hright.exact hr
    have hcover : lhs.span.cover rhs.span = a := by
      rw [Span.cover, if_pos (hl.file_eq.trans hr.file_eq.symm), hl.file_eq, ← hs.file_eq]
      obtain ⟨file, start, stop⟩ := a
      obtain ⟨-, hle⟩ := hlwithin
      obtain ⟨hle', -⟩ := hrwithin
      dsimp only at hstart hstop hle hle'
      simp only [Span.mk.injEq, true_and]
      omega
    have hop : op.Part file text a (· = "*".utf8) :=
      hs.lexeme (l := ⟨.star, op⟩) (by simp) rfl
    rw [hcover]
    exact ⟨rfl, hs.tight (by simp), ⟨rfl, hop⟩, ⟨hlwithin, hrwithin⟩,
      ⟨hstart.symm, hstop.symm⟩, hlhs, hrhs⟩

theorem Statement.exact (h : Statement ls s) (hs : Stands file text ls a) :
    s.span = a ∧ s.Exact file text := by
  cases h with
  | @eval ls e semi hexpr =>
    obtain ⟨b, hb, hwithin, hstart⟩ := hs.left hexpr.ne_nil
    obtain ⟨rfl, hexact⟩ := hexpr.exact hb
    have hspan : across e.span semi = a := by
      have hstop := hs.stop_eq (l := ⟨.semicolon, semi⟩) (by simp)
      rw [across, hb.file_eq, hstart, ← hs.file_eq, ← hstop]
    rw [hspan]
    exact ⟨rfl, hs.tight (by simp), hwithin, hexact⟩
  | @assign letters hname n eq semi ls e hexpr =>
    obtain rfl := hs.eq_across (m := ⟨.semicolon, semi⟩) rfl (by simp [List.getLast?_cons])
    have hbody : ls <:+:
        ⟨.word letters hname, n⟩ :: ⟨.equals, eq⟩ :: (ls ++ [⟨.semicolon, semi⟩]) :=
      List.infix_cons (List.infix_cons (List.prefix_append _ _).isInfix)
    obtain ⟨b, hb, hwithin⟩ := hs.part hbody hexpr.ne_nil
    obtain ⟨rfl, hexact⟩ := hexpr.exact hb
    have hspan : n.Part file text _ (· = letters) :=
      hs.lexeme (l := ⟨.word letters hname, n⟩) (by simp) rfl
    exact ⟨rfl, hs.tight (by simp), hspan, hwithin, hexact⟩

/-! ### Programs -/

/-- A statement of a sentence stands under its span. -/
theorem Sentence.stands {stmts : List Stmt} (h : Sentence file text stmts) (hmem : s ∈ stmts) :
    ∃ ls, Statement ls s ∧ Stands file text ls s.span ∧ s.Exact file text := by
  obtain ⟨ls, hlaid, hstmts⟩ := h
  obtain ⟨ms, hpart, hstmt⟩ := hstmts.exists_part hmem
  obtain ⟨a, ha⟩ := hlaid.stands hpart hstmt.ne_nil
  obtain ⟨rfl, hexact⟩ := hstmt.exact ha
  exact ⟨ms, hstmt, ha, hexact⟩

theorem Repeated.spread {stmts : List Stmt} (h : Statements ls stmts) (before : Bytes)
    {rest : Bytes} (hlaid : Laid file before.length rest ls) :
    Spread file (before ++ rest) before.length stmts := by
  induction h generalizing before rest with
  | nil =>
    cases hlaid with
    | nil hw => rwa [Spread, List.drop_left]
  | @cons ls ms s stmts hfirst _ ih =>
    -- `w` is the gap in front of the statement, and `body` is its text
    obtain ⟨w, body, after, rfl, hw, hfills, hmore⟩ := hlaid.fills hfirst.ne_nil
    have htext : before ++ (w ++ body ++ after) = before ++ w ++ body ++ after := by
      simp only [List.append_assoc]
    have hstands : Stands file (before ++ (w ++ body ++ after)) ls _ :=
      .mk htext (by rwa [List.length_append])
    have hspan := (hfirst.exact hstands).1
    have hlen : (before ++ w ++ body).length = (before ++ w).length + body.length :=
      List.length_append
    have hgap : Span.slice ⟨file, before.length, (before ++ w).length⟩
        (before ++ w ++ body ++ after) = w := by
      rw [List.append_assoc, List.length_append, Span.slice_append]
    have hrest := ih (before ++ w ++ body) (by rwa [hlen, List.length_append])
    rw [Spread, hspan, htext, hgap, ← hlen]
    exact ⟨by simp, hw, hrest⟩

theorem Sentence.spread {stmts : List Stmt} (h : Sentence file text stmts) :
    Spread file text 0 stmts := by
  obtain ⟨ls, hlaid, hstmts⟩ := h
  exact hstmts.spread [] hlaid

theorem Sentence.ordered {stmts : List Stmt} (h : Sentence file text stmts) :
    stmts.Pairwise fun s t => s.span.stop ≤ t.span.start := by
  refine h.spread.pairwise fun s hs => ?_
  obtain ⟨-, -, -, hexact⟩ := h.stands hs
  exact hexact.tight.start_lt_stop

end Grammar

/-- **Every span is exact** in the tree of every text that is read. -/
theorem Program.parse_exact {file : Nat} {text : Bytes} {p : Program}
    (h : Program.parse? file text = some (.ok p)) : p.Exact file text := by
  obtain ⟨hparse, hshort⟩ := Program.parse?_eq_ok_iff.mp h
  obtain ⟨hspan, hsentence⟩ := Program.parse_eq_ok_iff.mp hparse
  refine ⟨hspan, fun s hs => ?_, hsentence.ordered, hsentence.spread, fun s hs => ?_⟩
  · obtain ⟨-, -, -, hexact⟩ := hsentence.stands hs
    exact hexact
  · obtain ⟨ls, hstmt, hstands, -⟩ := hsentence.stands hs
    have hlen : (s.span.slice text).length ≤ text.length := by
      rw [Span.slice, List.length_take, List.length_drop]
      omega
    exact Program.parse?_eq_ok_iff.mpr
      ⟨hstmt.parse_slice hstands, Nat.lt_of_le_of_lt hlen hshort⟩

/-- Two statements among blanks of several bytes, which belong to no span but the program's. -/
theorem Program.parse_exact_wide_blanks :
    ∃ p, Program.parse? 0 "\u3000a = [2 x 3; 0; U8];\u00a0a*b\u2003*a ;".utf8 = some (.ok p) ∧
      p.stmts.map Stmt.span = [⟨0, 3, 22⟩, ⟨0, 24, 34⟩] ∧
      p.Exact 0 "\u3000a = [2 x 3; 0; U8];\u00a0a*b\u2003*a ;".utf8 := by
  have h : Program.parse? 0 "\u3000a = [2 x 3; 0; U8];\u00a0a*b\u2003*a ;".utf8 = some (.ok
      ⟨[.assign ⟨0, 3, 22⟩ ⟨"a".utf8, ⟨0, 3, 4⟩⟩
          (.fill ⟨0, 7, 21⟩ ⟨0, ⟨0, 15, 16⟩⟩ [⟨2, ⟨0, 8, 9⟩⟩, ⟨3, ⟨0, 12, 13⟩⟩]
            (some ⟨.uint8, ⟨0, 18, 20⟩⟩)),
        .eval ⟨0, 24, 34⟩
          (.binary ⟨0, 24, 32⟩ ⟨.mul, ⟨0, 30, 31⟩⟩
            (.binary ⟨0, 24, 27⟩ ⟨.mul, ⟨0, 25, 26⟩⟩ (.var ⟨0, 24, 25⟩ "a".utf8)
              (.var ⟨0, 26, 27⟩ "b".utf8))
            (.var ⟨0, 31, 32⟩ "a".utf8))], ⟨0, 0, 34⟩⟩) := by decide +kernel
  exact ⟨_, h, rfl, Program.parse_exact h⟩

end TensorLang
