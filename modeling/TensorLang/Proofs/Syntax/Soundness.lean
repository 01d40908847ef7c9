import TensorLang.Proofs.Syntax.Tokens

/-!
# Readings are derivations

Whatever a reader of the grammar reads, the rule of the same name derives from the lexemes that the
cursor passed over (`Reader.Sound`). The proofs follow the readers: each bind is one step of the
cursor, and a repetition of readings is a repetition of the rule.

The main statement is `Grammar.stmts_sound`.
-/

namespace TensorLang

open Cursor (Passes Step)
open Grammar (Lexeme Repeated)

namespace Reader

variable {α β : Type}

/-- What the reader reads, from a place with no blank ahead, the rule derives from the lexemes that
were passed over. -/
def Sound (p : Reader α) (rule : List Lexeme → α → Prop) : Prop :=
  ∀ ⦃c c' : Cursor⦄ ⦃a : α⦄, c.IsTrimmed → (p c).value = some (a, c') →
    ∃ ls, rule ls a ∧ Passes c ls c'

/-- A repeated reading is a repetition of the rule. -/
theorem Sound.many {p : Reader α} {rule : List Lexeme → α → Prop} (hp : p.Sound rule) :
    Sound (many p) (Repeated rule) := by
  intro c c'' as hc h
  induction c, as, h using many_induction with
  | stop => exact ⟨[], .nil, .nil⟩
  | round c a c' as _ hread _ ih =>
    obtain ⟨ls, hrule, hpass⟩ := hp hc hread
    obtain ⟨ms, hrest, hpass'⟩ := ih (hpass.isTrimmed hc)
    exact ⟨ls ++ ms, .cons hrule hrest, hpass.append hpass'⟩

/-- What the rule derives once it is given the span from the first to the last lexeme. -/
def Spanning (rule : List Lexeme → α → Prop) (ls : List Lexeme) (node : Span → α) : Prop :=
  ∃ l m, ls.head? = some l ∧ ls.getLast? = some m ∧ rule ls (node (Grammar.across l.span m.span))

/-- The span of what was read reaches from the first to the last lexeme. -/
theorem Sound.located {p : Reader (Span → α)} {rule : List Lexeme → α → Prop}
    (hp : p.Sound (Spanning rule)) : Sound (located p id) rule := by
  intro c c' a hc h
  obtain ⟨node, hread, rfl⟩ := located_eq_some.mp h
  obtain ⟨ls, ⟨l, m, hl, hm, hrule⟩, hpass⟩ := hp hc hread
  rw [hpass.trimmedTo_eq_across hl hm]
  exact ⟨ls, hrule, hpass⟩

end Reader

namespace Grammar

open Reader

/-! ### Derived lexemes -/

section

variable {ls : List Lexeme} {e : Expr} {s : Stmt}

theorem FillTensor.ne_nil (h : FillTensor ls e) : ls ≠ [] := by
  cases h <;> exact List.cons_ne_nil _ _

theorem RangeTensor.ne_nil (h : RangeTensor ls e) : ls ≠ [] := by
  cases h <;> exact List.cons_ne_nil _ _

theorem Atom.ne_nil (h : Atom ls e) : ls ≠ [] := by
  cases h with
  | fill h => exact h.ne_nil
  | range h => exact h.ne_nil
  | name => exact List.cons_ne_nil _ _

theorem Product.ne_nil (h : Product ls e) : ls ≠ [] := by
  cases h with
  | atom h => exact h.ne_nil
  | mul => simp

theorem Statement.ne_nil (h : Statement ls s) : ls ≠ [] := by
  cases h <;> simp

end

/-! ### Tensors -/

theorem moreDims_sound : Sound (token "x" >>= fun _ => dimension) MoreDims := by
  intro c c' d hc h
  obtain ⟨s, c₁, hx, hd⟩ := bind_eq_some.mp h
  have hstep := token_sound .times rfl hc hx
  obtain ⟨l, hl, hstep'⟩ := dimension_sound hstep.isTrimmed hd
  exact ⟨_, .mk hl, .cons hstep hstep'.passes⟩

theorem dims_sound : Sound (separated dimension (token "x")) Dims := by
  intro c c' ds hc h
  obtain ⟨o, c₁, hfirst, hmore⟩ := bind_eq_some.mp h
  obtain ⟨d, rfl, hd⟩ | ⟨rfl, rfl, -⟩ := optional_eq_some.mp hfirst
  · obtain ⟨l, hl, hstep⟩ := dimension_sound hc hd
    obtain ⟨ds', c₂, hmany, hpure⟩ := bind_eq_some.mp hmore
    obtain ⟨rfl, rfl⟩ := pure_eq_some.mp hpure
    obtain ⟨ls, hls, hpass⟩ := moreDims_sound.many hstep.isTrimmed hmany
    exact ⟨l :: ls, .some hl hls, .cons hstep hpass⟩
  · obtain ⟨rfl, rfl⟩ := pure_eq_some.mp hmore
    exact ⟨[], .none, .nil⟩

theorem fill_sound : Sound fill (Spanning FillTensor) := by
  intro c c' node hc h
  obtain ⟨first, c₁, h1, h⟩ := bind_eq_some.mp h
  obtain ⟨shape, c₂, h2, h⟩ := bind_eq_some.mp h
  obtain ⟨semi, c₃, h3, h⟩ := bind_eq_some.mp h
  obtain ⟨value, c₄, h4, h⟩ := bind_eq_some.mp h
  obtain ⟨dt, c₅, h5, h⟩ := bind_eq_some.mp h
  obtain ⟨last, c₆, h6, h⟩ := bind_eq_some.mp h
  obtain ⟨rfl, rfl⟩ := pure_eq_some.mp h
  have hopen := token_sound .openBracket rfl hc h1
  obtain ⟨ls, hls, hdims⟩ := dims_sound hopen.isTrimmed h2
  have hsemi := token_sound .semicolon rfl (hdims.isTrimmed hopen.isTrimmed) h3
  obtain ⟨n, hn, hvalue⟩ := int32_sound hsemi.isTrimmed h4
  obtain ⟨dt, rfl, hann⟩ | ⟨rfl, rfl, -⟩ := optional_eq_some.mp h5
  · obtain ⟨semi', c₇, h7, h8⟩ := bind_eq_some.mp hann
    have hsemi' := token_sound .semicolon rfl hvalue.isTrimmed h7
    obtain ⟨a, ha, hdt⟩ := dtype_sound hsemi'.isTrimmed h8
    have hclose := token_sound .closeBracket rfl hdt.isTrimmed h6
    refine ⟨_, ⟨⟨.openBracket, first⟩, ⟨.closeBracket, last⟩, rfl, ?_, .typed hls hn ha⟩,
      .cons hopen (hdims.append
        (.cons hsemi (.cons hvalue (.cons hsemi' (.cons hdt hclose.passes)))))⟩
    simp [List.getLast?_cons]
  · have hclose := token_sound .closeBracket rfl hvalue.isTrimmed h6
    refine ⟨_, ⟨⟨.openBracket, first⟩, ⟨.closeBracket, last⟩, rfl, ?_, .plain hls hn⟩,
      .cons hopen (hdims.append (.cons hsemi (.cons hvalue hclose.passes)))⟩
    simp [List.getLast?_cons]

theorem range_sound : Sound range (Spanning RangeTensor) := by
  intro c c' node hc h
  obtain ⟨first, c₁, h1, h⟩ := bind_eq_some.mp h
  obtain ⟨lo, c₂, h2, h⟩ := bind_eq_some.mp h
  obtain ⟨between, c₃, h3, h⟩ := bind_eq_some.mp h
  obtain ⟨hi, c₄, h4, h⟩ := bind_eq_some.mp h
  obtain ⟨step, c₅, h5, h⟩ := bind_eq_some.mp h
  obtain ⟨last, c₆, h6, h⟩ := bind_eq_some.mp h
  obtain ⟨rfl, rfl⟩ := pure_eq_some.mp h
  have hopen := token_sound .openBracket rfl hc h1
  obtain ⟨l, hl, hlo⟩ := int32_sound hopen.isTrimmed h2
  have hdots := token_sound .dots rfl hlo.isTrimmed h3
  obtain ⟨m, hm, hhi⟩ := int32_sound hdots.isTrimmed h4
  obtain ⟨step, rfl, hopt⟩ | ⟨rfl, rfl, -⟩ := optional_eq_some.mp h5
  · obtain ⟨semi, c₇, h7, h8⟩ := bind_eq_some.mp hopt
    have hsemi := token_sound .semicolon rfl hhi.isTrimmed h7
    obtain ⟨n, hn, hstep⟩ := int32_sound hsemi.isTrimmed h8
    have hclose := token_sound .closeBracket rfl hstep.isTrimmed h6
    exact ⟨_, ⟨⟨.openBracket, first⟩, ⟨.closeBracket, last⟩, rfl, rfl, .stepped hl hm hn⟩,
      .cons hopen (.cons hlo (.cons hdots (.cons hhi (.cons hsemi (.cons hstep hclose.passes)))))⟩
  · have hclose := token_sound .closeBracket rfl hhi.isTrimmed h6
    exact ⟨_, ⟨⟨.openBracket, first⟩, ⟨.closeBracket, last⟩, rfl, rfl, .plain hl hm⟩,
      .cons hopen (.cons hlo (.cons hdots (.cons hhi hclose.passes)))⟩

/-! ### Products -/

theorem atom_sound : Sound atom Atom := by
  intro c c' e hc h
  obtain ⟨c₁, hread, rfl⟩ := (padded_eq_some hc).mp h
  rw [located_orElse, located_orElse, orElse_eq_some, orElse_eq_some] at hread
  obtain hfill | ⟨-, hrange | ⟨-, hname⟩⟩ := hread
  · obtain ⟨ls, hls, hpass⟩ := fill_sound.located hc hfill
    rw [(hpass.isTrimmed hc).skipBlanks_eq]
    exact ⟨ls, .fill hls, hpass⟩
  · obtain ⟨ls, hls, hpass⟩ := range_sound.located hc hrange
    rw [(hpass.isTrimmed hc).skipBlanks_eq]
    exact ⟨ls, .range hls, hpass⟩
  -- no blanks are skipped behind a name, so its span is trimmed already
  · obtain ⟨node, hread, rfl⟩ := located_eq_some.mp hname
    obtain ⟨w, c₂, hw, hpure⟩ := bind_eq_some.mp hread
    obtain ⟨rfl, rfl⟩ := pure_eq_some.mp hpure
    obtain ⟨hw, hstep⟩ := word_sound hw
    exact ⟨_, .name, hstep.passes⟩

/-- One more operand behind its operator. -/
inductive Factor : List Lexeme → Span × Expr → Prop where
  | mk {op : Span} {ls : List Lexeme} {e : Expr} : Atom ls e → Factor (⟨.star, op⟩ :: ls) (op, e)

theorem factor_sound :
    Sound (token "*" >>= fun op => atom >>= fun rhs => pure (op, rhs)) Factor := by
  intro c c' f hc h
  obtain ⟨op, c₁, h1, h⟩ := bind_eq_some.mp h
  obtain ⟨rhs, c₂, h2, h⟩ := bind_eq_some.mp h
  obtain ⟨rfl, rfl⟩ := pure_eq_some.mp h
  have hstar := token_sound .star rfl hc h1
  obtain ⟨ls, hls, hpass⟩ := atom_sound hstar.isTrimmed h2
  exact ⟨_, .mk hls, .cons hstar hpass⟩

/-- Further operands are multiplied to what is there already. -/
theorem Product.foldl {ls ms : List Lexeme} {lhs : Expr} {factors : List (Span × Expr)}
    (hl : Product ls lhs) (hf : Repeated Factor ms factors) :
    Product (ls ++ ms) (factors.foldl product lhs) := by
  induction hf generalizing ls lhs with
  | nil => rwa [List.append_nil]
  | cons hfactor _ ih =>
    cases hfactor with
    | mk hatom => rw [← List.append_assoc]; exact ih (.mul hl hatom)

theorem expr_sound : Sound expr Product := by
  intro c c' e hc h
  obtain ⟨first, c₁, h1, h⟩ := bind_eq_some.mp h
  obtain ⟨factors, c₂, h2, h⟩ := bind_eq_some.mp h
  obtain ⟨rfl, rfl⟩ := pure_eq_some.mp h
  obtain ⟨ls, hls, hpass⟩ := atom_sound hc h1
  obtain ⟨ms, hms, hpass'⟩ := factor_sound.many (hpass.isTrimmed hc) h2
  exact ⟨ls ++ ms, (Product.atom hls).foldl hms, hpass.append hpass'⟩

/-! ### Statements -/

private theorem Atom.span_eq {c c' : Cursor} {ls : List Lexeme} {e : Expr} (h : Atom ls e)
    (hpass : Passes c ls c') : e.span.file = c.file ∧ e.span.start = c.pos := by
  have hfirst {l : Lexeme} {ms : List Lexeme} (h : Passes c (l :: ms) c') :
      l.span.file = c.file ∧ l.span.start = c.pos := by
    obtain ⟨c₁, hstep, -⟩ := Cursor.passes_cons_iff.mp h
    rw [hstep.span_eq]
    exact ⟨rfl, rfl⟩
  cases h with
  | fill h => cases h <;> exact hfirst hpass
  | range h => cases h <;> exact hfirst hpass
  | name => exact hfirst hpass

/-- The span of an expression begins where the expression begins. -/
theorem Product.span_eq {c c' : Cursor} {ls : List Lexeme} {e : Expr} (h : Product ls e)
    (hpass : Passes c ls c') : e.span.file = c.file ∧ e.span.start = c.pos := by
  induction h generalizing c' with
  | atom hatom => exact hatom.span_eq hpass
  | mul _ hatom ih =>
    obtain ⟨c₁, hpass, hpass'⟩ := Cursor.passes_append_iff.mp hpass
    obtain ⟨hfile, hstart⟩ := ih hpass
    obtain ⟨c₂, hstar, hright⟩ := Cursor.passes_cons_iff.mp hpass'
    obtain ⟨hfile', hstart'⟩ := hatom.span_eq hright
    obtain ⟨hsame, hle⟩ := (hpass.append hstar.passes).file_eq_and_pos_le
    rw [Expr.span, Span.cover, if_pos (by rw [hfile, hfile', hsame])]
    exact ⟨hfile, by dsimp only; omega⟩

/-- A part at the beginning lends its place to the whole. -/
private theorem Product.across_eq {c c' : Cursor} {l : Lexeme} {ls : List Lexeme} {e : Expr}
    (h : Product ls e) (hpass : Passes c ls c') (hl : ls.head? = some l) (s : Span) :
    across l.span s = across e.span s := by
  obtain ⟨ms, rfl⟩ := List.head?_eq_some_iff.mp hl
  obtain ⟨hfile, hstart⟩ := h.span_eq hpass
  obtain ⟨c₁, hstep, -⟩ := Cursor.passes_cons_iff.mp hpass
  rw [across, across, hfile, hstart, hstep.span_eq]
  rfl

theorem evalStmt_sound : Sound evalStmt (Spanning Statement) := by
  intro c c' s hc h
  obtain ⟨e, c₁, h1, h⟩ := bind_eq_some.mp h
  obtain ⟨semi, c₂, h2, h⟩ := bind_eq_some.mp h
  obtain ⟨rfl, rfl⟩ := pure_eq_some.mp h
  obtain ⟨ls, hls, hpass⟩ := expr_sound hc h1
  have hsemi := token_sound .semicolon rfl (hpass.isTrimmed hc) h2
  obtain ⟨l, ms, rfl⟩ := List.exists_cons_of_ne_nil hls.ne_nil
  refine ⟨_, ⟨l, ⟨.semicolon, semi⟩, rfl, ?_, ?_⟩, hpass.append hsemi.passes⟩
  · simp [List.getLast?_cons]
  · rw [hls.across_eq hpass rfl]
    exact .eval hls

theorem assignStmt_sound : Sound assignStmt (Spanning Statement) := by
  intro c c' s hc h
  obtain ⟨n, c₁, h1, h⟩ := bind_eq_some.mp h
  obtain ⟨eq, c₂, h2, h⟩ := bind_eq_some.mp h
  obtain ⟨e, c₃, h3, h⟩ := bind_eq_some.mp h
  obtain ⟨semi, c₄, h4, h⟩ := bind_eq_some.mp h
  obtain ⟨rfl, rfl⟩ := pure_eq_some.mp h
  obtain ⟨hn, hname⟩ := name_sound hc h1
  have heq := token_sound .equals rfl hname.isTrimmed h2
  obtain ⟨ls, hls, hpass⟩ := expr_sound heq.isTrimmed h3
  have hsemi := token_sound .semicolon rfl (hpass.isTrimmed heq.isTrimmed) h4
  refine ⟨_, ⟨⟨.word n.value hn, n.span⟩, ⟨.semicolon, semi⟩, rfl, ?_, .assign hls⟩,
    .cons hname (.cons heq (hpass.append hsemi.passes))⟩
  simp [List.getLast?_cons]

theorem stmt_sound : Sound stmt Statement := by
  intro c c' s hc h
  obtain ⟨c₁, hread, rfl⟩ := (padded_eq_some hc).mp h
  have hsound : ∃ ls, Statement ls s ∧ Passes c ls c₁ := by
    rw [located_orElse] at hread
    obtain heval | ⟨-, hassign⟩ := orElse_eq_some.mp hread
    · exact evalStmt_sound.located hc heval
    · exact assignStmt_sound.located hc hassign
  obtain ⟨ls, hls, hpass⟩ := hsound
  rw [(hpass.isTrimmed hc).skipBlanks_eq]
  exact ⟨ls, hls, hpass⟩

/-- **Readings are derivations**: the statements that were read up to the end of a text are derived
from the lexemes on the way. -/
theorem stmts_sound {c c' : Cursor} {list : List Stmt} (hc : c.IsTrimmed)
    (h : (stmts c).value = some (list, c')) :
    c'.rest = [] ∧ ∃ ls, Statements ls list ∧ Passes c ls c' := by
  obtain ⟨list, c₁, h1, h⟩ := bind_eq_some.mp h
  obtain ⟨u, c₂, h2, h⟩ := bind_eq_some.mp h
  obtain ⟨rfl, rfl⟩ := pure_eq_some.mp h
  obtain ⟨hend, rfl⟩ := atEnd_eq_some.mp h2
  exact ⟨hend, stmt_sound.many hc h1⟩

end Grammar

end TensorLang
