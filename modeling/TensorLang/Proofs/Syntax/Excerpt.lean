import TensorLang.Proofs.Syntax.Places

/-!
# Excerpts of a text

The rules of the grammar compare no places, so what they derive from lexemes they also derive when
the text before the lexemes is cut off (`Statement.lower`, `Product.lower`). Hence the part of a
text that a node was read from can be read on its own: the part under a statement as a program with
that statement alone (`Statement.parse_slice`), and the part under an expression as that expression
(`Product.parse?_slice`).
-/

namespace TensorLang

/-- Reads a whole text as one expression. -/
def Expr.parse? (file : Nat) (text : Bytes) : Option Expr :=
  let reader : Reader Expr := do
    let e ← Grammar.expr
    Reader.atEnd
    pure e
  (reader (Cursor.start file text).skipBlanks).value.map Prod.fst

namespace Grammar

variable {k : Nat} {l : Lexeme} {ls : List Lexeme} {e : Expr} {s : Stmt}

/-! ### Parts of a derivation -/

/-- Every tree of a repetition is derived from neighbours. -/
theorem Repeated.exists_part {α : Type} {rule : List Lexeme → α → Prop} {as : List α} {a : α}
    (h : Repeated rule ls as) (ha : a ∈ as) : ∃ ms, ms <:+: ls ∧ rule ms a := by
  induction h with
  | nil => cases ha
  | @cons ls ms _ _ hfirst _ ih =>
    rcases List.mem_cons.mp ha with rfl | ha
    · exact ⟨ls, (List.prefix_append ls ms).isInfix, hfirst⟩
    · obtain ⟨ns, hpart, hrule⟩ := ih ha
      exact ⟨ns, hpart.trans (List.suffix_append ls ms).isInfix, hrule⟩

theorem Atom.nodes_eq (h : Atom ls e) : e.nodes = [e] := by
  cases h with
  | fill h => cases h <;> rfl
  | range h => cases h <;> rfl
  | name => rfl

/-- Every node of a product is derived from neighbours. -/
theorem Product.exists_part {x : Expr} (h : Product ls e) (hx : x ∈ e.nodes) :
    ∃ ms, ms <:+: ls ∧ Product ms x := by
  induction h with
  | @atom ls e hatom =>
    rw [hatom.nodes_eq, List.mem_singleton] at hx
    exact ⟨ls, List.infix_rfl, hx ▸ .atom hatom⟩
  | @mul ls ms lhs rhs op hleft hright ih =>
    simp only [Expr.nodes, List.mem_cons, List.mem_append, hright.nodes_eq, List.not_mem_nil,
      or_false] at hx
    rcases hx with rfl | hx | rfl
    · exact ⟨_, List.infix_rfl, .mul hleft hright⟩
    · obtain ⟨ns, hpart, hproduct⟩ := ih hx
      exact ⟨ns, hpart.trans (List.prefix_append ls _).isInfix, hproduct⟩
    · exact ⟨ms, (List.suffix_append_of_suffix (List.suffix_cons _ ms)).isInfix, .atom hright⟩

/-- Every node of a statement's expression is derived from neighbours. -/
theorem Statement.exists_part {x : Expr} (h : Statement ls s) (he : s.value? = some e)
    (hx : x ∈ e.nodes) : ∃ ms, ms <:+: ls ∧ Product ms x := by
  cases h with
  | @eval ls _ semi hexpr =>
    cases he
    obtain ⟨ms, hpart, hproduct⟩ := hexpr.exists_part hx
    exact ⟨ms, hpart.trans (List.prefix_append ls _).isInfix, hproduct⟩
  | assign hexpr =>
    cases he
    obtain ⟨ms, hpart, hproduct⟩ := hexpr.exists_part hx
    refine ⟨ms, hpart.trans ?_, hproduct⟩
    exact List.infix_cons (List.infix_cons (List.prefix_append _ _).isInfix)

/-! ### Rules and places -/

variable (k) in
/-- The lexeme when the first `k` bytes of the text are cut off. -/
abbrev Lexeme.lower (l : Lexeme) : Lexeme := Spanned.respan (Span.lower k) l

theorem Int32Literal.lower {n : Spanned Int32} (h : Int32Literal l n) :
    Int32Literal (Lexeme.lower k l) (n.respan (Span.lower k)) := by
  cases h with
  | mk hlt => exact .mk hlt

theorem Dimension.lower {d : Spanned Int64} (h : Dimension l d) :
    Dimension (Lexeme.lower k l) (d.respan (Span.lower k)) := by
  cases h with
  | mk hlt => exact .mk hlt

theorem Annotation.lower {dt : Spanned DType} (h : Annotation l dt) :
    Annotation (Lexeme.lower k l) (dt.respan (Span.lower k)) := by
  cases h with
  | mk hmem => exact .mk hmem

theorem Repeated.map {α β : Type} {rule : List Lexeme → α → Prop} {rule' : List Lexeme → β → Prop}
    {f : Lexeme → Lexeme} {g : α → β} {as : List α}
    (hrule : ∀ ⦃ls a⦄, rule ls a → rule' (ls.map f) (g a)) (h : Repeated rule ls as) :
    Repeated rule' (ls.map f) (as.map g) := by
  induction h with
  | nil => exact .nil
  | cons hfirst _ ih =>
    rw [List.map_append, List.map_cons]
    exact .cons (hrule hfirst) ih

theorem Dims.lower {ds : List (Spanned Int64)} (h : Dims ls ds) :
    Dims (ls.map (Lexeme.lower k)) (ds.map (Spanned.respan (Span.lower k))) := by
  cases h with
  | none => exact .none
  | some hfirst hmore =>
    refine .some hfirst.lower (hmore.map fun _ _ h => ?_)
    cases h with
    | mk hdim => exact .mk hdim.lower

theorem FillTensor.lower (h : FillTensor ls e) :
    FillTensor (ls.map (Lexeme.lower k)) (e.respan (Span.lower k)) := by
  cases h with
  | plain hdims hvalue =>
    rw [List.map_cons, List.map_append]
    exact .plain hdims.lower hvalue.lower
  | typed hdims hvalue hann =>
    rw [List.map_cons, List.map_append]
    exact .typed hdims.lower hvalue.lower hann.lower

theorem RangeTensor.lower (h : RangeTensor ls e) :
    RangeTensor (ls.map (Lexeme.lower k)) (e.respan (Span.lower k)) := by
  cases h with
  | plain hlo hhi => exact .plain hlo.lower hhi.lower
  | stepped hlo hhi hstep => exact .stepped hlo.lower hhi.lower hstep.lower

theorem Atom.lower (h : Atom ls e) :
    Atom (ls.map (Lexeme.lower k)) (e.respan (Span.lower k)) := by
  cases h with
  | fill h => exact .fill h.lower
  | range h => exact .range h.lower
  | name => exact .name

theorem Product.lower (h : Product ls e) :
    Product (ls.map (Lexeme.lower k)) (e.respan (Span.lower k)) := by
  induction h with
  | atom hatom => exact .atom hatom.lower
  | @mul _ _ lhs rhs _ _ hatom ih =>
    have hspan : (lhs.span.cover rhs.span).lower k =
        (lhs.respan (Span.lower k)).span.cover (rhs.respan (Span.lower k)).span := by
      rw [Expr.span_respan, Expr.span_respan, Span.cover_lower]
    rw [List.map_append, List.map_cons, Expr.respan, hspan]
    exact .mul ih hatom.lower

theorem Statement.lower (h : Statement ls s) :
    Statement (ls.map (Lexeme.lower k)) (s.respan (Span.lower k)) := by
  cases h with
  | @eval _ e semi hexpr =>
    have hspan : (across e.span semi).lower k =
        across (e.respan (Span.lower k)).span (semi.lower k) := by
      rw [Expr.span_respan]
      rfl
    rw [List.map_append, Stmt.respan, hspan]
    exact .eval hexpr.lower
  | assign hexpr =>
    rw [List.map_cons, List.map_cons, List.map_append]
    exact .assign hexpr.lower

/-! ### Reading an excerpt -/

variable {file : Nat} {text : Bytes}

/-- An expression that is derived from a layout of the text is read from the text. -/
theorem Product.parse?_eq_some (h : Product ls e) (hlaid : Laid file 0 text ls) :
    Expr.parse? file text = some e := by
  have hend : Cursor.IsTrimmed ⟨file, 0 + text.length, []⟩ := Text.startsBlank_nil
  have hread : Reader.Accepts (expr >>= fun e => Reader.atEnd >>= fun _ => pure e)
      (Cursor.start file text).skipBlanks e ⟨file, 0 + text.length, []⟩ :=
    (expr_accepts h (passes_of_laid hlaid) hend nofun nofun).bind
      ((Reader.atEnd_accepts rfl).bind (Reader.accepts_pure e _))
  exact congrArg (Option.map Prod.fst) hread.value_eq

/-- **The text of an expression** is read as the same expression. -/
theorem Product.parse?_slice {a : Span} (h : Product ls e) (hstands : Stands file text ls a) :
    Expr.parse? file (a.slice text) = some (e.respan (Span.lower a.start)) :=
  h.lower.parse?_eq_some hstands.laid_slice

/-- **The text of a statement** is read as a program that consists of the same statement. -/
theorem Statement.parse_slice {a : Span} (h : Statement ls s)
    (hstands : Stands file text ls a) :
    Program.parse file (a.slice text) =
      .ok ⟨[s.respan (Span.lower a.start)], ⟨file, 0, (a.slice text).length⟩⟩ := by
  refine Sentence.parse_eq_ok ⟨_, hstands.laid_slice, ?_⟩
  rw [← List.append_nil (ls.map _)]
  exact Repeated.cons h.lower .nil

end Grammar

end TensorLang
