import Mathlib.Data.List.Induction
import TensorLang.Proofs.Syntax.Writable
import TensorLang.Typing.Infer

/-!
# Where types come from

The checker speaks of types in two places: in its table, next to the span of a right-hand side, and
in its errors, next to the spans of operands. In both places the type was inferred from an
expression of the program that stands at the span, with the table as it was in front of its
statement (`Occurs`). For the table this is an invariant of checking (`SymbolTable.Known`), which
survives rebindings and assignments without a type. For the errors it follows
(`exists_occurs_of_mem_errors`), since an operand that is a name has the type and the span of its
entry.
-/

namespace TensorLang

/-- The product of two tensors is a tensor, and all three have one element type. -/
theorem Ty.multiply_tensor_eq_ok {ls rs : Shape} {ld rd : DType} {lspan rspan : Span} {ty : Ty}
    (h : (tensor ls ld).multiply lspan (tensor rs rd) rspan = .ok ty) :
    ld = rd ∧ ∃ shape, ty = tensor shape ld := by
  simp only [multiply] at h
  split_ifs at h with hdtype
  split at h
  · cases h
    exact ⟨hdtype, _, rfl⟩
  · cases h

/-- Two tensors have no product because of their element types or else because of their shapes. -/
theorem Ty.multiply_tensor_eq_error {ls rs : Shape} {ld rd : DType} {lspan rspan : Span}
    {e : TypeError} (h : (tensor ls ld).multiply lspan (tensor rs rd) rspan = .error e) :
    e = .incompatibleDTypes ld rd lspan rspan ∨ e = .cannotMultiply ls rs lspan rspan := by
  simp only [multiply] at h
  split_ifs at h
  · split at h
    · cases h
    · cases h
      exact .inr rfl
  · cases h
    exact .inl rfl

/-! ### Tables -/

namespace SymbolTable

theorem lookup_bind_of_ne {t : SymbolTable} {name other : Bytes} {ty : Option Ty} {span : Span}
    (h : other ≠ name) : (t.bind name ty span).lookup other = t.lookup other := by
  obtain ⟨entries⟩ := t
  have hne : (other == name) = false := beq_eq_false_iff_ne.mpr h
  simp only [bind, lookup, List.lookup_cons, hne]
  induction entries with
  | nil => rfl
  | cons e rest ih =>
    by_cases he : e.1 = name
    · rw [List.filter_cons_of_neg (by simpa using he), List.lookup_cons, he, hne, ih]
    · rw [List.filter_cons_of_pos (by simpa using he), List.lookup_cons, List.lookup_cons, ih]

end SymbolTable

/-- The table behind some statements at the beginning of a program. -/
abbrev tableAfter (stmts : List Stmt) : SymbolTable := (checkStmts SymbolTable.empty stmts).symbols

theorem symbols_checkStmts_append (t : SymbolTable) (stmts more : List Stmt) :
    (checkStmts t (stmts ++ more)).symbols =
      (checkStmts (checkStmts t stmts).symbols more).symbols := by
  induction stmts generalizing t with
  | nil => rfl
  | cons s rest ih => exact ih (s.check t).table

theorem tableAfter_concat (stmts : List Stmt) (s : Stmt) :
    tableAfter (stmts ++ [s]) = (s.check (tableAfter stmts)).table :=
  symbols_checkStmts_append SymbolTable.empty stmts [s]

/-! ### Occurrences -/

/-- The expression occurs in a statement and has the type there: with the table as it is in front of
the statement. -/
def Occurs (stmts : List Stmt) (x : Expr) (ty : Ty) : Prop :=
  ∃ before s after e, stmts = before ++ s :: after ∧ s.value? = some e ∧ x ∈ e.nodes ∧
    (x.infer (tableAfter before)).ty = some ty

/-- What the table knows about names: the types of tensors that occur, at their spans. -/
def SymbolTable.Known (stmts : List Stmt) (t : SymbolTable) : Prop :=
  ∀ name entry, t.lookup name = some entry → ∃ x shape dt,
    entry = ⟨some (.tensor shape dt), x.span⟩ ∧ Occurs stmts x (.tensor shape dt)

namespace Expr

variable {stmts : List Stmt} {t : SymbolTable} {e : Expr} {ty : Ty}

/-- Only what is there has a type. -/
theorem mem_nodes_of_infer (h : (e.infer t).ty = some ty) : e ∈ e.nodes := by
  cases e with
  | missing => cases h
  | _ => simp [nodes]

/-- What can become of two operands. -/
theorem infer_binary_cases (t : SymbolTable) (span : Span) (op : Spanned BinaryOp)
    (lhs rhs : Expr) :
    let l := lhs.infer t
    let r := rhs.infer t
    let i := (binary span op lhs rhs).infer t
    (l.ty = none ∧ i.ty = none ∧ i.findings = l.findings) ∨
    (r.ty = none ∧ i.ty = none ∧ i.findings = l.findings ++ r.findings) ∨
    (op.value ≠ .mul ∧ i.ty = none ∧ i.findings = l.findings ++ r.findings ++
      [.error (.unsupportedOperator op.value op.span)]) ∨
    ∃ lt rt, l.ty = some lt ∧ r.ty = some rt ∧
      match lt.multiply (lhs.operandSpan t) rt (rhs.operandSpan t) with
      | .ok ty => i.ty = some ty ∧ i.findings = l.findings ++ r.findings
      | .error e => i.ty = none ∧ i.findings = l.findings ++ r.findings ++ [.error e] := by
  dsimp only
  by_cases hop : op.value = .mul
  · cases hl : (lhs.infer t).ty with
    | none => exact .inl ⟨rfl, by simp [infer, hop, hl], by simp [infer, hop, hl]⟩
    | some lt =>
      cases hr : (rhs.infer t).ty with
      | none => exact .inr (.inl ⟨rfl, by simp [infer, hop, hl, hr], by simp [infer, hop, hl, hr]⟩)
      | some rt =>
        refine .inr (.inr (.inr ⟨lt, rt, rfl, rfl, ?_⟩))
        split <;> rename_i hty <;> simp [infer, hop, hl, hr, hty]
  · exact .inr (.inr (.inl ⟨hop, by simp [infer, hop], by simp [infer, hop]⟩))

/-- A product has a type only if both operands have types that can be multiplied. -/
theorem infer_binary_eq_some {span : Span} {op : Spanned BinaryOp} {lhs rhs : Expr}
    (h : ((binary span op lhs rhs).infer t).ty = some ty) :
    ∃ lt rt, (lhs.infer t).ty = some lt ∧ (rhs.infer t).ty = some rt ∧
      lt.multiply (lhs.operandSpan t) rt (rhs.operandSpan t) = .ok ty := by
  rcases infer_binary_cases t span op lhs rhs with
    ⟨-, hnone, -⟩ | ⟨-, hnone, -⟩ | ⟨-, hnone, -⟩ | ⟨lt, rt, hl, hr, hcases⟩
  · rw [h] at hnone; cases hnone
  · rw [h] at hnone; cases hnone
  · rw [h] at hnone; cases hnone
  · refine ⟨lt, rt, hl, hr, ?_⟩
    split at hcases
    · rename_i hty
      rw [h] at hcases
      obtain ⟨⟨⟩, -⟩ := hcases
      exact hty
    · rw [h] at hcases
      cases hcases.1

/-- The language has no scalars. -/
theorem infer_tensor (ht : t.Known stmts) (h : (e.infer t).ty = some ty) :
    ∃ shape dt, ty = .tensor shape dt := by
  induction e generalizing ty with
  | fill | range => cases h; exact ⟨_, _, rfl⟩
  | var span name =>
    rw [infer] at h
    split at h
    · rename_i entry hentry
      obtain ⟨x, shape, dt, rfl, -⟩ := ht name entry hentry
      cases h
      exact ⟨shape, dt, rfl⟩
    · cases h
  | binary span op lhs rhs ihl ihr =>
    obtain ⟨lt, rt, hl, hr, hty⟩ := infer_binary_eq_some h
    obtain ⟨ls, ld, rfl⟩ := ihl hl
    obtain ⟨rs, rd, rfl⟩ := ihr hr
    obtain ⟨-, shape, rfl⟩ := Ty.multiply_tensor_eq_ok hty
    exact ⟨shape, ld, rfl⟩
  | missing => cases h

/-- An operand has a type that occurs at its span, for a name in the defining statement. -/
theorem exists_occurs_of_operand {before after : List Stmt} {s : Stmt} {value : Expr}
    (hvalue : s.value? = some value) (ht : (tableAfter before).Known (before ++ s :: after))
    (hmem : e ∈ value.nodes) (h : (e.infer (tableAfter before)).ty = some ty) :
    ∃ x, x.span = e.operandSpan (tableAfter before) ∧ Occurs (before ++ s :: after) x ty := by
  have hself : Occurs (before ++ s :: after) e ty := ⟨before, s, after, value, rfl, hvalue, hmem, h⟩
  cases e with
  | var span name =>
    -- type and span are those of the entry, and the table knows where they are from
    rw [infer] at h
    split at h
    · rename_i entry hentry
      obtain ⟨x, shape, dt, rfl, hx⟩ := ht name entry hentry
      cases h
      exact ⟨x, by rw [operandSpan, hentry], hx⟩
    · cases h
  | _ => exact ⟨_, rfl, hself⟩

end Expr

/-! ### Checking keeps what is known -/

variable {before after stmts : List Stmt} {s : Stmt} {e : TypeError}

theorem Stmt.check_known (h : (tableAfter before).Known (before ++ s :: after)) :
    ((s.check (tableAfter before)).table).Known (before ++ s :: after) := by
  cases s with
  | eval | missing => exact h
  | assign span name value =>
    rw [check]
    split
    · exact h
    · rename_i ty hty
      obtain ⟨shape, dt, rfl⟩ := Expr.infer_tensor h hty
      have hoccurs : Occurs (before ++ assign span name value :: after) value (.tensor shape dt) :=
        ⟨before, _, after, value, rfl, rfl, Expr.mem_nodes_of_infer hty, hty⟩
      intro other entry hentry
      by_cases hname : other = name.value
      · rw [hname, SymbolTable.lookup_bind_self] at hentry
        cases hentry
        exact ⟨value, shape, dt, rfl, hoccurs⟩
      · rw [SymbolTable.lookup_bind_of_ne hname] at hentry
        exact h other entry hentry

/-- **The table in front of every statement** knows only what occurs. -/
theorem tableAfter_known (before after : List Stmt) :
    (tableAfter before).Known (before ++ after) := by
  -- from the end, since the table in front of a statement is the one behind the statement before it
  induction before using List.reverseRecOn generalizing after with
  | nil => nofun
  | append_singleton before s ih =>
    rw [tableAfter_concat, List.append_assoc]
    exact Stmt.check_known (ih (s :: after))

/-! ### Errors -/

theorem Finding.mem_errors {findings : List Finding} :
    e ∈ Finding.errors findings ↔ .error e ∈ findings := by
  simp only [Finding.errors, List.mem_filterMap]
  constructor
  · rintro ⟨f, hf, he⟩
    cases f with
    | point => cases he
    | error => cases he; exact hf
  · exact fun h => ⟨.error e, h, rfl⟩

theorem Finding.errors_append (findings more : List Finding) :
    errors (findings ++ more) = errors findings ++ errors more := List.filterMap_append

/-- Two of the nodes have types that cannot be multiplied, and `e` says so. -/
def Expr.Clash (t : SymbolTable) (nodes : List Expr) (e : TypeError) : Prop :=
  ∃ lhs ∈ nodes, ∃ rhs ∈ nodes, ∃ lt rt,
    (lhs.infer t).ty = some lt ∧ (rhs.infer t).ty = some rt ∧
    lt.multiply (lhs.operandSpan t) rt (rhs.operandSpan t) = .error e

theorem Expr.Clash.mono {t : SymbolTable} {nodes more : List Expr} (h : Clash t nodes e)
    (hsub : nodes ⊆ more) : Clash t more e := by
  obtain ⟨lhs, hl, rhs, hr, hclash⟩ := h
  exact ⟨lhs, hsub hl, rhs, hsub hr, hclash⟩

/-- An error about an expression that can be written is about two operands in it. -/
theorem Expr.Writable.clash {t : SymbolTable} {x : Expr} (hx : x.Writable)
    (h : .error e ∈ (x.infer t).findings) : Clash t x.nodes e := by
  induction x with
  | fill | missing => cases h
  | range => rw [infer] at h; dsimp only at h; split at h <;> simp at h
  | var => rw [infer] at h; split at h <;> simp at h
  | binary span op lhs rhs ihl ihr =>
    obtain ⟨hop, -, hlhs, hrhs⟩ := hx
    have hleft : lhs.nodes ⊆ (binary span op lhs rhs).nodes := by simp [nodes]
    have hright : rhs.nodes ⊆ (binary span op lhs rhs).nodes := by simp [nodes]
    -- an error about an operand is an error about the product
    have hdeep (h : .error e ∈ (lhs.infer t).findings ++ (rhs.infer t).findings) :
        Clash t (binary span op lhs rhs).nodes e :=
      (List.mem_append.mp h).elim (fun h => (ihl hlhs h).mono hleft)
        fun h => (ihr hrhs h).mono hright
    rcases infer_binary_cases t span op lhs rhs with
      ⟨-, -, hfindings⟩ | ⟨-, -, hfindings⟩ | ⟨hother, -⟩ | ⟨lt, rt, hl, hr, hcases⟩
    · rw [hfindings] at h
      exact hdeep (List.mem_append_left _ h)
    · rw [hfindings] at h
      exact hdeep h
    · exact absurd hop hother
    · split at hcases
      · rw [hcases.2] at h
        exact hdeep h
      · rename_i e' hty
        rw [hcases.2, List.mem_append, List.mem_singleton] at h
        rcases h with h | h
        · exact hdeep h
        · cases h
          exact ⟨lhs, hleft (mem_nodes_of_infer hl), rhs, hright (mem_nodes_of_infer hr), lt, rt,
            hl, hr, hty⟩

theorem Stmt.Writable.of_value? {value : Expr} (h : s.Writable) (hvalue : s.value? = some value) :
    value.Writable := by
  cases s with
  | eval => cases hvalue; exact h
  | assign => cases hvalue; exact h.2
  | missing => exact h.elim

/-- What is remarked about a statement beyond its expression is no error. -/
theorem Stmt.errors_check {value : Expr} (t : SymbolTable) (hvalue : s.value? = some value) :
    Finding.errors (s.check t).findings = Finding.errors (value.infer t).findings := by
  cases s with
  | eval => cases hvalue; rfl
  | assign span name _ =>
    cases hvalue
    rw [check]
    split <;> exact (Finding.errors_append _ _).trans (List.append_nil _)
  | missing => cases hvalue

/-- An error about a program is an error about the expression of one of its statements. -/
theorem exists_of_mem_errors_checkStmts {t : SymbolTable}
    (h : e ∈ Finding.errors (checkStmts t stmts).findings) :
    ∃ before s after value, stmts = before ++ s :: after ∧ s.value? = some value ∧
      e ∈ Finding.errors (value.infer (checkStmts t before).symbols).findings := by
  induction stmts generalizing t with
  | nil => cases h
  | cons s rest ih =>
    rw [checkStmts, Finding.errors_append, List.mem_append] at h
    rcases h with h | h
    · cases hvalue : s.value? with
      | none =>
        cases s with
        | missing => cases h
        | eval | assign => cases hvalue
      | some value =>
        rw [Stmt.errors_check t hvalue] at h
        exact ⟨[], s, rest, value, rfl, hvalue, h⟩
    · obtain ⟨before, s', after, value, rfl, hvalue, he⟩ := ih h
      exact ⟨s :: before, s', after, value, rfl, hvalue, he⟩

/-- **Errors speak of what occurs**: an error about a program that can be written tells that two
tensors cannot be multiplied, which occur in the program with these types at these spans. -/
theorem exists_occurs_of_mem_errors {p : Program} (hp : p.Writable)
    (h : e ∈ (Program.check (some p)).errors) :
    ∃ x y ls ld rs rd, Occurs p.stmts x (.tensor ls ld) ∧ Occurs p.stmts y (.tensor rs rd) ∧
      (Ty.tensor ls ld).multiply x.span (.tensor rs rd) y.span = .error e := by
  obtain ⟨before, s, after, value, hstmts, hvalue, he⟩ := exists_of_mem_errors_checkStmts h
  have hs : s ∈ p.stmts := by simp [hstmts]
  obtain ⟨lhs, hlhs, rhs, hrhs, lt, rt, hl, hr, herror⟩ :=
    ((hp s hs).of_value? hvalue).clash (Finding.mem_errors.mp he)
  have hknown := tableAfter_known before (s :: after)
  obtain ⟨ls, ld, rfl⟩ := Expr.infer_tensor hknown hl
  obtain ⟨rs, rd, rfl⟩ := Expr.infer_tensor hknown hr
  obtain ⟨x, hx, hxoccurs⟩ := Expr.exists_occurs_of_operand hvalue hknown hlhs hl
  obtain ⟨y, hy, hyoccurs⟩ := Expr.exists_occurs_of_operand hvalue hknown hrhs hr
  rw [← hstmts] at hxoccurs hyoccurs
  rw [← hx, ← hy] at herror
  exact ⟨x, y, ls, ld, rs, rd, hxoccurs, hyoccurs, herror⟩

end TensorLang
