import TensorLang.Proofs.Syntax.Exactness
import TensorLang.Proofs.Typing.Origins
import TensorLang.Proofs.Typing.Respan

/-!
# Errors point at what they speak of

A type error names a property of each operand and the place of each operand in the text. What stands
at the place can be read as an expression, and this expression, checked where it stands, has the
property: `Span.Shows` says so about one place, and `check_error_located` is the statement for all
errors about all texts. For an operand that is a name the place is the right-hand side that the name
has its type from, so "where it stands" is another statement then, and the names that are read there
have the types that they had at that time.
-/

namespace TensorLang

/-! ### Types without spans -/

theorem Expr.respan_respan (φ ψ : Span → Span) (e : Expr) :
    (e.respan φ).respan ψ = e.respan (ψ ∘ φ) := by
  induction e with
  | fill => simp only [respan, List.map_map, Option.map_map]; rfl
  | range => simp only [respan, Option.map_map]; rfl
  | var | missing => rfl
  | binary span op lhs rhs ihl ihr => rw [respan, respan, ihl, ihr]; rfl

/-- The type of an expression is that of the same expression elsewhere. -/
theorem Expr.ty_infer_respan (φ : Span → Span) (t : SymbolTable) (e : Expr) :
    ((e.respan φ).infer t).ty = (e.infer t).ty := by
  -- with all spans erased, the two expressions are the same
  have h := infer_respan (fun _ => Span.none) t (e.respan φ)
  have h' := infer_respan (fun _ => Span.none) t e
  rw [respan_respan] at h
  have hty := congrArg Inference.ty (h.symm.trans h')
  exact hty

/-! ### Places of types -/

/-- The text under the span lies in a statement, and it is an expression whose type there satisfies
`P`. -/
def Span.Shows (span : Span) (file : Nat) (text : Bytes) (stmts : List Stmt) (P : Ty → Prop) :
    Prop :=
  (∃ s ∈ stmts, span.Within s.span) ∧
  ∀ before s after, stmts = before ++ s :: after → span.Within s.span →
    ∃ x ty, Expr.parse? file (span.slice text) = some x ∧
      (x.infer (tableAfter before)).ty = some ty ∧ P ty

/-- Both operands of the error have what the error says about them. -/
def TypeError.Located (file : Nat) (text : Bytes) (stmts : List Stmt) : TypeError → Prop
  | incompatibleDTypes lhs rhs lhsSpan rhsSpan =>
    lhsSpan.Shows file text stmts (·.dtype = lhs) ∧
    rhsSpan.Shows file text stmts (·.dtype = rhs)
  | cannotMultiply lhs rhs lhsSpan rhsSpan =>
    lhsSpan.Shows file text stmts (fun ty => ∃ dt, ty = .tensor lhs dt) ∧
    rhsSpan.Shows file text stmts (fun ty => ∃ dt, ty = .tensor rhs dt)
  | unsupportedOperator _ _ => False

variable {file : Nat} {text : Bytes} {stmts : List Stmt}

/-- A span of some bytes that lies in a statement lies in none behind it. -/
private theorem eq_nil_of_within {span : Span} (hspan : span.start < span.stop)
    {s s' : Stmt} {after mid after' : List Stmt}
    (hordered : (s :: after).Pairwise fun s t => s.span.stop ≤ t.span.start)
    (h : s :: after = mid ++ s' :: after')
    (hs : span.Within s.span) (hs' : span.Within s'.span) : mid = [] := by
  cases mid with
  | nil => rfl
  | cons m mid =>
    obtain ⟨rfl, rfl⟩ := List.cons.inj h
    have hle := List.rel_of_pairwise_cons hordered (by simp : s' ∈ mid ++ s' :: after')
    obtain ⟨-, hstop⟩ := hs
    obtain ⟨hstart, -⟩ := hs'
    omega

/-- A span of some bytes lies in one statement only. -/
theorem eq_of_within {span : Span} (hspan : span.start < span.stop)
    (hordered : stmts.Pairwise fun s t => s.span.stop ≤ t.span.start)
    {before before' after after' : List Stmt} {s s' : Stmt}
    (h : stmts = before ++ s :: after) (h' : stmts = before' ++ s' :: after')
    (hs : span.Within s.span) (hs' : span.Within s'.span) : before = before' := by
  have hpair := (List.pairwise_append.mp (h ▸ hordered)).2.1
  have hpair' := (List.pairwise_append.mp (h' ▸ hordered)).2.1
  rcases List.append_eq_append_iff.mp (h.symm.trans h') with ⟨mid, rfl, hmid⟩ | ⟨mid, rfl, hmid⟩
  · rw [eq_nil_of_within hspan hpair hmid hs hs', List.append_nil]
  · rw [eq_nil_of_within hspan hpair' hmid hs' hs, List.append_nil]

/-- **What occurs in a program can be read** from the text under its span. -/
theorem Occurs.shows {x : Expr} {ty : Ty} (hsentence : Grammar.Sentence file text stmts)
    (h : Occurs stmts x ty) : x.span.Shows file text stmts (· = ty) := by
  obtain ⟨before, s, after, e, hstmts, he, hx, hty⟩ := h
  have hmem : s ∈ stmts := by simp [hstmts]
  -- `x` was read from neighbours among the lexemes of the statement, which stand under its span
  obtain ⟨ls, hstmt, hstands, -⟩ := hsentence.stands hmem
  obtain ⟨ms, hpart, hproduct⟩ := hstmt.exists_part he hx
  obtain ⟨a, ha, hwithin⟩ := hstands.part hpart hproduct.ne_nil
  obtain ⟨rfl, -⟩ := hproduct.exact ha
  refine ⟨⟨s, hmem, hwithin⟩, fun before' s' after' hstmts' hwithin' => ?_⟩
  obtain rfl := eq_of_within (ha.tight hproduct.ne_nil).start_lt_stop hsentence.ordered hstmts
    hstmts' hwithin hwithin'
  exact ⟨_, ty, hproduct.parse?_slice ha, (Expr.ty_infer_respan _ _ x).trans hty, rfl⟩

theorem Span.Shows.imp {span : Span} {P Q : Ty → Prop} (h : span.Shows file text stmts P)
    (hPQ : ∀ ty, P ty → Q ty) : span.Shows file text stmts Q := by
  refine ⟨h.1, fun before s after hstmts hwithin => ?_⟩
  obtain ⟨x, ty, hx, hty, hP⟩ := h.2 before s after hstmts hwithin
  exact ⟨x, ty, hx, hty, hPQ ty hP⟩

/-- **Errors point at what they speak of**: whatever text is read and checked, at the places that an
error names there are expressions with the element types or the shapes that it names. -/
theorem check_error_located {p : Program} {e : TypeError} (hp : Program.parse file text = .ok p)
    (he : e ∈ (Program.check (some p)).errors) : e.Located file text p.stmts := by
  obtain ⟨-, hsentence⟩ := Program.parse_eq_ok_iff.mp hp
  obtain ⟨x, y, ls, ld, rs, rd, hx, hy, herror⟩ :=
    exists_occurs_of_mem_errors hsentence.writable he
  have hx := hx.shows hsentence
  have hy := hy.shows hsentence
  rcases Ty.multiply_tensor_eq_error herror with rfl | rfl
  · exact ⟨hx.imp fun _ h => h ▸ rfl, hy.imp fun _ h => h ▸ rfl⟩
  · exact ⟨hx.imp fun _ h => ⟨ld, h⟩, hy.imp fun _ h => ⟨rd, h⟩⟩

/-- The name `b` could not be bound again, so it still has the type that `a` had when `b` was bound:
the text at the place of this operand is the `a` of that statement. -/
theorem check_error_located_rebound :
    ∃ p, Program.parse 0 "a=[2;0;i32];b=a;a=[2;0;u8];b=b*a;b*a;".utf8 = .ok p ∧
      .incompatibleDTypes .int32 .uint8 ⟨0, 14, 15⟩ ⟨0, 18, 26⟩ ∈
        (Program.check (some p)).errors ∧
      TypeError.Located 0 "a=[2;0;i32];b=a;a=[2;0;u8];b=b*a;b*a;".utf8 p.stmts
        (.incompatibleDTypes .int32 .uint8 ⟨0, 14, 15⟩ ⟨0, 18, 26⟩) := by
  have herrors : (Program.parse 0 "a=[2;0;i32];b=a;a=[2;0;u8];b=b*a;b*a;".utf8).map
      (fun p => (Program.check (some p)).errors) =
        .ok (.replicate 2 (.incompatibleDTypes .int32 .uint8 ⟨0, 14, 15⟩ ⟨0, 18, 26⟩)) := by
    decide +kernel
  cases hp : Program.parse 0 "a=[2;0;i32];b=a;a=[2;0;u8];b=b*a;b*a;".utf8 with
  | error => rw [hp] at herrors; cases herrors
  | ok p =>
    rw [hp, Except.map, Except.ok.injEq] at herrors
    have he : .incompatibleDTypes .int32 .uint8 ⟨0, 14, 15⟩ ⟨0, 18, 26⟩ ∈
        (Program.check (some p)).errors := by
      rw [herrors]
      exact List.mem_cons_self
    exact ⟨p, rfl, he, check_error_located hp he⟩

end TensorLang
