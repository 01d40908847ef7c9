import TensorLang.Proofs.Typing.UseSites

/-!
# What becomes of one statement

A program is checked statement by statement, and all that one statement hands on to the next is the
table. So what becomes of a statement is said by the table in front of it: whether its expression
has a type (`Expr.Writable.typed_iff`), which errors it adds, and which entry of the table changes.
`Stmt.Outcome` collects this, and `Program.check_outcome` says it of every statement of every text
that is read, in terms of what the checker has on record for the whole program.

A statement without a type need not have an error: a name that is not bound gives no type and no
error, and whatever stands to the right of it is not looked at.
-/

namespace TensorLang

namespace Expr

variable {t : SymbolTable} {x : Expr}

/-- Every name that the expression reads is bound. -/
def Closed (t : SymbolTable) (x : Expr) : Prop :=
  ∀ name ∈ x.readVars, ∃ entry, t.lookup name.value = some entry

theorem closed_binary_iff {span : Span} {op : Spanned BinaryOp} {lhs rhs : Expr} :
    (binary span op lhs rhs).Closed t ↔ lhs.Closed t ∧ rhs.Closed t := by
  simp only [Closed, readVars, List.mem_append, or_imp, forall_and]

/-- An expression with a type has no error, and the names in it are bound. -/
theorem Writable.closed_of_typed {ty : Ty} (hx : x.Writable) (h : (x.infer t).ty = some ty) :
    Finding.errors (x.infer t).findings = [] ∧ x.Closed t := by
  refine ⟨?_, ?_⟩
  · rcases hx.errors_infer t with hnone | ⟨huntyped, -⟩
    · exact hnone
    · cases h.symm.trans huntyped
  · clear hx
    induction x generalizing ty with
    | fill | range | missing => nofun
    | var span name =>
      rw [infer] at h
      split at h
      · rename_i entry hentry
        intro other hother
        rw [List.mem_singleton.mp hother]
        exact ⟨entry, hentry⟩
      · cases h
    | binary span op lhs rhs ihl ihr =>
      obtain ⟨lt, rt, hl, hr, -⟩ := infer_binary_eq_some h
      exact closed_binary_iff.mpr ⟨ihl hl, ihr hr⟩

/-- An expression without errors has a type if the names in it are bound to values with types. -/
theorem Writable.exists_typed (hx : x.Writable)
    (ht : ∀ name entry, t.lookup name = some entry → ∃ ty, entry.ty = some ty)
    (herrors : Finding.errors (x.infer t).findings = []) (hclosed : x.Closed t) :
    ∃ ty, (x.infer t).ty = some ty := by
  induction x with
  | fill | range => exact ⟨_, rfl⟩
  | var span name =>
    obtain ⟨entry, hentry⟩ := hclosed ⟨name, span⟩ List.mem_cons_self
    obtain ⟨ty, hty⟩ := ht name entry hentry
    refine ⟨ty, ?_⟩
    rw [infer, hentry]
    exact hty
  | missing => exact hx.elim
  | binary span op lhs rhs ihl ihr =>
    obtain ⟨hop, -, hlhs, hrhs⟩ := hx
    obtain ⟨hclosedl, hclosedr⟩ := closed_binary_iff.mp hclosed
    -- nothing is wrong with the operands, so both have types, and nothing with their product
    rcases infer_binary_cases t span op lhs rhs with
      ⟨hnone, -, hfindings⟩ | ⟨hnone, -, hfindings⟩ | ⟨hother, -⟩ | ⟨lt, rt, hl, hr, hcases⟩
    · rw [hfindings] at herrors
      obtain ⟨ty, hty⟩ := ihl hlhs herrors hclosedl
      cases hty.symm.trans hnone
    · rw [hfindings, Finding.errors_append, List.append_eq_nil_iff] at herrors
      obtain ⟨ty, hty⟩ := ihr hrhs herrors.2 hclosedr
      cases hty.symm.trans hnone
    · exact absurd hop hother
    · split at hcases
      · exact ⟨_, hcases.1⟩
      · rw [hcases.2, Finding.errors_append, List.append_eq_nil_iff] at herrors
        cases herrors.2

/-- **When an expression has a type**: exactly if nothing is wrong with it and every name that it
reads is bound. -/
theorem Writable.typed_iff {stmts : List Stmt} (hx : x.Writable) (ht : t.Known stmts) :
    (∃ ty, (x.infer t).ty = some ty) ↔
      Finding.errors (x.infer t).findings = [] ∧ x.Closed t := by
  refine ⟨fun ⟨ty, hty⟩ => hx.closed_of_typed hty, fun ⟨herrors, hclosed⟩ => ?_⟩
  refine hx.exists_typed (fun name entry hentry => ?_) herrors hclosed
  obtain ⟨y, shape, dt, rfl, -⟩ := ht name entry hentry
  exact ⟨_, rfl⟩

/-- The first of the types of all nodes is the type of the expression. -/
theorem Writable.head?_nodes_infer (hx : x.Writable) (t : SymbolTable) :
    (x.infer t).nodes.head? = some (x.infer t).ty := by
  cases x with
  | fill | range => rfl
  | var span name =>
    rw [infer]
    split <;> rfl
  | missing => exact hx.elim
  | binary span op lhs rhs =>
    rw [infer, if_pos hx.1]
    dsimp only
    split
    · rfl
    · split
      · rfl
      · split <;> rfl

end Expr

/-! ### Statements -/

variable {before after : List Stmt} {s : Stmt} {value : Expr} {t : SymbolTable}

theorem Stmt.nodes_check (t : SymbolTable) (hvalue : s.value? = some value) :
    (s.check t).nodes = (value.infer t).nodes := by
  cases s with
  | eval => cases hvalue; rfl
  | assign =>
    cases hvalue
    rw [check]
    split <;> rfl
  | missing => cases hvalue

/-- The types of the nodes of a statement are those with the table in front of it. -/
theorem getElem?_nodes_checkStmts (t : SymbolTable) (before after : List Stmt) (s : Stmt) :
    (checkStmts t (before ++ s :: after)).nodes[before.length]? =
      some (s.check (checkStmts t before).symbols).nodes := by
  induction before generalizing t with
  | nil => rfl
  | cons first rest ih => exact ih (first.check t).table

/-- The type errors of some statements at the beginning of a program. -/
abbrev errorsAfter (stmts : List Stmt) : List TypeError :=
  (checkStmts SymbolTable.empty stmts).errors

theorem errorsAfter_concat (before : List Stmt) (s : Stmt) :
    errorsAfter (before ++ [s]) =
      errorsAfter before ++ Finding.errors (s.check (tableAfter before)).findings := by
  rw [errorsAfter, Checked.errors, errors_checkStmts_append, checkStmts, Finding.errors_append]
  exact congrArg _ (List.append_nil _)

/-- The type on record for the expression of statement number `i`. -/
def Checked.typeOf (c : Checked) (i : Nat) : Option Ty := (c.nodes[i]?.bind List.head?).join

/-- What checking comes to for a statement with the expression `value` behind the statements
`before`: the expression has the type `ty?`, if any, and `added` are the errors. -/
structure Stmt.Outcome (before : List Stmt) (s : Stmt) (value : Expr) (ty? : Option Ty)
    (added : List TypeError) : Prop where
  /-- The errors are added behind those of the statements before. -/
  errors_eq : errorsAfter (before ++ [s]) = errorsAfter before ++ added
  length_le : added.length ≤ 1
  /-- There is a type exactly if nothing is wrong and every name is bound. -/
  typed_iff : (∃ ty, ty? = some ty) ↔ added = [] ∧ value.Closed (tableAfter before)
  tensor : ∀ ty, ty? = some ty → ∃ shape dt, ty = .tensor shape dt
  /-- An assignment of a value with a type binds the name, and no other name. -/
  bound : ∀ span name ty, s = .assign span name value → ty? = some ty →
    (tableAfter (before ++ [s])).lookup name.value = some ⟨some ty, value.span⟩ ∧
    ∀ other ≠ name.value,
      (tableAfter (before ++ [s])).lookup other = (tableAfter before).lookup other
  /-- Nothing else changes the table. -/
  unchanged : (∀ span name ty, s = .assign span name value → ty? ≠ some ty) →
    tableAfter (before ++ [s]) = tableAfter before

/-- **One statement**, with the table in front of it. -/
theorem Stmt.Writable.outcome (hs : s.Writable) (hvalue : s.value? = some value)
    (ht : (tableAfter before).Known (before ++ s :: after)) :
    s.Outcome before value (value.infer (tableAfter before)).ty
      (Finding.errors (s.check (tableAfter before)).findings) := by
  refine ⟨errorsAfter_concat before s, hs.length_errors_check _, ?_, ?_, ?_, ?_⟩
  · rw [errors_check _ hvalue]
    exact (hs.of_value? hvalue).typed_iff ht
  · exact fun ty hty => Expr.infer_tensor ht hty
  · rintro span name ty rfl hty
    rw [tableAfter_concat, check, hty]
    exact ⟨SymbolTable.lookup_bind_self .., fun other hother =>
      SymbolTable.lookup_bind_of_ne hother⟩
  · intro hnone
    rw [tableAfter_concat]
    cases s with
    | eval | missing => rfl
    | assign span name value' =>
      cases hvalue
      have huntyped : (value.infer (tableAfter before)).ty = none :=
        Option.eq_none_iff_forall_ne_some.mpr fun ty => hnone span name ty rfl
      rw [check, huntyped]

/-- **What becomes of a statement**: whatever text is read and checked, a statement adds one error
at most; its expression has a type exactly if no error is added and every name in it is bound by the
statements before; the type is that of a tensor; and the table changes only if the statement assigns
a value with a type, and then for the assigned name alone. -/
theorem Program.check_outcome {file : Nat} {text : Bytes} {p : Program}
    (hp : Program.parse file text = .ok p) (before : List Stmt)
    (hstmts : p.stmts = before ++ s :: after) :
    ∃ value added, s.value? = some value ∧
      s.Outcome before value ((Program.check (some p)).typeOf before.length) added ∧
      errorsAfter (before ++ [s]) <+: (Program.check (some p)).errors := by
  have hs : s.Writable :=
    (Program.parse_eq_ok_iff.mp hp).2.writable s (by rw [hstmts]; exact List.mem_append_cons_self)
  have hvalue : ∃ value, s.value? = some value := by
    cases s with
    | eval | assign => exact ⟨_, rfl⟩
    | missing => exact hs.elim
  obtain ⟨value, hvalue⟩ := hvalue
  have htype : (Program.check (some p)).typeOf before.length =
      (value.infer (tableAfter before)).ty := by
    rw [Program.check, hstmts, Checked.typeOf, getElem?_nodes_checkStmts, Stmt.nodes_check _ hvalue,
      Option.bind_some, (hs.of_value? hvalue).head?_nodes_infer]
    rfl
  refine ⟨value, _, hvalue, htype ▸ hs.outcome hvalue (tableAfter_known before (s :: after)), ?_⟩
  rw [Program.check, hstmts, List.append_cons before s after, Checked.errors,
    errors_checkStmts_append _ (before ++ [s])]
  exact List.prefix_append _ _

/-- The tree of `a=[2x3;0];b=c*a*a;a=a*a;`. -/
private def rejecting : Program :=
  ⟨[.assign ⟨0, 0, 10⟩ ⟨"a".utf8, ⟨0, 0, 1⟩⟩
      (.fill ⟨0, 2, 9⟩ ⟨0, ⟨0, 7, 8⟩⟩ [⟨2, ⟨0, 3, 4⟩⟩, ⟨3, ⟨0, 5, 6⟩⟩] none),
    .assign ⟨0, 10, 18⟩ ⟨"b".utf8, ⟨0, 10, 11⟩⟩
      (.binary ⟨0, 12, 17⟩ ⟨.mul, ⟨0, 15, 16⟩⟩
        (.binary ⟨0, 12, 15⟩ ⟨.mul, ⟨0, 13, 14⟩⟩ (.var ⟨0, 12, 13⟩ "c".utf8)
          (.var ⟨0, 14, 15⟩ "a".utf8))
        (.var ⟨0, 16, 17⟩ "a".utf8)),
    .assign ⟨0, 18, 24⟩ ⟨"a".utf8, ⟨0, 18, 19⟩⟩
      (.binary ⟨0, 20, 23⟩ ⟨.mul, ⟨0, 21, 22⟩⟩ (.var ⟨0, 20, 21⟩ "a".utf8)
        (.var ⟨0, 22, 23⟩ "a".utf8))], ⟨0, 0, 24⟩⟩

/-- Two assignments without a type: `c` is not bound, which is no error, and `a` cannot be
multiplied with itself, which is one. -/
theorem Program.check_outcome_untyped :
    ∃ p first second third, Program.parse 0 "a=[2x3;0];b=c*a*a;a=a*a;".utf8 = .ok p ∧
      p.stmts = [first] ++ second :: [third] ∧ p.stmts = [first, second] ++ third :: [] ∧
      (∃ value, second.Outcome [first] value none []) ∧
      ∃ value e, third.Outcome [first, second] value none [e] := by
  have hp : Program.parse 0 "a=[2x3;0];b=c*a*a;a=a*a;".utf8 = .ok rejecting := by decide +kernel
  refine ⟨rejecting, _, _, _, hp, rfl, rfl, ?_, ?_⟩
  · obtain ⟨value, added, -, houtcome, -⟩ := Program.check_outcome hp [_] rfl
    have htype : (Program.check (some rejecting)).typeOf 1 = none := by decide +kernel
    have hadded : added = [] := by
      have herrors : errorsAfter (rejecting.stmts.take 2) = [] := by decide +kernel
      exact (List.append_eq_nil_iff.mp (houtcome.errors_eq.symm.trans herrors)).2
    exact ⟨value, htype ▸ hadded ▸ houtcome⟩
  · obtain ⟨value, added, -, houtcome, -⟩ := Program.check_outcome hp [_, _] rfl
    have htype : (Program.check (some rejecting)).typeOf 2 = none := by decide +kernel
    have hearlier : errorsAfter (rejecting.stmts.take 2) = [] := by decide +kernel
    have herrors : errorsAfter rejecting.stmts =
        [.cannotMultiply [2, 3] [2, 3] ⟨0, 2, 9⟩ ⟨0, 2, 9⟩] := by decide +kernel
    have hadded := calc
      added = errorsAfter (rejecting.stmts.take 2) ++ added := by rw [hearlier, List.nil_append]
      _ = [.cannotMultiply [2, 3] [2, 3] ⟨0, 2, 9⟩ ⟨0, 2, 9⟩] :=
        houtcome.errors_eq.symm.trans herrors
    exact ⟨value, _, htype ▸ hadded ▸ houtcome⟩

end TensorLang
