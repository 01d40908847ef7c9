import TensorLang.Proofs.Typing.Locations

/-!
# Errors at different places

Every statement has at most one type error, about the first product in it that is rejected
(`Expr.Writable.errors_infer`). An error names its operands by their places, and the place of a name
is the right-hand side that it has its value from. So the errors of two statements are about the
same places only if both products are of names, and the names have the same values in both
statements (`Grammar.Sentence.repeats`); and then the errors are the same
(`not_nodup_of_repeats`).
-/

namespace TensorLang

/-- The expression has the product of `lhs` and `rhs` in it, whose types `e` says cannot be
multiplied. -/
def Expr.Rejects (t : SymbolTable) (x lhs rhs : Expr) (e : TypeError) : Prop :=
  ∃ span op lt rt, binary span op lhs rhs ∈ x.nodes ∧ (lhs.infer t).ty = some lt ∧
    (rhs.infer t).ty = some rt ∧
    lt.multiply (lhs.operandSpan t) rt (rhs.operandSpan t) = .error e

/-- Two statements multiply names that have the same values in both, and these cannot be
multiplied. -/
def Repeats (stmts : List Stmt) : Prop :=
  ∃ before s mid s' after value value', stmts = before ++ s :: (mid ++ s' :: after) ∧
    s.value? = some value ∧ s'.value? = some value' ∧
    ∃ a x b y a' x' b' y' e e',
      value.Rejects (tableAfter before) (.var a x) (.var b y) e ∧
      value'.Rejects (tableAfter (before ++ s :: mid)) (.var a' x') (.var b' y') e' ∧
      (tableAfter before).lookup x = (tableAfter (before ++ s :: mid)).lookup x' ∧
      (tableAfter before).lookup y = (tableAfter (before ++ s :: mid)).lookup y'

/-! ### One statement -/

namespace Expr

variable {t : SymbolTable} {x lhs rhs : Expr} {e : TypeError}

/-- Atoms have no type errors. -/
theorem errors_infer_of_isBinary_eq_false (h : x.isBinary = false) :
    Finding.errors (x.infer t).findings = [] := by
  cases x with
  | fill | missing => rfl
  | range =>
    rw [infer]
    dsimp only
    split <;> rfl
  | var =>
    rw [infer]
    split <;> rfl
  | binary => cases h

/-- **An expression that can be written has one type error at most.** If it has one, a product in it
is rejected, and the expression has no type. -/
theorem Writable.errors_infer (hx : x.Writable) (t : SymbolTable) :
    Finding.errors (x.infer t).findings = [] ∨
      (x.infer t).ty = none ∧ ∃ lhs rhs e, x.Rejects t lhs rhs e ∧
        Finding.errors (x.infer t).findings = [e] := by
  induction x with
  | fill | range | var | missing => exact .inl (errors_infer_of_isBinary_eq_false rfl)
  | binary span op lhs rhs ihl _ =>
    obtain ⟨hop, hatom, hlhs, -⟩ := hx
    have hright : Finding.errors (rhs.infer t).findings = [] :=
      errors_infer_of_isBinary_eq_false hatom
    rcases ihl hlhs with hnone | ⟨hty, l, r, e, ⟨span', op', lt, rt, hmem, hrejected⟩, herrors⟩
    · -- nothing is wrong on the left, and the product itself may be rejected
      rcases infer_binary_cases t span op lhs rhs with
        ⟨-, -, hfindings⟩ | ⟨-, -, hfindings⟩ | ⟨hother, -⟩ | ⟨lt, rt, hl, hr, hcases⟩
      · exact .inl (hfindings ▸ hnone)
      · rw [hfindings, Finding.errors_append, hnone, hright]
        exact .inl rfl
      · exact absurd hop hother
      · split at hcases
        · rw [hcases.2, Finding.errors_append, hnone, hright]
          exact .inl rfl
        · rename_i e he
          rw [hcases.2, Finding.errors_append, Finding.errors_append, hnone, hright]
          refine .inr ⟨hcases.1, lhs, rhs, e, ⟨span, op, lt, rt, ?_, hl, hr, he⟩, rfl⟩
          rw [nodes]
          exact List.mem_cons_self
    · -- the left has no type, and so nothing more is looked at
      have hinfer : (binary span op lhs rhs).infer t =
          ⟨none, (lhs.infer t).findings, none :: ((lhs.infer t).nodes ++ rhs.untyped)⟩ := by
        simp only [infer, hop, hty, if_true]
      rw [hinfer]
      refine .inr ⟨rfl, l, r, e, ⟨span', op', lt, rt, ?_, hrejected⟩, herrors⟩
      simp [nodes, hmem]

theorem Writable.error_unique {e' : TypeError} (hx : x.Writable)
    (he : e ∈ Finding.errors (x.infer t).findings)
    (he' : e' ∈ Finding.errors (x.infer t).findings) : e = e' := by
  rcases hx.errors_infer t with hnone | ⟨-, -, -, f, -, hone⟩
  · rw [hnone] at he
    cases he
  · rw [hone, List.mem_singleton] at he he'
    exact he.trans he'.symm

/-- A product that is rejected is reported. -/
theorem Rejects.mem_errors (hx : x.Writable) (h : x.Rejects t lhs rhs e) :
    e ∈ Finding.errors (x.infer t).findings := by
  obtain ⟨span, op, lt, rt, hmem, hl, hr, he⟩ := h
  induction x with
  | fill | range | var | missing => simp [nodes] at hmem
  | binary span' op' lhs' rhs' ihl _ =>
    obtain ⟨hop, hatom, hlhs, -⟩ := hx
    rw [nodes, List.mem_cons, List.mem_append] at hmem
    rcases hmem with hself | hmem | hmem
    · cases hself
      simp only [infer, hop, hl, hr, he, if_true, Finding.errors_append, List.mem_append]
      exact .inr List.mem_cons_self
    · -- whatever becomes of the product, what is found on the left is kept
      have hleft := Finding.mem_errors.mp (ihl hlhs hmem)
      rcases infer_binary_cases t span' op' lhs' rhs' with
        ⟨-, -, hfindings⟩ | ⟨-, -, hfindings⟩ | ⟨hother, -⟩ | ⟨lt', rt', -, -, hcases⟩
      · rw [hfindings]
        exact Finding.mem_errors.mpr hleft
      · rw [hfindings]
        exact Finding.mem_errors.mpr (List.mem_append_left _ hleft)
      · exact absurd hop hother
      · split at hcases
        · rw [hcases.2]
          exact Finding.mem_errors.mpr (List.mem_append_left _ hleft)
        · rw [hcases.2, List.append_assoc]
          exact Finding.mem_errors.mpr (List.mem_append_left _ hleft)
    · cases rhs' with
      | binary => cases hatom
      | fill | range | var | missing => simp [nodes] at hmem

/-- The nodes of a node are nodes. -/
theorem nodes_subset {y : Expr} (h : x ∈ y.nodes) : x.nodes ⊆ y.nodes := by
  induction y with
  | fill | range | var =>
    rw [List.mem_singleton.mp h]
    exact List.Subset.refl _
  | missing => cases h
  | binary span op lhs rhs ihl ihr =>
    rw [nodes, List.mem_cons, List.mem_append] at h
    rcases h with rfl | h | h
    · exact List.Subset.refl _
    · exact fun z hz => List.mem_cons_of_mem _ (List.mem_append_left _ (ihl h hz))
    · exact fun z hz => List.mem_cons_of_mem _ (List.mem_append_right _ (ihr h hz))

theorem Rejects.mem_nodes (h : x.Rejects t lhs rhs e) : lhs ∈ x.nodes ∧ rhs ∈ x.nodes := by
  obtain ⟨span, op, lt, rt, hmem, hl, hr, -⟩ := h
  have hparts : lhs.nodes ++ rhs.nodes ⊆ x.nodes :=
    List.Subset.trans (List.subset_cons_self _ _) (nodes_subset hmem)
  exact ⟨hparts (List.mem_append_left _ (mem_nodes_of_infer hl)),
    hparts (List.mem_append_right _ (mem_nodes_of_infer hr))⟩

end Expr

/-! ### Values of names -/

/-- What the table knows about a name was bound by a statement. -/
theorem exists_assign_of_lookup {before : List Stmt} {name : Bytes} {entry : SymbolEntry}
    (h : (tableAfter before).lookup name = some entry) :
    ∃ first span lhs value rest ty, before = first ++ .assign span lhs value :: rest ∧
      (value.infer (tableAfter first)).ty = some ty ∧ entry = ⟨some ty, value.span⟩ := by
  -- from the end, since the last statement that binds the name counts
  induction before using List.reverseRecOn with
  | nil => cases h
  | append_singleton before s ih =>
    rw [tableAfter_concat] at h
    have hearlier (h : (tableAfter before).lookup name = some entry) :
        ∃ first span lhs value rest ty, before ++ [s] = first ++ .assign span lhs value :: rest ∧
          (value.infer (tableAfter first)).ty = some ty ∧ entry = ⟨some ty, value.span⟩ := by
      obtain ⟨first, span, lhs, value, rest, ty, rfl, hty, hentry⟩ := ih h
      exact ⟨first, span, lhs, value, rest ++ [s], ty, by simp, hty, hentry⟩
    cases s with
    | eval | missing => exact hearlier h
    | assign span lhs value =>
      rw [Stmt.check] at h
      split at h
      · exact hearlier h
      · rename_i ty hty
        by_cases hname : name = lhs.value
        · rw [hname, SymbolTable.lookup_bind_self] at h
          exact ⟨before, span, lhs, value, [], ty, rfl, hty, (Option.some.inj h).symm⟩
        · rw [SymbolTable.lookup_bind_of_ne hname] at h
          exact hearlier h

/-- An operand with a type is a name that is bound, or it stands where its span says. -/
theorem Expr.operandSpan_cases {t : SymbolTable} {x : Expr} {ty : Ty}
    (h : (x.infer t).ty = some ty) :
    (∃ span name entry, x = var span name ∧ t.lookup name = some entry ∧
      x.operandSpan t = entry.span) ∨ x.operandSpan t = x.span := by
  cases x with
  | var span name =>
    rw [infer] at h
    split at h
    · rename_i entry hentry
      exact .inl ⟨span, name, entry, rfl, hentry, by rw [operandSpan, hentry]⟩
    · cases h
  | _ => exact .inr rfl

/-! ### Places -/

section Places

variable {file : Nat} {text : Bytes} {stmts : List Stmt}

/-- The span of a node holds some bytes and lies in the statement. -/
theorem Grammar.Sentence.within (h : Sentence file text stmts) {s : Stmt} {value x : Expr}
    (hs : s ∈ stmts) (hvalue : s.value? = some value) (hx : x ∈ value.nodes) :
    x.span.start < x.span.stop ∧ x.span.Within s.span := by
  obtain ⟨ls, hstmt, hstands, -⟩ := h.stands hs
  obtain ⟨ms, hpart, hproduct⟩ := hstmt.exists_part hvalue hx
  obtain ⟨a, ha, hwithin⟩ := hstands.part hpart hproduct.ne_nil
  obtain ⟨rfl, -⟩ := hproduct.exact ha
  exact ⟨(ha.tight hproduct.ne_nil).start_lt_stop, hwithin⟩

/-- Nodes with the same span are in the same statement. -/
theorem Grammar.Sentence.before_eq (h : Sentence file text stmts)
    {before before' after after' : List Stmt} {s s' : Stmt} {value value' x x' : Expr}
    (hstmts : stmts = before ++ s :: after) (hstmts' : stmts = before' ++ s' :: after')
    (hvalue : s.value? = some value) (hvalue' : s'.value? = some value')
    (hx : x ∈ value.nodes) (hx' : x' ∈ value'.nodes) (hspan : x.span = x'.span) :
    before = before' := by
  obtain ⟨hlt, hwithin⟩ := h.within (by simp [hstmts]) hvalue hx
  obtain ⟨-, hwithin'⟩ := h.within (by simp [hstmts']) hvalue' hx'
  exact eq_of_within hlt h.ordered hstmts hstmts' hwithin (hspan ▸ hwithin')

/-- **Operands at one place.** If an operand of a statement without a type and an operand of a later
statement have the same place, both are names, and they have the same value. -/
theorem Grammar.Sentence.same_operand (h : Sentence file text stmts)
    {before mid after : List Stmt} {s s' : Stmt} {value value' x x' : Expr} {ty ty' : Ty}
    (hstmts : stmts = before ++ s :: (mid ++ s' :: after))
    (hvalue : s.value? = some value) (hvalue' : s'.value? = some value')
    (huntyped : (value.infer (tableAfter before)).ty = none)
    (hx : x ∈ value.nodes) (hx' : x' ∈ value'.nodes)
    (hty : (x.infer (tableAfter before)).ty = some ty)
    (hty' : (x'.infer (tableAfter (before ++ s :: mid))).ty = some ty')
    (hspan : x.operandSpan (tableAfter before) =
      x'.operandSpan (tableAfter (before ++ s :: mid))) :
    ∃ a name a' name', x = .var a name ∧ x' = .var a' name' ∧
      (tableAfter before).lookup name = (tableAfter (before ++ s :: mid)).lookup name' := by
  have hstmts' : stmts = (before ++ s :: mid) ++ s' :: after := by simp [hstmts]
  have hshorter : before.length < (before ++ s :: mid).length := by simp
  rcases Expr.operandSpan_cases hty with ⟨a, name, entry, rfl, hentry, hplace⟩ | hplace
  · obtain ⟨first, sp, lhs, w, rest, tw, hbefore, htw, rfl⟩ := exists_assign_of_lookup hentry
    have hfirst : stmts = first ++ .assign sp lhs w :: (rest ++ s :: (mid ++ s' :: after)) := by
      simp [hstmts, hbefore]
    rcases Expr.operandSpan_cases hty' with ⟨a', name', entry', rfl, hentry', hplace'⟩ | hplace'
    · -- both were bound by the statement that has the span
      obtain ⟨first', sp', lhs', w', rest', tw', hbefore', htw', rfl⟩ :=
        exists_assign_of_lookup hentry'
      have hfirst' : stmts = first' ++ .assign sp' lhs' w' :: (rest' ++ s' :: after) := by
        simp [hstmts', hbefore']
      have hsame : first = first' := h.before_eq hfirst hfirst' rfl rfl
        (Expr.mem_nodes_of_infer htw) (Expr.mem_nodes_of_infer htw')
        (hplace.symm.trans (hspan.trans hplace'))
      rw [hfirst, hsame] at hfirst'
      have hassign := (List.cons.inj (List.append_cancel_left hfirst')).1
      cases hassign
      rw [hsame] at htw
      cases htw.symm.trans htw'
      exact ⟨a, name, a', name', rfl, rfl, hentry.trans hentry'.symm⟩
    · -- the later operand stands in a statement that binds an earlier name
      have hsame : first = before ++ s :: mid := h.before_eq hfirst hstmts' rfl hvalue'
        (Expr.mem_nodes_of_infer htw) hx' (hplace.symm.trans (hspan.trans hplace'))
      have hlength := congrArg List.length hbefore
      rw [hsame, List.length_append] at hlength
      omega
  · rcases Expr.operandSpan_cases hty' with ⟨a', name', entry', rfl, hentry', hplace'⟩ | hplace'
    · -- the first operand stands in the statement that binds the later name, but it binds none
      obtain ⟨first', sp', lhs', w', rest', tw', hbefore', htw', rfl⟩ :=
        exists_assign_of_lookup hentry'
      have hfirst' : stmts = first' ++ .assign sp' lhs' w' :: (rest' ++ s' :: after) := by
        simp [hstmts', hbefore']
      have hsame : before = first' := h.before_eq hstmts hfirst' hvalue rfl hx
        (Expr.mem_nodes_of_infer htw') (hplace.symm.trans (hspan.trans hplace'))
      rw [hstmts, ← hsame] at hfirst'
      obtain rfl := (List.cons.inj (List.append_cancel_left hfirst')).1
      cases hvalue
      rw [← hsame, huntyped] at htw'
      cases htw'
    · have hsame : before = before ++ s :: mid := h.before_eq hstmts hstmts' hvalue hvalue' hx hx'
        (hplace.symm.trans (hspan.trans hplace'))
      rw [← hsame] at hshorter
      exact absurd hshorter (Nat.lt_irrefl _)

end Places

/-! ### Errors of a program -/

section Errors

variable {t : SymbolTable} {stmts before after : List Stmt} {s : Stmt} {value : Expr}
  {e : TypeError}

theorem errors_checkStmts_append (t : SymbolTable) (stmts more : List Stmt) :
    Finding.errors (checkStmts t (stmts ++ more)).findings =
      Finding.errors (checkStmts t stmts).findings ++
        Finding.errors (checkStmts (checkStmts t stmts).symbols more).findings := by
  induction stmts generalizing t with
  | nil => rfl
  | cons s rest ih =>
    rw [List.cons_append, checkStmts, checkStmts, Finding.errors_append, Finding.errors_append, ih,
      List.append_assoc]

/-- An error about the expression of the first statement is an error about the program. -/
theorem mem_errors_checkStmts_cons (hvalue : s.value? = some value)
    (he : e ∈ Finding.errors (value.infer t).findings) :
    e ∈ Finding.errors (checkStmts t (s :: after)).findings := by
  rw [checkStmts, Finding.errors_append, Stmt.errors_check t hvalue]
  exact List.mem_append_left _ he

/-- **Errors of different statements.** If two errors of a program look alike, and every statement
has one at most, they are errors of two statements. -/
theorem exists_alike_of_not_nodup {κ : Type} (look : TypeError → κ)
    (hone : ∀ s ∈ stmts, ∀ t, (Finding.errors (s.check t).findings).length ≤ 1)
    (h : ¬ ((Finding.errors (checkStmts t stmts).findings).map look).Nodup) :
    ∃ before s mid s' after value value' e e', stmts = before ++ s :: (mid ++ s' :: after) ∧
      s.value? = some value ∧ s'.value? = some value' ∧
      e ∈ Finding.errors (value.infer (checkStmts t before).symbols).findings ∧
      e' ∈ Finding.errors (value'.infer (checkStmts t (before ++ s :: mid)).symbols).findings ∧
      look e = look e' := by
  induction stmts generalizing t with
  | nil => exact absurd List.nodup_nil h
  | cons s rest ih =>
    have hfirst : ((Finding.errors (s.check t).findings).map look).Nodup := by
      have hlength := hone s List.mem_cons_self t
      rw [← List.length_map look] at hlength
      match (Finding.errors (s.check t).findings).map look, hlength with
      | [], _ => exact List.nodup_nil
      | [k], _ => exact List.pairwise_singleton _ k
    rw [checkStmts, Finding.errors_append, List.map_append, List.nodup_append] at h
    by_cases hrest : ((Finding.errors (checkStmts (s.check t).table rest).findings).map look).Nodup
    · -- one of them is in the first statement
      have hmeet : ∃ k ∈ (Finding.errors (s.check t).findings).map look,
          k ∈ (Finding.errors (checkStmts (s.check t).table rest).findings).map look := by
        by_contra hnone
        push Not at hnone
        exact h ⟨hfirst, hrest, fun a ha b hb hab => hnone a ha (hab ▸ hb)⟩
      obtain ⟨k, hk, hk'⟩ := hmeet
      obtain ⟨e, he, rfl⟩ := List.mem_map.mp hk
      obtain ⟨e', he', hlook⟩ := List.mem_map.mp hk'
      obtain ⟨mid, s', after, value', rfl, hvalue', he'⟩ := exists_of_mem_errors_checkStmts he'
      cases hvalue : s.value? with
      | none =>
        cases s with
        | missing => cases he
        | eval | assign => cases hvalue
      | some value =>
        rw [Stmt.errors_check t hvalue] at he
        exact ⟨[], s, mid, s', after, value, value', e, e', rfl, hvalue, hvalue', he, he',
          hlook.symm⟩
    · obtain ⟨before, s₁, mid, s₂, after, value, value', e, e', rfl, hvalue, hvalue', he, he',
        hlook⟩ := ih (fun u hu => hone u (List.mem_cons_of_mem s hu)) hrest
      exact ⟨s :: before, s₁, mid, s₂, after, value, value', e, e', rfl, hvalue, hvalue', he, he',
        hlook⟩

/-- Names with the same value have the same type, and the same place if there is a type. -/
theorem Expr.infer_var_congr {t t' : SymbolTable} {name name' : Bytes}
    (h : t.lookup name = t'.lookup name') (a a' : Span) {ty : Ty}
    (hty : ((var a name).infer t).ty = some ty) :
    ((var a' name').infer t').ty = some ty ∧
      (var a name).operandSpan t = (var a' name').operandSpan t' := by
  cases hentry : t'.lookup name' with
  | none =>
    rw [hentry] at h
    simp [infer, h] at hty
  | some entry =>
    rw [hentry] at h
    rw [← hty]
    simp [infer, operandSpan, h, hentry]

/-- The same values are rejected with the same error. -/
theorem Expr.Rejects.error_eq {t t' : SymbolTable} {x x' : Expr} {a b a' b' : Span}
    {m n m' n' : Bytes} {e e' : TypeError} (h : x.Rejects t (.var a m) (.var b n) e)
    (h' : x'.Rejects t' (.var a' m') (.var b' n') e') (hm : t.lookup m = t'.lookup m')
    (hn : t.lookup n = t'.lookup n') : e = e' := by
  obtain ⟨_, _, lt, rt, -, hl, hr, he⟩ := h
  obtain ⟨_, _, lt', rt', -, hl', hr', he'⟩ := h'
  obtain ⟨htl, hsl⟩ := infer_var_congr hm a a' hl
  obtain ⟨htr, hsr⟩ := infer_var_congr hn b b' hr
  cases hl'.symm.trans htl
  cases hr'.symm.trans htr
  rw [hsl, hsr, he'] at he
  exact (Except.error.inj he).symm

/-- Names with the same values that are multiplied twice give the same error twice. -/
theorem not_nodup_of_repeats (hwritable : ∀ s ∈ stmts, s.Writable) (h : Repeats stmts) :
    ¬ (Finding.errors (checkStmts SymbolTable.empty stmts).findings).Nodup := by
  obtain ⟨before, s, mid, s', after, value, value', rfl, hvalue, hvalue', a, x, b, y, a', x', b',
    y', e, e', hrejects, hrejects', hx, hy⟩ := h
  obtain rfl := hrejects.error_eq hrejects' hx hy
  have he := hrejects.mem_errors ((hwritable s (by simp)).of_value? hvalue)
  have he' := hrejects'.mem_errors ((hwritable s' (by simp)).of_value? hvalue')
  have hsplit : before ++ s :: (mid ++ s' :: after) = (before ++ s :: mid) ++ s' :: after := by
    simp
  rw [hsplit, errors_checkStmts_append, List.nodup_append]
  rintro ⟨-, -, hdisjoint⟩
  refine hdisjoint e ?_ e (mem_errors_checkStmts_cons hvalue' he') rfl
  rw [errors_checkStmts_append]
  exact List.mem_append_right _ (mem_errors_checkStmts_cons hvalue he)

/-- The places of the operands that an error is about. -/
def TypeError.places : TypeError → Span × Span
  | incompatibleDTypes _ _ lhsSpan rhsSpan | cannotMultiply _ _ lhsSpan rhsSpan =>
    (lhsSpan, rhsSpan)
  | unsupportedOperator _ span => (span, span)

theorem Ty.places_of_multiply {lt rt : Ty} {lhsSpan rhsSpan : Span}
    (h : lt.multiply lhsSpan rt rhsSpan = .error e) : e.places = (lhsSpan, rhsSpan) := by
  unfold multiply at h
  split at h
  · split at h
    · split at h
      · cases h
      · cases h
        rfl
    · cases h
      rfl
  all_goals
    split at h
    · cases h
    · cases h
      rfl

/-- **Errors about the same places** in two statements are about names with the same values, and so
they are the same. -/
theorem Grammar.Sentence.repeats {file : Nat} {text : Bytes} {mid : List Stmt} {s' : Stmt}
    {value' : Expr} {e' : TypeError} (h : Sentence file text stmts)
    (hstmts : stmts = before ++ s :: (mid ++ s' :: after))
    (hvalue : s.value? = some value) (hvalue' : s'.value? = some value')
    (he : e ∈ Finding.errors (value.infer (tableAfter before)).findings)
    (he' : e' ∈ Finding.errors (value'.infer (tableAfter (before ++ s :: mid))).findings)
    (hplaces : e.places = e'.places) : Repeats stmts ∧ e = e' := by
  have hwritable : value.Writable := (h.writable s (by simp [hstmts])).of_value? hvalue
  have hwritable' : value'.Writable := (h.writable s' (by simp [hstmts])).of_value? hvalue'
  rcases hwritable.errors_infer (tableAfter before) with hnone | ⟨huntyped, lhs, rhs, f, hf, hone⟩
  · rw [hnone] at he
    cases he
  rcases hwritable'.errors_infer (tableAfter (before ++ s :: mid)) with
    hnone' | ⟨-, lhs', rhs', f', hf', hone'⟩
  · rw [hnone'] at he'
    cases he'
  rw [hone, List.mem_singleton] at he
  rw [hone', List.mem_singleton] at he'
  subst he he'
  obtain ⟨hlhs, hrhs⟩ := hf.mem_nodes
  obtain ⟨hlhs', hrhs'⟩ := hf'.mem_nodes
  have ⟨_, _, lt, rt, _, hl, hr, herror⟩ := hf
  have ⟨_, _, lt', rt', _, hl', hr', herror'⟩ := hf'
  rw [Ty.places_of_multiply herror, Ty.places_of_multiply herror'] at hplaces
  obtain ⟨hleft, hright⟩ := Prod.mk.inj hplaces
  obtain ⟨a, x, a', x', rfl, rfl, hx⟩ :=
    h.same_operand hstmts hvalue hvalue' huntyped hlhs hlhs' hl hl' hleft
  obtain ⟨b, y, b', y', rfl, rfl, hy⟩ :=
    h.same_operand hstmts hvalue hvalue' huntyped hrhs hrhs' hr hr' hright
  exact ⟨⟨before, s, mid, s', after, value, value', hstmts, hvalue, hvalue', a, x, b, y, a', x',
    b', y', e, e', hf, hf', hx, hy⟩, hf.error_eq hf' hx hy⟩

/-- The errors about one statement are one at most. -/
theorem Stmt.Writable.length_errors_check (hs : s.Writable) (t : SymbolTable) :
    (Finding.errors (s.check t).findings).length ≤ 1 := by
  cases hvalue : s.value? with
  | none =>
    cases s with
    | missing => exact hs.elim
    | eval | assign => cases hvalue
  | some value =>
    rw [errors_check t hvalue]
    rcases (hs.of_value? hvalue).errors_infer t with hnone | ⟨-, -, -, e, -, hone⟩
    · rw [hnone]
      exact Nat.zero_le 1
    · rw [hone]
      exact Nat.le_refl 1

/-- **A type error comes twice** exactly if names with the same values are multiplied twice. -/
theorem Grammar.Sentence.nodup_errors_iff {file : Nat} {text : Bytes}
    (h : Sentence file text stmts) :
    (Finding.errors (checkStmts SymbolTable.empty stmts).findings).Nodup ↔ ¬ Repeats stmts := by
  refine ⟨fun hnodup hrepeats => not_nodup_of_repeats h.writable hrepeats hnodup, fun hnone => ?_⟩
  by_contra hnodup
  rw [← List.map_id (Finding.errors _)] at hnodup
  obtain ⟨before, s, mid, s', after, value, value', e, e', hstmts, hvalue, hvalue', he, he',
    hsame⟩ :=
    exists_alike_of_not_nodup id (fun s hs => (h.writable s hs).length_errors_check) hnodup
  exact hnone (h.repeats hstmts hvalue hvalue' he he' (congrArg TypeError.places hsame)).1

/-- Type errors are told apart by their places. -/
theorem Grammar.Sentence.error_eq_of_places {file : Nat} {text : Bytes} {e' : TypeError}
    (h : Sentence file text stmts)
    (he : e ∈ Finding.errors (checkStmts SymbolTable.empty stmts).findings)
    (he' : e' ∈ Finding.errors (checkStmts SymbolTable.empty stmts).findings)
    (hplaces : e.places = e'.places) : e = e' := by
  obtain ⟨before, s, after, value, hstmts, hvalue, he⟩ := exists_of_mem_errors_checkStmts he
  obtain ⟨before', s', after', value', hstmts', hvalue', he'⟩ := exists_of_mem_errors_checkStmts he'
  -- the two statements are one, or one of them is behind the other
  rcases List.append_eq_append_iff.mp (hstmts.symm.trans hstmts') with
    ⟨mid, rfl, hmid⟩ | ⟨mid, rfl, hmid⟩
  · cases mid with
    | nil =>
      obtain ⟨rfl, -⟩ := List.cons.inj hmid
      rw [List.append_nil] at he'
      cases hvalue.symm.trans hvalue'
      exact ((h.writable s (by simp [hstmts])).of_value? hvalue).error_unique he he'
    | cons first mid =>
      obtain ⟨rfl, rfl⟩ := List.cons.inj hmid
      exact (h.repeats hstmts hvalue hvalue' he he' hplaces).2
  · cases mid with
    | nil =>
      obtain ⟨rfl, -⟩ := List.cons.inj hmid
      rw [List.append_nil] at he
      cases hvalue.symm.trans hvalue'
      exact ((h.writable s' (by simp [hstmts'])).of_value? hvalue).error_unique he he'
    | cons first mid =>
      obtain ⟨rfl, rfl⟩ := List.cons.inj hmid
      exact (h.repeats hstmts' hvalue' hvalue he' he hplaces.symm).2.symm

end Errors

end TensorLang
