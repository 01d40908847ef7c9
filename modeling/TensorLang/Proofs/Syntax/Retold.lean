import Mathlib.Tactic.Common
import TensorLang.Proofs.Syntax.RoundTrip

/-!
# The same terminals at other places

What the rules derive depends on where the terminals stand only in the spans of the tree. `Retold`
says that two lists of lexemes differ in the places alone, and each rule gets a lemma that it
derives from the second list a tree that is the same up to spans; `Statements.retold` is the one for
programs. Whoever changes only the blanks of a text need not look at the rules again.
-/

namespace TensorLang

namespace Grammar

/-- The same terminals at other places. -/
def Retold (ls ms : List Lexeme) : Prop := ms.map Spanned.value = ls.map Spanned.value

variable {ls ms : List Lexeme}

theorem retold_nil_iff : Retold [] ms ↔ ms = [] := List.map_eq_nil_iff

theorem retold_cons_iff {l : Lexeme} :
    Retold (l :: ls) ms ↔ ∃ s ms', ms = ⟨l.value, s⟩ :: ms' ∧ Retold ls ms' := by
  constructor
  · intro h
    obtain ⟨m, ms', rfl, hm, hms'⟩ := List.map_eq_cons_iff.mp h
    exact ⟨m.span, ms', by rw [← hm], hms'⟩
  · rintro ⟨s, ms', rfl, hms'⟩
    exact congrArg (l.value :: ·) hms'

theorem retold_append_iff {ks : List Lexeme} :
    Retold (ks ++ ls) ms ↔ ∃ ms₁ ms₂, ms = ms₁ ++ ms₂ ∧ Retold ks ms₁ ∧ Retold ls ms₂ := by
  rw [Retold, List.map_append, List.map_eq_append_iff]
  rfl

theorem Int32Literal.retold {l : Lexeme} {n : Spanned Int32} (h : Int32Literal l n) (s : Span) :
    Int32Literal ⟨l.value, s⟩ ⟨n.value, s⟩ := by
  cases h with
  | mk hlt => exact .mk hlt

theorem Dimension.retold {l : Lexeme} {d : Spanned Int64} (h : Dimension l d) (s : Span) :
    Dimension ⟨l.value, s⟩ ⟨d.value, s⟩ := by
  cases h with
  | mk hlt => exact .mk hlt

theorem Annotation.retold {l : Lexeme} {dt : Spanned DType} (h : Annotation l dt) (s : Span) :
    Annotation ⟨l.value, s⟩ ⟨dt.value, s⟩ := by
  cases h with
  | mk hmem => exact .mk hmem

/-- A repetition is retold part by part. -/
theorem Repeated.retold {α γ : Type} {rule : List Lexeme → α → Prop} {f : α → γ} {as : List α}
    (hrule : ∀ ⦃ls ms a⦄, rule ls a → Retold ls ms → ∃ b, rule ms b ∧ f b = f a)
    (h : Repeated rule ls as) (hms : Retold ls ms) :
    ∃ bs, Repeated rule ms bs ∧ bs.map f = as.map f := by
  induction h generalizing ms with
  | nil =>
    obtain rfl := retold_nil_iff.mp hms
    exact ⟨[], .nil, rfl⟩
  | cons hfirst _ ih =>
    obtain ⟨ms₁, ms₂, rfl, hms₁, hms₂⟩ := retold_append_iff.mp hms
    obtain ⟨b, hb, hbf⟩ := hrule hfirst hms₁
    obtain ⟨bs, hbs, hbsf⟩ := ih hms₂
    refine ⟨b :: bs, .cons hb hbs, ?_⟩
    rw [List.map_cons, List.map_cons, hbf, hbsf]

theorem MoreDims.retold {d : Spanned Int64} (h : MoreDims ls d) (hms : Retold ls ms) :
    ∃ d', MoreDims ms d' ∧ Expr.eraseSpan d' = Expr.eraseSpan d := by
  cases h with
  | mk hdim =>
    simp only [retold_cons_iff, retold_nil_iff] at hms
    obtain ⟨s₁, _, rfl, s₂, _, rfl, rfl⟩ := hms
    exact ⟨_, .mk (hdim.retold s₂), rfl⟩

theorem Dims.retold {ds : List (Spanned Int64)} (h : Dims ls ds) (hms : Retold ls ms) :
    ∃ ds', Dims ms ds' ∧ ds'.map Expr.eraseSpan = ds.map Expr.eraseSpan := by
  cases h with
  | none =>
    obtain rfl := retold_nil_iff.mp hms
    exact ⟨[], .none, rfl⟩
  | some hfirst hmore =>
    obtain ⟨s, ms', rfl, hms'⟩ := retold_cons_iff.mp hms
    obtain ⟨ds', hds', herase⟩ := hmore.retold (fun _ _ _ hd hms => hd.retold hms) hms'
    refine ⟨_, .some (hfirst.retold s) hds', ?_⟩
    rw [List.map_cons, List.map_cons, herase]
    rfl

theorem FillTensor.retold {e : Expr} (h : FillTensor ls e) (hms : Retold ls ms) :
    Yields FillTensor e ms := by
  cases h with
  | plain hdims hvalue =>
    simp only [retold_cons_iff, retold_append_iff, retold_nil_iff] at hms
    obtain ⟨s₁, _, rfl, _, _, rfl, hshape, s₂, _, rfl, s₃, _, rfl, s₄, _, rfl, rfl⟩ := hms
    obtain ⟨ds, hds, herase⟩ := hdims.retold hshape
    refine ⟨_, .plain hds (hvalue.retold s₃), ?_⟩
    rw [Expr.erase, Expr.erase, herase]
    rfl
  | typed hdims hvalue hann =>
    simp only [retold_cons_iff, retold_append_iff, retold_nil_iff] at hms
    obtain ⟨s₁, _, rfl, _, _, rfl, hshape, s₂, _, rfl, s₃, _, rfl, s₄, _, rfl, s₅, _, rfl, s₆, _,
      rfl, rfl⟩ := hms
    obtain ⟨ds, hds, herase⟩ := hdims.retold hshape
    refine ⟨_, .typed hds (hvalue.retold s₃) (hann.retold s₅), ?_⟩
    rw [Expr.erase, Expr.erase, herase]
    rfl

theorem RangeTensor.retold {e : Expr} (h : RangeTensor ls e) (hms : Retold ls ms) :
    Yields RangeTensor e ms := by
  cases h with
  | plain hlo hhi =>
    simp only [retold_cons_iff, retold_nil_iff] at hms
    obtain ⟨s₁, _, rfl, s₂, _, rfl, s₃, _, rfl, s₄, _, rfl, s₅, _, rfl, rfl⟩ := hms
    exact ⟨_, .plain (hlo.retold s₂) (hhi.retold s₄), rfl⟩
  | stepped hlo hhi hstep =>
    simp only [retold_cons_iff, retold_nil_iff] at hms
    obtain ⟨s₁, _, rfl, s₂, _, rfl, s₃, _, rfl, s₄, _, rfl, s₅, _, rfl, s₆, _, rfl, s₇, _, rfl,
      rfl⟩ := hms
    exact ⟨_, .stepped (hlo.retold s₂) (hhi.retold s₄) (hstep.retold s₆), rfl⟩

theorem Atom.retold {e : Expr} (h : Atom ls e) (hms : Retold ls ms) : Yields Atom e ms := by
  cases h with
  | fill h =>
    obtain ⟨e', he', herase⟩ := h.retold hms
    exact ⟨e', .fill he', herase⟩
  | range h =>
    obtain ⟨e', he', herase⟩ := h.retold hms
    exact ⟨e', .range he', herase⟩
  | name =>
    simp only [retold_cons_iff, retold_nil_iff] at hms
    obtain ⟨s, _, rfl, rfl⟩ := hms
    exact ⟨_, .name, rfl⟩

theorem Product.retold {e : Expr} (h : Product ls e) (hms : Retold ls ms) :
    Yields Product e ms := by
  induction h generalizing ms with
  | atom hatom =>
    obtain ⟨e', he', herase⟩ := hatom.retold hms
    exact ⟨e', .atom he', herase⟩
  | mul _ hatom ih =>
    simp only [retold_cons_iff, retold_append_iff] at hms
    obtain ⟨_, _, rfl, hleft, s, _, rfl, hright⟩ := hms
    obtain ⟨lhs, hlhs, hl⟩ := ih hleft
    obtain ⟨rhs, hrhs, hr⟩ := hatom.retold hright
    refine ⟨_, .mul hlhs hrhs, ?_⟩
    rw [Expr.erase, Expr.erase, hl, hr]
    rfl

theorem Statement.retold {s : Stmt} (h : Statement ls s) (hms : Retold ls ms) :
    ∃ s', Statement ms s' ∧ s'.erase = s.erase := by
  cases h with
  | eval hexpr =>
    simp only [retold_cons_iff, retold_append_iff, retold_nil_iff] at hms
    obtain ⟨_, _, rfl, hvalue, s₁, _, rfl, rfl⟩ := hms
    obtain ⟨e, he, herase⟩ := hexpr.retold hvalue
    refine ⟨_, .eval he, ?_⟩
    rw [Stmt.erase, Stmt.erase, herase]
  | assign hexpr =>
    simp only [retold_cons_iff, retold_append_iff, retold_nil_iff] at hms
    obtain ⟨s₁, _, rfl, s₂, _, rfl, _, _, rfl, hvalue, s₃, _, rfl, rfl⟩ := hms
    obtain ⟨e, he, herase⟩ := hexpr.retold hvalue
    refine ⟨_, .assign he, ?_⟩
    rw [Stmt.erase, Stmt.erase, herase]
    rfl

/-- **The tree depends on the terminals alone**, up to spans: where the same terminals stand at
other places, the same statements are derived. -/
theorem Statements.retold {stmts : List Stmt} (h : Statements ls stmts) (hms : Retold ls ms) :
    ∃ stmts', Statements ms stmts' ∧ stmts'.map Stmt.erase = stmts.map Stmt.erase :=
  Repeated.retold (fun _ _ _ hs hms => hs.retold hms) h hms

end Grammar

end TensorLang
