import TensorLang.Proofs.Syntax.Exactness
import TensorLang.Proofs.Syntax.Writable

/-!
# The order of the text

Lexemes of a layout stand one behind the other (`Grammar.Laid.pairwise_start`). The operands of an
expression begin where some of its lexemes begin, in the same order, and so do the names that a
statement binds and reads. Hence the lists `Expr.atoms` and `Stmt.names`, which follow the tree, are
in the order of the text (`Grammar.Sentence.pairwise_names`, `Grammar.Sentence.pairwise_atoms`).
-/

namespace TensorLang

namespace Expr

/-- The operands of all products: literals and names. -/
def atoms (e : Expr) : List Expr := e.nodes.filter fun x => !x.isBinary

@[simp]
theorem atoms_binary (span : Span) (op : Spanned BinaryOp) (lhs rhs : Expr) :
    (binary span op lhs rhs).atoms = lhs.atoms ++ rhs.atoms := by
  rw [atoms, nodes, List.filter_cons_of_neg (by simp [isBinary]), List.filter_append]
  rfl

theorem Writable.atoms {e : Expr} (he : e.Writable) : ∀ x ∈ e.atoms, x.Writable := by
  induction e with
  | fill | range | var => exact fun x hx => List.mem_singleton.mp hx ▸ he
  | binary span op lhs rhs ihl ihr =>
    obtain ⟨-, -, hlhs, hrhs⟩ := he
    rw [atoms_binary, List.forall_mem_append]
    exact ⟨ihl hlhs, ihr hrhs⟩
  | missing => exact he.elim

/-- The name that an operand is. -/
def name? : Expr → Option (Spanned Bytes)
  | var span name => some ⟨name, span⟩
  | _ => none

theorem readVars_eq (e : Expr) : e.readVars = e.atoms.filterMap name? := by
  induction e with
  | fill | range | var | missing => rfl
  | binary span op lhs rhs ihl ihr => rw [readVars, atoms_binary, List.filterMap_append, ihl, ihr]

/-- The places of names are places of operands. -/
theorem sublist_readVars (e : Expr) :
    (e.readVars.map (·.span.start)).Sublist (e.atoms.map (·.span.start)) := by
  rw [readVars_eq]
  induction e.atoms with
  | nil => exact .slnil
  | cons x rest ih =>
    cases x with
    | var => exact ih.cons_cons _
    | fill | range | binary | missing => exact ih.cons _

end Expr

/-- The operands in a statement. -/
def Stmt.atoms (s : Stmt) : List Expr := s.value?.elim [] Expr.atoms

theorem Stmt.Writable.atoms {s : Stmt} (hs : s.Writable) : ∀ x ∈ s.atoms, x.Writable := by
  cases s with
  | eval => exact Expr.Writable.atoms hs
  | assign => exact Expr.Writable.atoms hs.2
  | missing => exact hs.elim

namespace Grammar

variable {file pos : Nat} {text : Bytes} {ls : List Lexeme} {e : Expr} {s : Stmt}

theorem Laid.le_start (h : Laid file pos text ls) : ∀ l ∈ ls, pos ≤ l.span.start := by
  intro l hl
  obtain ⟨before, -, -, hspan⟩ := h.eq_append_of_mem hl
  rw [hspan]
  exact Nat.le_add_right pos _

/-- **Lexemes stand one behind the other.** -/
theorem Laid.pairwise_start (h : Laid file pos text ls) :
    (ls.map (·.span.start)).Pairwise (· < ·) := by
  induction h with
  | nil => exact .nil
  | @cons pos w rest t ls _ hrest ih =>
    refine .cons (fun start hstart => ?_) ih
    obtain ⟨l, hl, rfl⟩ := List.mem_map.mp hstart
    have hle := hrest.le_start l hl
    have hpos := t.text_length_pos
    dsimp only
    omega

theorem Stands.pairwise_start {a : Span} (h : Stands file text ls a) :
    (ls.map (·.span.start)).Pairwise (· < ·) := by
  cases h with
  | mk _ hfills => exact hfills.laid.pairwise_start

/-! ### Operands among the lexemes -/

/-- An operand begins with its first lexeme. -/
theorem Atom.sublist_start (h : Atom ls e) :
    (e.atoms.map (·.span.start)).Sublist (ls.map (·.span.start)) := by
  cases h with
  | fill h => cases h <;> exact (List.nil_sublist _).cons_cons _
  | range h => cases h <;> exact (List.nil_sublist _).cons_cons _
  | name => exact List.Sublist.refl _

theorem Product.sublist_start (h : Product ls e) :
    (e.atoms.map (·.span.start)).Sublist (ls.map (·.span.start)) := by
  induction h with
  | atom hatom => exact hatom.sublist_start
  | mul _ hatom ih =>
    rw [Expr.atoms_binary, List.map_append, List.map_append]
    exact ih.append (hatom.sublist_start.cons _)

theorem Statement.sublist_atoms (h : Statement ls s) :
    (s.atoms.map (·.span.start)).Sublist (ls.map (·.span.start)) := by
  cases h with
  | eval hexpr =>
    rw [List.map_append]
    exact hexpr.sublist_start.trans (List.sublist_append_left _ _)
  | assign hexpr =>
    rw [List.map_cons, List.map_cons, List.map_append]
    exact ((hexpr.sublist_start.trans (List.sublist_append_left _ _)).cons _).cons _

theorem Statement.sublist_names (h : Statement ls s) :
    (s.names.map (·.span.start)).Sublist (ls.map (·.span.start)) := by
  cases h with
  | @eval ls e _ hexpr =>
    rw [List.map_append]
    exact (e.sublist_readVars.trans hexpr.sublist_start).trans (List.sublist_append_left _ _)
  | @assign _ _ _ _ _ ls e hexpr =>
    rw [List.map_cons, List.map_cons, List.map_append, Stmt.names, List.map_cons]
    refine List.Sublist.cons_cons _ (List.Sublist.cons _ ?_)
    exact (e.sublist_readVars.trans hexpr.sublist_start).trans (List.sublist_append_left _ _)

/-! ### Statements of a text -/

variable {stmts : List Stmt}

/-- **Names in the order of the text**, the one that is bound first. -/
theorem Sentence.pairwise_names (h : Sentence file text stmts) (hs : s ∈ stmts) :
    s.names.Pairwise fun a b => a.span.start < b.span.start := by
  obtain ⟨ls, hstmt, hstands, -⟩ := h.stands hs
  exact List.pairwise_map.mp (hstands.pairwise_start.sublist hstmt.sublist_names)

/-- **Operands in the order of the text.** -/
theorem Sentence.pairwise_atoms (h : Sentence file text stmts) (hs : s ∈ stmts) :
    s.atoms.Pairwise fun x y => x.span.start < y.span.start := by
  obtain ⟨ls, hstmt, hstands, -⟩ := h.stands hs
  exact List.pairwise_map.mp (hstands.pairwise_start.sublist hstmt.sublist_atoms)

end Grammar

end TensorLang
