import TensorLang.Emit.Fragment
import TensorLang.Proofs.Emit.Lowered
import TensorLang.Proofs.Syntax.SourceOrder

/-!
# Why a program cannot be emitted

Two things keep a statement from being emitted: a name that the emitted code uses itself, and a
filled tensor without dimensions. The names are looked at before anything is emitted, and the
tensors while the expression is emitted, so a name counts before a tensor that stands in front of
it. `Stmt.fault?` says so in one expression; the failure of each function that emits is an equation
with it, from expressions to programs (`Target.failure?_emitExpr` to `Program.failure?_fragments`).

`Program.fragments_error_iff` says what that comes to in terms of the text: a program fails exactly
if one of its statements is at fault, with the failure of the first of them.
-/

namespace TensorLang

/-! ### The first of several -/

/-- Of the elements with the property, `a` is the first in the list and has the least place. -/
inductive IsFirst {α : Type} (P : α → Bool) (place : α → Nat) (a : α) : List α → Prop where
  | mk {earlier later : List α} (hearlier : ∀ b ∈ earlier, P b = false) (h : P a = true)
      (hlater : ∀ b ∈ later, place a < place b) : IsFirst P place a (earlier ++ a :: later)

theorem find?_eq_some_iff_isFirst {α : Type} {P : α → Bool} {place : α → Nat} {a : α} {l : List α}
    (hordered : l.Pairwise fun b c => place b < place c) :
    l.find? P = some a ↔ IsFirst P place a l := by
  rw [List.find?_eq_some_iff_append]
  constructor
  · rintro ⟨h, earlier, later, rfl, hearlier⟩
    have hlater := (List.pairwise_append.mp hordered).2.1
    exact .mk (fun b hb => by simpa using hearlier b hb) h fun b hb =>
      List.rel_of_pairwise_cons hlater hb
  · rintro ⟨hearlier, h, -⟩
    exact ⟨h, _, _, rfl, fun b hb => by simp [hearlier b hb]⟩

/-! ### Faults -/

/-- Is the expression a filled tensor without dimensions? -/
def Expr.isShapeless : Expr → Bool
  | fill _ _ shape _ => shape.isEmpty
  | _ => false

namespace Stmt

variable {t : Target} {s : Stmt} {e : EmitError}

/-- The statement binds or reads a name that the emitted code uses itself, or it has a filled tensor
without dimensions in it. -/
def Faulty (t : Target) (s : Stmt) : Prop :=
  (∃ name ∈ s.names, t.isReserved name.value = true) ∨ ∃ x ∈ s.atoms, x.isShapeless = true

instance (t : Target) (s : Stmt) : Decidable (s.Faulty t) := inferInstanceAs (Decidable (_ ∨ _))

/-- The failure that a statement at fault has: names first, and of several the first in the text. -/
inductive FirstFault (t : Target) (s : Stmt) : EmitError → Prop where
  | reservedName {name : Spanned Bytes}
      (h : IsFirst (fun name => t.isReserved name.value) (·.span.start) name s.names) :
      FirstFault t s (.reservedName name)
  | emptyShape {x : Expr} (hnames : ∀ name ∈ s.names, t.isReserved name.value = false)
      (h : IsFirst Expr.isShapeless (·.span.start) x s.atoms) :
      FirstFault t s (.emptyShape x.span)

/-- The failure of a statement, if it has one. -/
def fault? (t : Target) (s : Stmt) : Option EmitError :=
  ((s.names.find? fun name => t.isReserved name.value).map .reservedName).or
    ((s.atoms.find? Expr.isShapeless).map fun x => .emptyShape x.span)

theorem fault?_eq_none_iff : s.fault? t = none ↔ ¬ s.Faulty t := by
  simp [fault?, Faulty]

/-- In a statement of a text, the names and the operands are in the order of the text. -/
theorem fault?_eq_some_iff {file : Nat} {text : Bytes} {stmts : List Stmt}
    (h : Grammar.Sentence file text stmts) (hs : s ∈ stmts) :
    s.fault? t = some e ↔ s.FirstFault t e := by
  have hnames := h.pairwise_names hs
  have hatoms := h.pairwise_atoms hs
  simp only [fault?, Option.or_eq_some_iff, Option.map_eq_some_iff, Option.map_eq_none_iff,
    find?_eq_some_iff_isFirst hnames, find?_eq_some_iff_isFirst hatoms]
  constructor
  · rintro (⟨name, h, rfl⟩ | ⟨hnone, x, h, rfl⟩)
    · exact .reservedName h
    · exact .emptyShape (fun name hname => by simpa using List.find?_eq_none.mp hnone name hname) h
  · rintro (h | ⟨hnone, h⟩)
    · exact .inl ⟨_, h, rfl⟩
    · exact .inr ⟨List.find?_eq_none.mpr fun name hname => by simp [hnone name hname], _, h, rfl⟩

end Stmt

/-! ### Failures -/

namespace Target

variable {s : Stmt} {e : Expr}

/-- An expression fails at its first tensor without dimensions. -/
theorem failure?_emitExpr (t : Target) (he : e.Writable) :
    (t.emitExpr e).failure? =
      (e.atoms.find? Expr.isShapeless).map fun x => .emptyShape x.span := by
  induction e with
  | fill span value shape dtype =>
    rw [emitExpr]
    cases shape with
    | nil => rfl
    | cons => rfl
  | range | var => rfl
  | binary span op lhs rhs ihl ihr =>
    obtain ⟨-, -, hlhs, hrhs⟩ := he
    have hbind : (t.emitExpr (.binary span op lhs rhs)).failure? =
        (t.emitExpr lhs).failure?.or (t.emitExpr rhs).failure? := by
      refine Except.failure?_bind fun l => ?_
      refine (Except.failure?_bind fun r => ?_).trans Option.or_none
      split <;> rfl
    rw [hbind, ihl hlhs, ihr hrhs, Expr.atoms_binary, List.find?_append, Option.map_or]
  | missing => exact he.elim

theorem failure?_emitStmt (t : Target) (bound : List Bytes) (hs : s.Writable) :
    (t.emitStmt bound s).failure? = s.fault? t := by
  unfold emitStmt Stmt.fault?
  cases s.names.find? fun name => t.isReserved name.value with
  | some name => rfl
  | none =>
    cases s with
    | eval span value =>
      refine (Except.failure?_bind fun body => ?_).trans (Option.or_none.trans ?_)
      · rfl
      · exact t.failure?_emitExpr hs
    | assign span name value =>
      refine (Except.failure?_bind fun body => ?_).trans (Option.or_none.trans ?_)
      · rfl
      · exact t.failure?_emitExpr hs.2
    | missing => exact hs.elim

/-- Statements fail with the first of them that fails. -/
theorem failure?_emitStmts (t : Target) (bound : List Bytes) {stmts : List Stmt}
    (hstmts : ∀ s ∈ stmts, s.Writable) :
    (t.emitStmts bound stmts).failure? = stmts.findSome? (Stmt.fault? t) := by
  induction stmts generalizing bound with
  | nil => rfl
  | cons s rest ih =>
    rw [List.forall_mem_cons] at hstmts
    have hbind : (t.emitStmts bound (s :: rest)).failure? =
        (t.emitStmt bound s).failure?.or (t.emitStmts (s.bound bound) rest).failure? := by
      rw [emitStmts_cons]
      refine Except.failure?_bind fun here => ?_
      refine (Except.failure?_bind fun more => ?_).trans Option.or_none
      rfl
    rw [hbind, failure?_emitStmt t bound hstmts.1, ih (s.bound bound) hstmts.2, List.findSome?_cons]
    cases s.fault? t <;> rfl

end Target

theorem Program.failure?_fragments {p : Program} (t : Target) (hp : p.Writable) :
    (p.fragments t).failure? = p.stmts.findSome? (Stmt.fault? t) := by
  refine (Except.failure?_bind fun body => ?_).trans (Option.or_none.trans ?_)
  · rfl
  · exact t.failure?_emitStmts [] hp

/-- **Why a program cannot be emitted**: for every target, a text that is read fails exactly if one
of its statements binds or reads a name that the emitted code uses itself, or has a filled tensor
without dimensions in it. The failure is that of the first such statement: about its first such
name, or if it has none about its first such tensor. -/
theorem Program.fragments_error_iff {file : Nat} {text : Bytes} {p : Program}
    (hp : Program.parse file text = .ok p) (t : Target) :
    ((∃ e, p.fragments t = .error e) ↔ ∃ s ∈ p.stmts, s.Faulty t) ∧
    ∀ e, p.fragments t = .error e ↔
      ∃ before s after, p.stmts = before ++ s :: after ∧ (∀ s' ∈ before, ¬ s'.Faulty t) ∧
        s.FirstFault t e := by
  have hsentence := (Program.parse_eq_ok_iff.mp hp).2
  have hfailure := p.failure?_fragments t hsentence.writable
  constructor
  · calc (∃ e, p.fragments t = .error e)
      _ ↔ p.stmts.findSome? (Stmt.fault? t) ≠ none := by
        simp only [← Except.failure?_eq_some_iff, hfailure, Option.ne_none_iff_exists']
      _ ↔ ¬ ∀ s ∈ p.stmts, ¬ s.Faulty t := by
        simp only [ne_eq, List.findSome?_eq_none_iff, Stmt.fault?_eq_none_iff]
      _ ↔ ∃ s ∈ p.stmts, s.Faulty t := by
        simp only [not_forall, not_not, exists_prop]
  · intro e
    rw [← Except.failure?_eq_some_iff, hfailure, List.findSome?_eq_some_iff]
    constructor
    · rintro ⟨before, s, after, hstmts, hfault, hbefore⟩
      have hs : s ∈ p.stmts := by simp [hstmts]
      exact ⟨before, s, after, hstmts, fun s' hs' => Stmt.fault?_eq_none_iff.mp (hbefore s' hs'),
        (Stmt.fault?_eq_some_iff hsentence hs).mp hfault⟩
    · rintro ⟨before, s, after, hstmts, hbefore, hfault⟩
      have hs : s ∈ p.stmts := by simp [hstmts]
      exact ⟨before, s, after, hstmts, (Stmt.fault?_eq_some_iff hsentence hs).mpr hfault,
        fun s' hs' => Stmt.fault?_eq_none_iff.mpr (hbefore s' hs')⟩

/-- The tree of `a=b;[;4]*main*tensor;`. -/
private def misnamed : Program :=
  ⟨[.assign ⟨0, 0, 4⟩ ⟨"a".utf8, ⟨0, 0, 1⟩⟩ (.var ⟨0, 2, 3⟩ "b".utf8),
    .eval ⟨0, 4, 21⟩
      (.binary ⟨0, 4, 20⟩ ⟨.mul, ⟨0, 13, 14⟩⟩
        (.binary ⟨0, 4, 13⟩ ⟨.mul, ⟨0, 8, 9⟩⟩ (.fill ⟨0, 4, 8⟩ ⟨4, ⟨0, 6, 7⟩⟩ [] none)
          (.var ⟨0, 9, 13⟩ "main".utf8))
        (.var ⟨0, 14, 20⟩ "tensor".utf8))], ⟨0, 0, 21⟩⟩

/-- A tensor without dimensions in front of two names that are taken: the first of the names
counts. -/
theorem Program.fragments_error_iff_name :
    ∃ p, Program.parse 0 "a=b;[;4]*main*tensor;".utf8 = .ok p ∧
      (∃ s ∈ p.stmts, s.Faulty Target.standard) ∧
      p.fragments Target.standard = .error (.reservedName ⟨"main".utf8, ⟨0, 9, 13⟩⟩) := by
  have hp : Program.parse 0 "a=b;[;4]*main*tensor;".utf8 = .ok misnamed := by decide +kernel
  obtain ⟨hfails, herror⟩ := Program.fragments_error_iff hp Target.standard
  have hname : misnamed.fragments Target.standard =
      .error (.reservedName ⟨"main".utf8, ⟨0, 9, 13⟩⟩) := by
    refine (herror _).mpr ⟨[_], _, [], rfl, by decide +kernel, .reservedName ?_⟩
    exact @IsFirst.mk _ _ _ _ [] _ nofun (by decide +kernel) (by decide +kernel)
  exact ⟨misnamed, hp, hfails.mp ⟨_, hname⟩, hname⟩

end TensorLang
