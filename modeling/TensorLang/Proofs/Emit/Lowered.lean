import Mathlib.Tactic.Common
import TensorLang.Emit.Fragment
import TensorLang.Proofs.Results

/-!
# Programs as commands

Fragments are a flat list of tokens. What they say is simple: every statement becomes one command,
which declares a name, updates it or discards a value, and at the end every name is discarded once
more (`Program.commands`). Values are constructor calls, names and products (`Lowered.Value`).

The fragments of a program are the tokens of its commands (`Program.map_text_fragments`), so what is
proved about commands is proved about the emitted code.
-/

namespace TensorLang

namespace Lowered

/-- What stands on the right-hand side of a command. -/
inductive Value where
  /-- A tensor filled with one value. The literal is given to the general constructor only. -/
  | fill (constructor : Bytes) (elem : DType) (shape : List Bytes) (literal : Option Bytes)
  /-- A tensor of consecutive integers. -/
  | range (constructor : Bytes) (elem : DType) (bounds : List Bytes)
  | name (text : Bytes)
  | product (op : Bytes) (lhs rhs : Value)
  deriving DecidableEq, Repr

/-- The emitted statements. -/
inductive Command where
  /-- Gives a name its first value, and with it its type. -/
  | declare (name : Bytes) (value : Value)
  /-- Gives a declared name another value. -/
  | update (name : Bytes) (value : Value)
  | discard (value : Value)
  deriving DecidableEq, Repr

/-- The tokens of a value. -/
def Value.tokens (t : Target) : Value → List Bytes
  | fill constructor elem shape literal =>
    [t.packageAlias, ".".utf8, constructor, "[".utf8, elem.name, "]".utf8, "(".utf8] ++
      [t.packageAlias, ".".utf8, "Shape".utf8, "\x7b".utf8] ++ shape.intersperse ",".utf8 ++
      ["\x7d".utf8, ",".utf8] ++ literal.toList.flatMap (fun text => [text, ",".utf8]) ++
      [t.deviceVar, ")".utf8]
  | range constructor elem bounds =>
    [t.packageAlias, ".".utf8, constructor, "[".utf8, elem.name, "]".utf8, "(".utf8] ++
      bounds.flatMap (fun text => [text, ",".utf8]) ++ [t.deviceVar, ")".utf8]
  | name text => [text]
  | product op lhs rhs =>
    if t.operators == Target.methodStyle then
      lhs.tokens t ++ [".".utf8, t.method op, "(".utf8] ++ rhs.tokens t ++ [")".utf8]
    else lhs.tokens t ++ [op] ++ rhs.tokens t

/-- The tokens of a command. -/
def Command.tokens (t : Target) : Command → List Bytes
  | declare name value => [name, ":=".utf8] ++ value.tokens t ++ [";".utf8]
  | update name value => [name, "=".utf8] ++ value.tokens t ++ [";".utf8]
  | discard value => ["_".utf8, "=".utf8] ++ value.tokens t ++ [";".utf8]

theorem Command.tokens_ne_nil (t : Target) (c : Command) : c.tokens t ≠ [] := by
  cases c <;> simp [tokens]

end Lowered

open Lowered (Value Command)

/-! ### The commands of a program -/

/-- The value of an expression in the emitted code; a missing expression has an empty name. -/
def Expr.lowered (t : Target) : Expr → Value
  | fill _ value shape dtype =>
    let shape := shape.map fun d => Decimal.ofInt d.value.toInt
    if value.value == 0 then .fill t.zeros (fillDType dtype) shape none
    else if value.value == 1 then .fill t.ones (fillDType dtype) shape none
    else .fill t.full (fillDType dtype) shape
      (some (Target.fillLiteral value.value (fillDType dtype)))
  | range _ first last step =>
    .range (if step.isSome then t.arangeStep else t.arange) DType.ofRange
      (([first, last] ++ step.toList).map fun bound => Decimal.ofInt bound.value.toInt)
  | var _ name => .name name
  | binary _ op lhs rhs => .product op.value.token (lhs.lowered t) (rhs.lowered t)
  | missing _ => .name []

/-- The command that a statement becomes. -/
def Stmt.command? (t : Target) (bound : List Bytes) : Stmt → Option Command
  | eval _ value => some (.discard (value.lowered t))
  | assign _ name value =>
    some (if bound.contains name.value then .update name.value (value.lowered t)
      else .declare name.value (value.lowered t))
  | missing _ => none

/-- The names that are bound behind a statement. -/
def Stmt.bound (bound : List Bytes) : Stmt → List Bytes
  | assign _ name _ => name.value :: bound
  | _ => bound

/-- The commands of statements in order. -/
def Target.commands (t : Target) (bound : List Bytes) : List Stmt → List Command
  | [] => []
  | s :: rest => (s.command? t bound).toList ++ t.commands (s.bound bound) rest

/-- The commands of a program: its statements, then one use of each bound name. -/
def Program.commands (p : Program) (t : Target) : List Command :=
  t.commands [] p.stmts ++
    (Target.firstBindings [] p.stmts).map fun name => .discard (.name name.value)

/-! ### Their tokens -/

theorem Fragment.map_text_all (span : Span) (texts : List Bytes) :
    (all span texts).map text = texts := by
  rw [all, List.map_map]
  exact List.map_id texts

namespace Target

variable {t : Target} {bound : List Bytes} {fs : List Fragment}

theorem map_text_emitShape (shape : List (Spanned Int64)) :
    (emitShape true shape).map Fragment.text =
      (shape.map fun d => Decimal.ofInt d.value.toInt).intersperse ",".utf8 := by
  cases shape with
  | nil => rfl
  | cons d rest =>
    induction rest generalizing d with
    | nil => rfl
    | cons d' rest ih => exact congrArg (Decimal.ofInt d.value.toInt :: ",".utf8 :: ·) (ih d')

theorem map_text_emitFill (t : Target) (span : Span) (value : Spanned Int32)
    (shape : List (Spanned Int64)) (dtype : Option (Spanned DType)) :
    (t.emitFill span value shape (Expr.fillDType dtype)).map Fragment.text =
      ((Expr.fill span value shape dtype).lowered t).tokens t := by
  simp only [emitFill, emitCall, List.map_append, map_text_emitShape, Fragment.map_text_all,
    Expr.lowered]
  cases hzero : value.value == 0 with
  | true => rfl
  | false => cases hone : value.value == 1 <;> rfl

theorem map_text_emitRange (t : Target) (span : Span) (first last : Spanned Int32)
    (step : Option (Spanned Int32)) :
    (t.emitRange span first last step).map Fragment.text =
      ((Expr.range span first last step).lowered t).tokens t := by
  cases step <;> rfl

theorem map_text_emitExpr {e : Expr} (h : t.emitExpr e = .ok fs) :
    fs.map Fragment.text = (e.lowered t).tokens t := by
  induction e generalizing fs with
  | fill span value shape dtype =>
    rw [emitExpr] at h
    split at h
    · cases h
    · cases h
      exact map_text_emitFill t span value shape dtype
  | range span first last step =>
    cases h
    exact map_text_emitRange t span first last step
  | var => cases h; rfl
  | binary span op lhs rhs ihl ihr =>
    obtain ⟨l, hl, hrest⟩ := Except.bind_eq_ok.mp h
    obtain ⟨r, hr, hfs⟩ := Except.bind_eq_ok.mp hrest
    rw [Expr.lowered, Value.tokens, ← ihl hl, ← ihr hr]
    by_cases hstyle : (t.operators == methodStyle) = true
    · rw [if_pos hstyle] at hfs ⊢
      cases hfs
      simp only [List.map_append, Fragment.map_text_all]
    · rw [if_neg hstyle] at hfs ⊢
      cases hfs
      simp only [List.map_append, Fragment.map_text_all]
  | missing => cases h

/-- What can be emitted is one command. -/
theorem exists_command_of_emitStmt {s : Stmt} (h : t.emitStmt bound s = .ok fs) :
    ∃ c, s.command? t bound = some c ∧ fs.map Fragment.text = c.tokens t := by
  unfold emitStmt at h
  split at h
  · cases h
  · cases s with
    | eval span value =>
      obtain ⟨body, hbody, h⟩ := Except.bind_eq_ok.mp h
      cases h
      refine ⟨_, rfl, ?_⟩
      rw [List.map_append, List.map_append, map_text_emitExpr hbody, Fragment.map_text_all,
        Fragment.map_text_all]
      rfl
    | assign span name value =>
      obtain ⟨body, hbody, h⟩ := Except.bind_eq_ok.mp h
      cases h
      refine ⟨_, rfl, ?_⟩
      rw [List.map_append, List.map_append, map_text_emitExpr hbody, Fragment.map_text_all,
        Fragment.map_text_all]
      split <;> rfl
    | missing => cases h

theorem emitStmts_cons (t : Target) (bound : List Bytes) (s : Stmt) (rest : List Stmt) :
    t.emitStmts bound (s :: rest) = (do
      let here ← t.emitStmt bound s
      let more ← t.emitStmts (s.bound bound) rest
      .ok (here ++ more)) := by
  cases s <;> rfl

theorem map_text_emitStmts {stmts : List Stmt} (h : t.emitStmts bound stmts = .ok fs) :
    fs.map Fragment.text = (t.commands bound stmts).flatMap (Command.tokens t) := by
  induction stmts generalizing bound fs with
  | nil => cases h; rfl
  | cons s rest ih =>
    rw [emitStmts_cons] at h
    obtain ⟨here, hhere, h⟩ := Except.bind_eq_ok.mp h
    obtain ⟨more, hmore, h⟩ := Except.bind_eq_ok.mp h
    cases h
    obtain ⟨c, hc, htokens⟩ := exists_command_of_emitStmt hhere
    rw [commands, hc, List.map_append, List.flatMap_append, htokens, ih hmore]
    simp only [Option.toList_some, List.flatMap_singleton]

/-- The fragments of a statement contain those of its expression. -/
theorem exists_code_of_emitStmt {s : Stmt} (h : t.emitStmt bound s = .ok fs) :
    ∃ value code, s.value? = some value ∧ t.emitExpr value = .ok code ∧ code <:+: fs := by
  unfold emitStmt at h
  split at h
  · cases h
  · cases s with
    | eval span value | assign span name value =>
      obtain ⟨code, hcode, h⟩ := Except.bind_eq_ok.mp h
      cases h
      exact ⟨value, code, rfl, hcode, List.infix_append _ _ _⟩
    | missing => cases h

theorem exists_code_of_emitStmts {stmts : List Stmt} (h : t.emitStmts bound stmts = .ok fs) :
    ∀ s ∈ stmts, ∃ value code,
      s.value? = some value ∧ t.emitExpr value = .ok code ∧ code <:+: fs := by
  induction stmts generalizing bound fs with
  | nil => nofun
  | cons first rest ih =>
    rw [emitStmts_cons] at h
    obtain ⟨here, hhere, h⟩ := Except.bind_eq_ok.mp h
    obtain ⟨more, hmore, h⟩ := Except.bind_eq_ok.mp h
    cases h
    rw [List.forall_mem_cons]
    constructor
    · obtain ⟨value, code, hvalue, hcode, hinfix⟩ := exists_code_of_emitStmt hhere
      exact ⟨value, code, hvalue, hcode, hinfix.trans (List.prefix_append _ _).isInfix⟩
    · intro s hs
      obtain ⟨value, code, hvalue, hcode, hinfix⟩ := ih hmore s hs
      exact ⟨value, code, hvalue, hcode, hinfix.trans (List.suffix_append _ _).isInfix⟩

end Target

/-- **Fragments are the tokens of commands.** -/
theorem Program.map_text_fragments {p : Program} {t : Target} {fs : List Fragment}
    (h : p.fragments t = .ok fs) :
    fs.map Fragment.text = (p.commands t).flatMap (Command.tokens t) := by
  obtain ⟨body, hbody, h⟩ := Except.bind_eq_ok.mp h
  cases h
  rw [List.map_append, Target.map_text_emitStmts hbody, commands, List.flatMap_append,
    List.map_flatMap, List.flatMap_map]
  rfl

end TensorLang
