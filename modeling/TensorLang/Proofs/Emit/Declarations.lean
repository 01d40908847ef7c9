import TensorLang.Proofs.Emit.Elements
import TensorLang.Proofs.Emit.Faithful
import TensorLang.Proofs.Emit.Identifiers

/-!
# Declarations in emitted code

The fragments of a program fall into statements, each of which ends with the only semicolon in it
(`Program.splitOn_fragments`). They are the commands of the program, in order: one for each
statement and one for each bound name.

A name is declared where it is first bound, before anything is assigned to it, and never again, and
it is used at the end (`Program.fragments_declare`). That follows from what one statement does: its
command begins with the name that it binds, and if that name is bound already, it is no declaration
(`Target.name_of_mem_commands`, `Target.mark_of_mem_commands`).
-/

namespace TensorLang

open Lowered (Value Command)
open Emit.Token (isIdentifier isIdentifier_signs)

/-! ### Names in the order of their first bindings -/

/-- The name that a statement binds. -/
def Stmt.assigned? : Stmt → Option Bytes
  | assign _ name _ => some name.value
  | _ => none

/-- The names that statements bind, each once, in the order of their first bindings. -/
def assignedNames (stmts : List Stmt) : List Bytes := (stmts.filterMap Stmt.assigned?).eraseDups

variable {stmts : List Stmt} {name : Bytes}

theorem mem_assignedNames_iff :
    name ∈ assignedNames stmts ↔ ∃ s ∈ stmts, s.assigned? = some name := by
  rw [assignedNames, List.mem_eraseDups, List.mem_filterMap]

theorem isName_of_mem_assignedNames (hstmts : ∀ s ∈ stmts, s.Writable)
    (h : name ∈ assignedNames stmts) : Grammar.IsName name := by
  obtain ⟨s, hs, hassigned⟩ := mem_assignedNames_iff.mp h
  have hwritable := hstmts s hs
  cases s with
  | assign =>
    cases hassigned
    exact hwritable.1
  | eval | missing => cases hassigned

theorem nodup_eraseDups {α : Type} [BEq α] [LawfulBEq α] :
    ∀ as : List α, as.eraseDups.Nodup
  | [] => .nil
  | a :: as => by
    rw [List.eraseDups_cons, List.nodup_cons, List.mem_eraseDups]
    exact ⟨by simp, nodup_eraseDups _⟩
termination_by as => as.length
decreasing_by exact Nat.lt_succ_of_le (List.length_filter_le _ _)

/-- A name is assigned by some statements exactly if it is bound behind them. -/
theorem mem_foldl_bound_nil_iff :
    name ∈ stmts.foldl Stmt.bound [] ↔ name ∈ assignedNames stmts := by
  have hs : ∀ s : Stmt, name ∈ s.bound [] ↔ s.assigned? = some name := by
    intro s
    cases s <;> simp [Stmt.bound, Stmt.assigned?, eq_comm]
  simp only [mem_foldl_bound_iff, mem_assignedNames_iff, hs, List.not_mem_nil, false_or]

/-- First bindings are the names that are not bound before, without repetitions. -/
theorem Target.map_value_firstBindings (bound : List Bytes) (stmts : List Stmt) :
    (firstBindings bound stmts).map Spanned.value =
      ((stmts.filterMap Stmt.assigned?).filter fun name => !bound.contains name).eraseDups := by
  induction stmts generalizing bound with
  | nil => rfl
  | cons s rest ih =>
    cases s with
    | eval | missing => exact ih bound
    | assign span name value =>
      have hassigned : (Stmt.assign span name value).assigned? = some name.value := rfl
      rw [firstBindings, List.filterMap_cons_some hassigned]
      split_ifs with hbound
      · rw [List.filter_cons_of_neg (by simpa using hbound), ih]
      · rw [List.filter_cons_of_pos (by simpa using hbound), List.map_cons, ih,
          List.eraseDups_cons, List.filter_filter]
        -- the names to leave out are those bound before and the one just met
        congr 3
        funext other
        rw [List.contains_cons, Bool.not_or]

/-- A name that is bound has a first binding. -/
theorem exists_first_of_mem_assignedNames (h : name ∈ assignedNames stmts) :
    ∃ before span namespan value after,
      stmts = before ++ .assign span ⟨name, namespan⟩ value :: after ∧
      name ∉ assignedNames before := by
  have hfind : (stmts.find? fun s => s.assigned? == some name).isSome = true := by
    simpa using mem_assignedNames_iff.mp h
  obtain ⟨s, hs⟩ := Option.isSome_iff_exists.mp hfind
  obtain ⟨hassigned, before, after, rfl, hbefore⟩ := List.find?_eq_some_iff_append.mp hs
  cases s with
  | assign span first value =>
    obtain rfl : first.value = name := by simpa [Stmt.assigned?] using hassigned
    refine ⟨before, span, first.span, value, after, rfl, fun hmem => ?_⟩
    obtain ⟨s, hs, hassigned'⟩ := mem_assignedNames_iff.mp hmem
    simpa [hassigned'] using hbefore s hs
  | eval | missing => cases hassigned

/-! ### Commands of statements -/

/-- How the code of a statement begins, given the names that are bound before it. -/
def Stmt.opening (bound : List Bytes) : Stmt → List Bytes
  | assign _ name _ => [name.value, if name.value ∈ bound then "=".utf8 else ":=".utf8]
  | _ => ["_".utf8, "=".utf8]

theorem Stmt.opening_congr {bound bound' : List Bytes} (h : ∀ name, name ∈ bound ↔ name ∈ bound')
    (s : Stmt) : s.opening bound = s.opening bound' := by
  cases s with
  | assign => simp only [opening, h]
  | eval | missing => rfl

/-- The tokens of a command without the semicolon. -/
def Lowered.Command.line (t : Target) (c : Command) : List Bytes :=
  [c.parts.1, c.parts.2.1] ++ c.parts.2.2.tokens t

variable {t : Target} {bound : List Bytes} {c : Command}

/-- The command of a statement has the two tokens and the value that the statement gives. -/
theorem Stmt.parts_of_command? {s : Stmt} (h : s.command? t bound = some c) :
    [c.parts.1, c.parts.2.1] = s.opening bound ∧
      ∃ value, s.value? = some value ∧ c.parts.2.2 = value.lowered t := by
  cases s with
  | eval span value =>
    cases h
    exact ⟨rfl, value, rfl, rfl⟩
  | assign span name value =>
    rw [command?, Option.some.injEq] at h
    simp only [List.contains_iff_mem] at h
    rw [opening]
    split_ifs at h ⊢ with hname
    · cases h
      exact ⟨rfl, value, rfl, rfl⟩
    · cases h
      exact ⟨rfl, value, rfl, rfl⟩
  | missing => cases h

namespace Target

theorem commands_append (t : Target) (bound : List Bytes) (before after : List Stmt) :
    t.commands bound (before ++ after) =
      t.commands bound before ++ t.commands (before.foldl Stmt.bound bound) after := by
  induction before generalizing bound with
  | nil => rfl
  | cons s before ih =>
    rw [List.cons_append, commands, ih, commands, List.append_assoc]
    rfl

theorem length_commands (t : Target) (bound : List Bytes) (h : ∀ s ∈ stmts, s.Writable) :
    (t.commands bound stmts).length = stmts.length := by
  induction stmts generalizing bound with
  | nil => rfl
  | cons s rest ih =>
    rw [List.forall_mem_cons] at h
    obtain ⟨c, hc⟩ := h.1.exists_command t bound
    rw [commands, hc, List.length_append, ih (s.bound bound) h.2, List.length_cons, Nat.add_comm]
    rfl

/-- Every command comes from a statement, at names that include those bound before. -/
theorem exists_command?_of_mem_commands (h : c ∈ t.commands bound stmts) :
    ∃ s ∈ stmts, ∃ bound', bound ⊆ bound' ∧ s.command? t bound' = some c := by
  induction stmts generalizing bound with
  | nil => cases h
  | cons s rest ih =>
    rcases List.mem_append.mp h with h | h
    · exact ⟨s, List.mem_cons_self, bound, fun _ h => h, Option.mem_toList.mp h⟩
    · obtain ⟨s', hs', bound', hsubset, hc⟩ := ih h
      refine ⟨s', List.mem_cons_of_mem s hs', bound', fun name hname => hsubset ?_, hc⟩
      cases s with
      | assign => exact List.mem_cons_of_mem _ hname
      | eval | missing => exact hname

/-- A command begins with an underscore or with the name that its statement binds. -/
theorem name_of_mem_commands (h : c ∈ t.commands bound stmts) :
    c.parts.1 = "_".utf8 ∨ c.parts.1 ∈ assignedNames stmts := by
  obtain ⟨s, hs, bound', -, hc⟩ := exists_command?_of_mem_commands h
  have hopening := (Stmt.parts_of_command? hc).1
  cases s with
  | assign =>
    have hname := (List.cons.inj hopening).1
    exact .inr (mem_assignedNames_iff.mpr ⟨_, hs, congrArg some hname.symm⟩)
  | eval | missing => exact .inl (List.cons.inj hopening).1

/-- A name that is bound is not declared. -/
theorem mark_of_mem_commands (h : c ∈ t.commands bound stmts) (hname : c.parts.1 ∈ bound) :
    c.parts.2.1 = "=".utf8 := by
  obtain ⟨s, -, bound', hsubset, hc⟩ := exists_command?_of_mem_commands h
  have hopening := (Stmt.parts_of_command? hc).1
  cases s with
  | assign =>
    obtain ⟨hfirst, hmark⟩ := List.cons.inj hopening
    rw [← hfirst, if_pos (hsubset hname)] at hmark
    exact (List.cons.inj hmark).1
  | eval | missing => exact (List.cons.inj (List.cons.inj hopening).2).1

end Target

/-! ### Semicolons -/

/-- The token does not end a statement. -/
def IsInner (token : Bytes) : Prop := token ≠ ";".utf8

theorem isInner_of_isIdentifier {token : Bytes} (h : isIdentifier token = true) :
    IsInner token := by
  rintro rfl
  exact absurd h (by simp [isIdentifier_signs])

theorem isInner_ofInt (n : Int) : IsInner (Decimal.ofInt n) :=
  Decimal.ofInt_ne_of_all (by decide) n

theorem isInner_signs : IsInner ".".utf8 ∧ IsInner ",".utf8 ∧ IsInner "[".utf8 ∧
    IsInner "]".utf8 ∧ IsInner "(".utf8 ∧ IsInner ")".utf8 ∧ IsInner "\x7b".utf8 ∧
    IsInner "\x7d".utf8 ∧ IsInner BinaryOp.mul.token := by
  simp only [IsInner]
  decide

theorem isInner_marks : IsInner "_".utf8 ∧ IsInner "=".utf8 ∧ IsInner ":=".utf8 := by
  simp only [IsInner]
  decide

theorem isInner_of_isName {name : Bytes} (h : Grammar.IsName name) : IsInner name := by
  rintro rfl
  exact absurd h (by decide)

namespace Target

theorem isInner_call (ht : t.problem? = none) {constructor : Bytes} {dtype : DType}
    (hconstructor : isIdentifier constructor = true) (hdtype : dtype ∈ DType.known) :
    ∀ token ∈ [t.packageAlias, ".".utf8, constructor, "[".utf8, dtype.name, "]".utf8, "(".utf8],
      IsInner token := by
  have halias := isInner_of_isIdentifier (t.isIdentifier_packageAlias ht)
  have hname := isInner_of_isIdentifier (DType.isIdentifier_name hdtype)
  simp [halias, isInner_of_isIdentifier hconstructor, hname, isInner_signs]

theorem isInner_literal (t : Target) (dtype : DType) (value : Int32) :
    ∀ token ∈ (t.fillParts dtype value).2.toList.flatMap fun text => [text, ",".utf8],
      IsInner token := by
  have hliteral : IsInner (fillLiteral value dtype) := by
    unfold fillLiteral
    split_ifs
    · exact (by decide : "false".utf8 ≠ ";".utf8)
    · exact (by decide : "true".utf8 ≠ ";".utf8)
    · exact isInner_ofInt _
  unfold fillParts
  split_ifs
  · nofun
  · nofun
  · simp [hliteral, isInner_signs]

end Target

/-- The code of an expression has no semicolon in it. -/
theorem Expr.Writable.isInner {e : Expr} (ht : t.problem? = none) (he : e.Writable) :
    ∀ token ∈ (e.lowered t).tokens t, IsInner token := by
  have halias := isInner_of_isIdentifier (t.isIdentifier_packageAlias ht)
  have hdevice := isInner_of_isIdentifier (t.isIdentifier_deviceVar ht)
  induction e with
  | fill span value shape dtype =>
    have hcall := t.isInner_call ht (t.isIdentifier_fillParts ht (fillDType dtype) value.value)
      (fillDType_mem_known he)
    have hdims := forall_mem_dims isInner_signs.2.1 isInner_ofInt shape
    have hliteral := t.isInner_literal (fillDType dtype) value.value
    have hshapeName : IsInner "Shape".utf8 := isInner_of_isIdentifier (by decide +kernel)
    rw [Target.lowered_fill, Value.tokens]
    simp only [List.forall_mem_append]
    refine ⟨⟨⟨⟨⟨hcall, ?_⟩, hdims⟩, ?_⟩, hliteral⟩, ?_⟩
    · simp [halias, hshapeName, isInner_signs]
    · simp [isInner_signs]
    · simp [hdevice, isInner_signs]
  | range span first last step =>
    have hcall := t.isInner_call ht (t.isIdentifier_rangeConstructor ht step.isSome)
      (by decide : DType.ofRange ∈ DType.known)
    have hbounds := forall_mem_bounds isInner_signs.2.1 isInner_ofInt
      ([first, last] ++ step.toList)
    rw [lowered, Value.tokens]
    simp only [List.forall_mem_append]
    refine ⟨⟨hcall, hbounds⟩, ?_⟩
    simp [hdevice, isInner_signs]
  | var span name =>
    rw [lowered, Value.tokens, List.forall_mem_singleton]
    exact isInner_of_isName he
  | binary span op lhs rhs ihl ihr =>
    obtain ⟨hop, -, hlhs, hrhs⟩ := he
    rw [lowered, Value.tokens, hop]
    split_ifs with hstyle
    · have hmethod := isInner_of_isIdentifier (t.isIdentifier_method ht (eq_of_beq hstyle))
      simp only [List.forall_mem_append]
      refine ⟨⟨⟨ihl hlhs, ?_⟩, ihr hrhs⟩, ?_⟩
      · simp [hmethod, isInner_signs]
      · simp [isInner_signs]
    · simp only [List.forall_mem_append, List.forall_mem_singleton]
      exact ⟨⟨ihl hlhs, isInner_signs.2.2.2.2.2.2.2.2⟩, ihr hrhs⟩
  | missing => exact he.elim

theorem Stmt.Writable.isInner_opening {s : Stmt} (hs : s.Writable) (bound : List Bytes) :
    ∀ token ∈ s.opening bound, IsInner token := by
  cases s with
  | eval => simp [opening, isInner_marks]
  | assign span name value =>
    rw [opening]
    split_ifs
    · simp [isInner_of_isName hs.1, isInner_marks]
    · simp [isInner_of_isName hs.1, isInner_marks]
  | missing => exact hs.elim

theorem isInner_line_of_mem_commands (ht : t.problem? = none) (hstmts : ∀ s ∈ stmts, s.Writable)
    (hc : c ∈ t.commands bound stmts) : ∀ token ∈ c.line t, IsInner token := by
  obtain ⟨s, hs, bound', -, hc⟩ := Target.exists_command?_of_mem_commands hc
  obtain ⟨hopening, value, hvalue, hlowered⟩ := Stmt.parts_of_command? hc
  rw [Command.line, hopening, hlowered, List.forall_mem_append]
  exact ⟨(hstmts s hs).isInner_opening bound', ((hstmts s hs).of_value? hvalue).isInner ht⟩

/-- Lines that are closed by a separator can be told apart if it is in none of them. -/
theorem splitOn_closed {α : Type} [BEq α] [LawfulBEq α] {sep : α} {lines : List (List α)}
    (h : ∀ line ∈ lines, sep ∉ line) :
    (lines.flatMap fun line => line ++ [sep]).splitOn sep = lines ++ [[]] := by
  induction lines with
  | nil => exact List.splitOn_nil sep
  | cons line lines ih =>
    rw [List.forall_mem_cons] at h
    rw [List.flatMap_cons, List.append_assoc, List.singleton_append,
      List.splitOn_append_cons_self_of_not_mem h.1, ih h.2]
    rfl

/-! ### Programs -/

/-- One of the statements declares the name. No statement before it begins with the name, those
behind it that do are assignments, and one of those behind it uses the name. -/
def DeclaredOnce (name : Bytes) (out : List (List Bytes)) : Prop :=
  ∃ earlier code later, out = earlier ++ (name :: ":=".utf8 :: code) :: later ∧
    (∀ line ∈ earlier, line.head? ≠ some name) ∧
    (∀ line ∈ later, line.head? = some name → [name, "=".utf8] <+: line) ∧
    ["_".utf8, "=".utf8, name] ∈ later

/-- The statements that a program becomes. -/
structure Program.Emitted (p : Program) (t : Target) (out : List (List Bytes)) : Prop where
  /-- One for each statement of the program and one for each name that it binds. -/
  length : out.length = p.stmts.length + (assignedNames p.stmts).length
  /-- The code of a statement stands at the place of the statement. It begins with an underscore, or
  with the name and a mark that tells whether the name is bound before, and goes on with the code of
  the expression. -/
  statement : ∀ before s after, p.stmts = before ++ s :: after → ∃ value code,
    s.value? = some value ∧ t.emitExpr value = .ok code ∧
    out[before.length]? = some (s.opening (assignedNames before) ++ code.map Fragment.text)
  /-- No name is used twice at the end. -/
  names : (assignedNames p.stmts).Nodup
  /-- The names are used in the order of their first bindings. -/
  uses : out.drop p.stmts.length =
    (assignedNames p.stmts).map fun name => ["_".utf8, "=".utf8, name]
  declared : ∀ name ∈ assignedNames p.stmts, DeclaredOnce name out

namespace Program

variable {p : Program} {fs : List Fragment}

/-- The statements come first, and then the uses of their names. -/
theorem map_line_commands (p : Program) (t : Target) :
    (p.commands t).map (Command.line t) = (t.commands [] p.stmts).map (Command.line t) ++
      (assignedNames p.stmts).map fun name => ["_".utf8, "=".utf8, name] := by
  have hnames : (Target.firstBindings [] p.stmts).map Spanned.value = assignedNames p.stmts := by
    rw [Target.map_value_firstBindings, assignedNames]
    exact congrArg List.eraseDups (List.filter_eq_self.mpr fun _ _ => rfl)
  rw [commands, List.map_append, List.map_map, ← hnames, List.map_map]
  rfl

/-- **Semicolons end statements.** -/
theorem splitOn_fragments (ht : t.problem? = none) (hp : p.Writable)
    (hfs : p.fragments t = .ok fs) :
    (fs.map Fragment.text).splitOn ";".utf8 = (p.commands t).map (Command.line t) ++ [[]] := by
  have htokens : (p.commands t).flatMap (Command.tokens t) =
      ((p.commands t).map (Command.line t)).flatMap fun line => line ++ [";".utf8] := by
    rw [List.flatMap_map]
    exact congrArg (List.flatMap · _) (funext fun c => c.tokens_eq t)
  rw [map_text_fragments hfs, htokens]
  refine splitOn_closed fun line hline hmem => ?_
  suffices hinner : ∀ token ∈ line, IsInner token from hinner _ hmem rfl
  rw [map_line_commands] at hline
  rcases List.mem_append.mp hline with hline | hline
  · obtain ⟨c, hc, rfl⟩ := List.mem_map.mp hline
    exact isInner_line_of_mem_commands ht hp hc
  · obtain ⟨name, hname, rfl⟩ := List.mem_map.mp hline
    simp [isInner_of_isName (isName_of_mem_assignedNames hp hname), isInner_marks]

/-- The code around a statement. -/
theorem map_line_commands_eq_append_cons (t : Target) (hp : p.Writable) {before after : List Stmt}
    {s : Stmt} (hstmts : p.stmts = before ++ s :: after) :
    ∃ c, s.command? t (before.foldl Stmt.bound []) = some c ∧
      (p.commands t).map (Command.line t) = (t.commands [] before).map (Command.line t) ++
        c.line t ::
          ((t.commands (s.bound (before.foldl Stmt.bound [])) after).map (Command.line t) ++
            (assignedNames p.stmts).map fun name => ["_".utf8, "=".utf8, name]) := by
  obtain ⟨c, hc⟩ := (hp s (by simp [hstmts])).exists_command t (before.foldl Stmt.bound [])
  have hcommands : t.commands [] p.stmts = t.commands [] before ++
      c :: t.commands (s.bound (before.foldl Stmt.bound [])) after := by
    rw [hstmts, t.commands_append, Target.commands, hc]
    rfl
  refine ⟨c, hc, ?_⟩
  rw [map_line_commands, hcommands, List.map_append, List.map_cons, List.append_assoc,
    List.cons_append]

/-- The code of a statement stands where the statement stands in the program. -/
theorem getElem?_map_line_commands (hp : p.Writable) {before after : List Stmt} {s : Stmt}
    {value : Expr} (hstmts : p.stmts = before ++ s :: after) (hvalue : s.value? = some value) :
    ((p.commands t).map (Command.line t))[before.length]? =
      some (s.opening (assignedNames before) ++ (value.lowered t).tokens t) := by
  obtain ⟨c, hc, hlines⟩ := map_line_commands_eq_append_cons t hp hstmts
  obtain ⟨hopening, value', hvalue', hlowered⟩ := Stmt.parts_of_command? hc
  obtain rfl := Option.some.inj (hvalue.symm.trans hvalue')
  have hlength : ((t.commands [] before).map (Command.line t)).length = before.length := by
    rw [List.length_map, t.length_commands [] fun s hs => hp s (by simp [hstmts, hs])]
  have hline : c.line t = s.opening (assignedNames before) ++ (value.lowered t).tokens t := by
    rw [Command.line, hopening, hlowered, Stmt.opening_congr fun _ => mem_foldl_bound_nil_iff]
  rw [hlines, ← hlength, List.getElem?_append_right (Nat.le_refl _), Nat.sub_self,
    List.getElem?_cons_zero, hline]

/-- **Every name that the program binds is declared once.** -/
theorem declaredOnce_map_line_commands (hp : p.Writable) (hbody : t.emitStmts [] p.stmts = .ok fs)
    {name : Bytes} (hname : name ∈ assignedNames p.stmts) :
    DeclaredOnce name ((p.commands t).map (Command.line t)) := by
  obtain ⟨before, span, namespan, value, after, hstmts, hfirst⟩ :=
    exists_first_of_mem_assignedNames hname
  obtain ⟨c, hc, hlines⟩ := map_line_commands_eq_append_cons t hp hstmts
  have hline : c.line t = name :: ":=".utf8 :: c.parts.2.2.tokens t := by
    have hopening := (Stmt.parts_of_command? hc).1
    rw [Stmt.opening, if_neg (mt mem_foldl_bound_nil_iff.mp hfirst)] at hopening
    rw [Command.line, hopening]
    rfl
  have hmem : .assign span ⟨name, namespan⟩ value ∈ p.stmts := by simp [hstmts]
  have hblank : name ≠ "_".utf8 :=
    Lowered.ne_blank (Target.isReserved_of_emitStmts hbody _ hmem _ (.head _))
  rw [hline] at hlines
  refine ⟨_, _, _, hlines, ?_, ?_, List.mem_append_right _ (List.mem_map_of_mem hname)⟩
  · -- before the first binding, other names are bound
    intro line hline hhead
    obtain ⟨d, hd, rfl⟩ := List.mem_map.mp hline
    obtain rfl : d.parts.1 = name := Option.some.inj hhead
    rcases Target.name_of_mem_commands hd with hd | hd
    · exact hblank hd
    · exact hfirst hd
  · -- behind it, the name is among those that are bound
    intro line hline hhead
    rcases List.mem_append.mp hline with hline | hline
    · obtain ⟨d, hd, rfl⟩ := List.mem_map.mp hline
      obtain rfl : d.parts.1 = name := Option.some.inj hhead
      rw [Command.line, Target.mark_of_mem_commands hd List.mem_cons_self]
      exact List.prefix_append _ _
    · obtain ⟨other, -, rfl⟩ := List.mem_map.mp hline
      exact absurd (Option.some.inj hhead).symm hblank

end Program

/-- **Declarations in emitted code**: a text that is read and emitted for a target that was checked
becomes statements, each of which ends with the only semicolon in it. There is one for each
statement of the program, which declares a name where it is first bound, and afterwards one for each
name. Every name is declared once, before anything is assigned to it, and is used. -/
theorem Program.fragments_declare {file : Nat} {text : Bytes} {p : Program} {fs : List Fragment}
    (ht : t.problem? = none) (hp : Program.parse file text = .ok p)
    (hfs : p.fragments t = .ok fs) :
    ∃ out, (fs.map Fragment.text).splitOn ";".utf8 = out ++ [[]] ∧ p.Emitted t out := by
  have hwritable := (Program.parse_eq_ok_iff.mp hp).2.writable
  obtain ⟨body, hbody, -⟩ := Except.bind_eq_ok.mp hfs
  refine ⟨_, p.splitOn_fragments ht hwritable hfs, ?_, ?_, ?_, ?_, ?_⟩
  · rw [map_line_commands, List.length_append, List.length_map, List.length_map,
      t.length_commands [] hwritable]
  · intro before s after hstmts
    obtain ⟨value, code, hvalue, hcode, -⟩ :=
      Target.exists_code_of_emitStmts hbody s (by simp [hstmts])
    refine ⟨value, code, hvalue, hcode, ?_⟩
    rw [getElem?_map_line_commands hwritable hstmts hvalue, Target.map_text_emitExpr hcode]
  · exact nodup_eraseDups _
  · rw [map_line_commands, List.drop_left' (by simp [t.length_commands [] hwritable])]
  · exact fun name hname => declaredOnce_map_line_commands hwritable hbody hname

/-- The tree of `a=[2;0];b=a;a=b;a*b;`. -/
private def exchanging : Program :=
  ⟨[.assign ⟨0, 0, 8⟩ ⟨"a".utf8, ⟨0, 0, 1⟩⟩
      (.fill ⟨0, 2, 7⟩ ⟨0, ⟨0, 5, 6⟩⟩ [⟨2, ⟨0, 3, 4⟩⟩] none),
    .assign ⟨0, 8, 12⟩ ⟨"b".utf8, ⟨0, 8, 9⟩⟩ (.var ⟨0, 10, 11⟩ "a".utf8),
    .assign ⟨0, 12, 16⟩ ⟨"a".utf8, ⟨0, 12, 13⟩⟩ (.var ⟨0, 14, 15⟩ "b".utf8),
    .eval ⟨0, 16, 20⟩
      (.binary ⟨0, 16, 19⟩ ⟨.mul, ⟨0, 17, 18⟩⟩ (.var ⟨0, 16, 17⟩ "a".utf8)
        (.var ⟨0, 18, 19⟩ "b".utf8))], ⟨0, 0, 20⟩⟩

/-- A name that is bound twice, with another one in between. -/
theorem Program.fragments_declare_again :
    ∃ p fs out code, Target.standard.problem? = none ∧
      Program.parse 0 "a=[2;0];b=a;a=b;a*b;".utf8 = .ok p ∧
      p.fragments Target.standard = .ok fs ∧
      (fs.map Fragment.text).splitOn ";".utf8 = out ++ [[]] ∧
      p.Emitted Target.standard out ∧ out.length = 6 ∧
      out[2]? = some ("a".utf8 :: "=".utf8 :: code) ∧ DeclaredOnce "a".utf8 out := by
  have ht : Target.standard.problem? = none := by decide +kernel
  have hp : Program.parse 0 "a=[2;0];b=a;a=b;a*b;".utf8 = .ok exchanging := by decide +kernel
  have hok : (exchanging.fragments Target.standard).isOk = true := by decide +kernel
  obtain ⟨fs, hfs⟩ := Except.exists_of_isOk hok
  obtain ⟨out, hsplit, hout⟩ := Program.fragments_declare ht hp hfs
  obtain ⟨value, code, -, -, hthird⟩ := hout.statement [_, _] _ _ rfl
  exact ⟨exchanging, fs, out, code.map Fragment.text, ht, hp, hfs, hsplit, hout,
    hout.length.trans (by decide +kernel), hthird, hout.declared _ (by decide +kernel)⟩

end TensorLang
