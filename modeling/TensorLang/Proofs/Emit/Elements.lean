import TensorLang.Proofs.Emit.Lowered
import TensorLang.Proofs.Syntax.Completeness
import TensorLang.Proofs.Text.Decimal
import TensorLang.Proofs.Typing.Origins

/-!
# Element types of emitted code

In the emitted code a name has the element type of the value it is declared with, for good, while
the checker lets every assignment replace what it knows about the name. So a program without type
errors need not become consistent code. It does exactly if no assignment replaces the element type
of a name by another one (`Program.fragments_consistent_iff`): then the names have the same element
types on both sides, which is what `Lowered.Agree` keeps from statement to statement.

Literals are numbers below `2 ^ 31` and are constants of all element types but the one of bytes.
-/

namespace TensorLang

open Lowered (Value Command)

/-! ### Consistent code -/

namespace Lowered

/-- The element types of the declared names. -/
abbrev Env := List (Bytes × DType)

/-- The element type of a value. A product has one only if its operands have the same. -/
def Value.elem? (env : Env) : Value → Option DType
  | fill _ elem _ _ | range _ elem _ => some elem
  | name text => env.lookup text
  | product _ lhs rhs => if lhs.elem? env = rhs.elem? env then lhs.elem? env else none

/-- The element types behind a command. A value needs an element type, and a name that was declared
keeps the one it has. -/
def Command.declared (env : Env) : Command → Option Env
  | declare name value => (value.elem? env).map fun dt => (name, dt) :: env
  | update name value =>
    (value.elem? env).bind fun dt => if env.lookup name = some dt then some env else none
  | discard value => (value.elem? env).map fun _ => env

/-- Do the element types of all names stay as they were declared? -/
def consistent (commands : List Command) : Bool := (commands.foldlM Command.declared []).isSome

/-- The literals in a value, each with the element type that is asked for. -/
def Value.literals : Value → List (DType × Bytes)
  | fill _ elem _ literal => literal.toList.map (elem, ·)
  | product _ lhs rhs => lhs.literals ++ rhs.literals
  | _ => []

/-- The value of a command. -/
def Command.value : Command → Value
  | declare _ value | update _ value | discard value => value

end Lowered

/-- The first natural number that is no constant of the element type. A constant of a floating-point
type is rounded, so it may exceed the largest number by less than half a step. -/
def DType.limit : DType → Nat
  | float32 => Nat.pow 2 128 - Nat.pow 2 103
  | float64 => Nat.pow 2 1024 - Nat.pow 2 970
  | int32 => 2147483648
  | int64 => 9223372036854775808
  | uint8 => 256
  | bool | other _ => 0

/-- The literal is a constant of the element type. -/
def DType.Represents (dt : DType) (literal : Bytes) : Prop :=
  if dt = bool then literal = "true".utf8 ∨ literal = "false".utf8
  else Grammar.IsNumber literal ∧ Decimal.value literal < dt.limit

/-! ### Programs -/

/-- The names that a statement reads. -/
def Stmt.reads (s : Stmt) : List (Spanned Bytes) := s.value?.elim [] Expr.readVars

/-- Every name is bound where it is read. -/
def usesBound (bound : List Bytes) : List Stmt → Bool
  | [] => true
  | s :: rest =>
    s.reads.all (fun name => bound.contains name.value) && usesBound (s.bound bound) rest

/-- The statement gives no name another element type than the table has. -/
def Stmt.keepsDType (t : SymbolTable) : Stmt → Bool
  | assign _ name value =>
    match t.lookup name.value with
    | some entry => entry.ty.map Ty.dtype == (value.infer t).ty.map Ty.dtype
    | none => true
  | _ => true

/-- No statement gives a name another element type than it has when the statement is reached. -/
def keepDTypes (t : SymbolTable) : List Stmt → Bool
  | [] => true
  | s :: rest => s.keepsDType t && keepDTypes (s.check t).table rest

/-! ### Names on both sides -/

namespace Lowered

variable {bound : List Bytes} {env env' : Env} {t : SymbolTable}

/-- The checker and the emitted code have the same names, with the same element types. -/
structure Agree (bound : List Bytes) (env : Env) (t : SymbolTable) : Prop where
  of_mem : ∀ name ∈ bound, ∃ shape dt span,
    t.lookup name = some ⟨some (.tensor shape dt), span⟩ ∧ env.lookup name = some dt
  of_notMem : ∀ name ∉ bound, t.lookup name = none

theorem Agree.empty : Agree [] [] SymbolTable.empty := ⟨nofun, fun _ _ => rfl⟩

/-- A name is bound on both sides. -/
theorem Agree.bind {name : Bytes} {shape : Shape} {dt : DType} {span : Span}
    (h : Agree bound env t) (hself : env'.lookup name = some dt)
    (hother : ∀ other ≠ name, env'.lookup other = env.lookup other) :
    Agree (name :: bound) env' (t.bind name (some (.tensor shape dt)) span) := by
  refine ⟨fun other hmem => ?_, fun other hmem => ?_⟩
  · by_cases heq : other = name
    · subst heq
      exact ⟨shape, dt, span, SymbolTable.lookup_bind_self .., hself⟩
    · rw [SymbolTable.lookup_bind_of_ne heq, hother other heq]
      exact h.of_mem other (List.mem_of_ne_of_mem heq hmem)
  · rw [List.mem_cons, not_or] at hmem
    rw [SymbolTable.lookup_bind_of_ne hmem.1]
    exact h.of_notMem other hmem.2

end Lowered

open Lowered (Agree Env)

variable {bound : List Bytes} {env : Env} {t : SymbolTable}

/-- An expression without errors has the same element type on both sides. -/
theorem Expr.exists_elem {e : Expr} (target : Target) (hagree : Agree bound env t) (he : e.Writable)
    (hreads : ∀ name ∈ e.readVars, name.value ∈ bound)
    (herrors : Finding.errors (e.infer t).findings = []) :
    ∃ shape dt, (e.infer t).ty = some (.tensor shape dt) ∧
      (e.lowered target).elem? env = some dt := by
  induction e with
  | fill span value shape dtype =>
    refine ⟨_, _, rfl, ?_⟩
    simp only [lowered]
    split_ifs <;> rfl
  | range => exact ⟨_, _, rfl, rfl⟩
  | var span name =>
    have hmem : name ∈ bound := hreads ⟨name, span⟩ List.mem_cons_self
    obtain ⟨shape, dt, span, hlookup, henv⟩ := hagree.of_mem name hmem
    exact ⟨shape, dt, by rw [infer, hlookup], henv⟩
  | missing => exact he.elim
  | binary span op lhs rhs ihl ihr =>
    obtain ⟨hop, -, hlhs, hrhs⟩ := he
    simp only [readVars, List.mem_append, or_imp, forall_and] at hreads
    have ihl := ihl hlhs hreads.1
    have ihr := ihr hrhs hreads.2
    -- without errors the operands have types, so only the last case is left
    rcases infer_binary_cases t span op lhs rhs with
      ⟨hnone, -, hfindings⟩ | ⟨hnone, -, hfindings⟩ | ⟨hother, -⟩ | ⟨lt, rt, hl, hr, hcases⟩
    · rw [hfindings] at herrors
      obtain ⟨_, _, hty, -⟩ := ihl herrors
      rw [hnone] at hty
      cases hty
    · rw [hfindings, Finding.errors_append, List.append_eq_nil_iff] at herrors
      obtain ⟨_, _, hty, -⟩ := ihr herrors.2
      rw [hnone] at hty
      cases hty
    · exact absurd hop hother
    · split at hcases
      · rename_i ty hty
        rw [hcases.2, Finding.errors_append, List.append_eq_nil_iff] at herrors
        obtain ⟨ls, ld, hlty, hlelem⟩ := ihl herrors.1
        obtain ⟨rs, rd, hrty, hrelem⟩ := ihr herrors.2
        obtain rfl := Option.some.inj (hl.symm.trans hlty)
        obtain rfl := Option.some.inj (hr.symm.trans hrty)
        obtain ⟨rfl, shape, rfl⟩ := Ty.multiply_tensor_eq_ok hty
        refine ⟨shape, ld, hcases.1, ?_⟩
        rw [lowered, Value.elem?, hlelem, hrelem, if_pos rfl]
      · rw [hcases.2, Finding.errors_append, List.append_eq_nil_iff] at herrors
        cases herrors.2

/-! ### Statements -/

/-- **One statement**: its command keeps the agreement if the statement keeps the element type that
the table has, and is refused otherwise. -/
theorem Stmt.declared_command {s : Stmt} (target : Target) (hagree : Agree bound env t)
    (hs : s.Writable) (hreads : ∀ name ∈ s.reads, name.value ∈ bound)
    (herrors : Finding.errors (s.check t).findings = []) :
    ∃ c, s.command? target bound = some c ∧
      (s.keepsDType t = true →
        ∃ env', c.declared env = some env' ∧ Agree (s.bound bound) env' (s.check t).table) ∧
      (s.keepsDType t = false → c.declared env = none) := by
  cases s with
  | eval span value =>
    obtain ⟨shape, dt, -, helem⟩ := value.exists_elem target hagree hs hreads herrors
    have hdiscard : (Command.discard (value.lowered target)).declared env = some env := by
      rw [Command.declared, helem]
      rfl
    refine ⟨_, rfl, fun _ => ⟨env, hdiscard, hagree⟩, fun hkeep => ?_⟩
    cases hkeep
  | assign span name value =>
    rw [errors_check t rfl] at herrors
    obtain ⟨shape, dt, hty, helem⟩ := value.exists_elem target hagree hs.2 hreads herrors
    have htable : ((assign span name value).check t).table =
        t.bind name.value (some (.tensor shape dt)) value.span := by
      rw [check, hty]
    refine ⟨_, rfl, ?_⟩
    rw [htable, keepsDType, hty]
    by_cases hbound : name.value ∈ bound
    -- the name is updated, and the code has the element type that is on record
    · obtain ⟨shape', dt', span', hlookup, henv⟩ := hagree.of_mem name.value hbound
      rw [hlookup, if_pos (List.contains_iff_mem.mpr hbound)]
      have hupdate : (Command.update name.value (value.lowered target)).declared env =
          if dt' = dt then some env else none := by
        simp [Command.declared, helem, henv]
      rw [hupdate]
      by_cases hdt : dt' = dt
      · subst hdt
        exact ⟨fun _ => ⟨env, if_pos rfl, hagree.bind henv fun _ _ => rfl⟩, by simp [Ty.dtype]⟩
      · exact ⟨by simp [Ty.dtype, hdt], fun _ => if_neg hdt⟩
    -- the name is declared, and nothing is on record
    · rw [hagree.of_notMem name.value hbound, if_neg (by simpa using hbound)]
      have hdeclare : (Command.declare name.value (value.lowered target)).declared env =
          some ((name.value, dt) :: env) := by
        rw [Command.declared, helem]
        rfl
      refine ⟨fun _ => ⟨_, hdeclare, ?_⟩, fun hkeep => ?_⟩
      · refine hagree.bind List.lookup_cons_self fun other hother => ?_
        rw [List.lookup_cons, beq_eq_false_iff_ne.mpr hother]
      · cases hkeep
  | missing => exact hs.elim

/-- **All statements**, by induction on them. -/
theorem foldlM_declared_commands {stmts : List Stmt} (target : Target) (hagree : Agree bound env t)
    (hwritable : ∀ s ∈ stmts, s.Writable) (huses : usesBound bound stmts = true)
    (herrors : Finding.errors (checkStmts t stmts).findings = []) :
    (keepDTypes t stmts = true →
      ∃ env', (target.commands bound stmts).foldlM Command.declared env = some env' ∧
        Agree (stmts.foldl Stmt.bound bound) env' (checkStmts t stmts).symbols) ∧
    (keepDTypes t stmts = false →
      (target.commands bound stmts).foldlM Command.declared env = none) := by
  induction stmts generalizing bound env t with
  | nil =>
    refine ⟨fun _ => ⟨env, rfl, hagree⟩, fun hkeep => ?_⟩
    cases hkeep
  | cons s rest ih =>
    rw [List.forall_mem_cons] at hwritable
    rw [usesBound, Bool.and_eq_true, List.all_eq_true] at huses
    rw [checkStmts, Finding.errors_append, List.append_eq_nil_iff] at herrors
    simp only [List.contains_iff_mem] at huses
    obtain ⟨c, hc, hkeep, hdrop⟩ :=
      Stmt.declared_command target hagree hwritable.1 huses.1 herrors.1
    rw [Target.commands, hc, keepDTypes]
    cases hs : s.keepsDType t with
    | false =>
      refine ⟨fun hkeep => ?_, fun _ => ?_⟩
      · cases hkeep
      · simp [hdrop hs]
    | true =>
      obtain ⟨env', hstep, hagree'⟩ := hkeep hs
      have ih := ih hagree' hwritable.2 huses.2 herrors.2
      rw [Option.toList_some, List.singleton_append, List.foldlM_cons, hstep, Bool.true_and]
      exact ih

/-- Names that are bound can be used. -/
theorem Lowered.Agree.foldlM_uses {names : List (Spanned Bytes)} (hagree : Agree bound env t)
    (hnames : ∀ name ∈ names, name.value ∈ bound) :
    (names.map fun name => Command.discard (.name name.value)).foldlM Command.declared env =
      some env := by
  induction names with
  | nil => rfl
  | cons name rest ih =>
    rw [List.forall_mem_cons] at hnames
    obtain ⟨-, dt, -, -, henv⟩ := hagree.of_mem name.value hnames.1
    have hstep : (Command.discard (.name name.value)).declared env = some env := by
      rw [Command.declared, Value.elem?, henv]
      rfl
    rw [List.map_cons, List.foldlM_cons, hstep]
    exact ih hnames.2

/-- The names that are bound behind some statements. -/
theorem mem_foldl_bound_iff {stmts : List Stmt} {name : Bytes} :
    name ∈ stmts.foldl Stmt.bound bound ↔ name ∈ bound ∨ ∃ s ∈ stmts, name ∈ s.bound [] := by
  induction stmts generalizing bound with
  | nil => simp
  | cons s rest ih =>
    have hs : name ∈ s.bound bound ↔ name ∈ bound ∨ name ∈ s.bound [] := by
      cases s <;> simp [Stmt.bound, or_comm]
    simp only [List.foldl_cons, ih, hs, List.mem_cons, exists_eq_or_imp, or_assoc]

/-- A name that is bound somewhere is bound at the end. -/
theorem Target.mem_foldl_bound (stmts : List Stmt) (bound : List Bytes) :
    ∀ name ∈ firstBindings bound stmts, name.value ∈ stmts.foldl Stmt.bound bound := by
  induction stmts generalizing bound with
  | nil => nofun
  | cons s rest ih =>
    cases s with
    | eval | missing => exact ih bound
    | assign span name value =>
      intro other hother
      rw [firstBindings] at hother
      split_ifs at hother
      · obtain hmem | ⟨s, hs, hmem⟩ := mem_foldl_bound_iff.mp (ih bound other hother)
        · exact mem_foldl_bound_iff.mpr (.inl hmem)
        · exact mem_foldl_bound_iff.mpr (.inr ⟨s, List.mem_cons_of_mem _ hs, hmem⟩)
      · rcases List.mem_cons.mp hother with rfl | hother
        · exact mem_foldl_bound_iff.mpr (.inr ⟨_, List.mem_cons_self, List.mem_cons_self⟩)
        · exact ih (name.value :: bound) other hother

/-! ### Literals -/

/-- Numbers of 32 bits are constants of every element type that has room for them. -/
theorem DType.represents_fillLiteral {dt : DType} {value : Int32} (hdt : dt ∈ DType.known)
    (hvalue : 0 ≤ value)
    (hbyte : dt = .uint8 → Decimal.value (Target.fillLiteral value dt) < 256) :
    dt.Represents (Target.fillLiteral value dt) := by
  by_cases hbool : dt = bool
  · subst hbool
    rw [Represents, if_pos rfl, Target.fillLiteral]
    cases value == 0
    · exact .inl rfl
    · exact .inr rfl
  · obtain ⟨n, hn⟩ := Int.eq_ofNat_of_zero_le (Int32.le_iff_toInt_le.mp hvalue)
    have hlt : n < 2147483648 := by
      have := value.toInt_lt
      omega
    have hliteral : Target.fillLiteral value dt = Decimal.ofNat n := by
      rw [Target.fillLiteral, if_neg (by simpa using hbool), hn]
      rfl
    rw [hliteral, Decimal.value_ofNat] at hbyte
    rw [Represents, if_neg hbool, hliteral, Decimal.value_ofNat]
    refine ⟨⟨Decimal.ofNat_ne_nil n, fun b hb => Decimal.isDigit_of_mem_ofNat hb⟩, ?_⟩
    by_cases hdtype : dt = uint8
    · subst hdtype
      exact hbyte rfl
    · have hroom : ∀ dt ∈ DType.known, dt ≠ bool → dt ≠ uint8 → 2147483648 ≤ dt.limit := by
        decide +kernel
      exact Nat.lt_of_lt_of_le hlt (hroom dt hdt hbool hdtype)

theorem Expr.represents_literals {e : Expr} (target : Target) (he : e.Writable) :
    ∀ literal ∈ (e.lowered target).literals,
      (literal.1 = .uint8 → Decimal.value literal.2 < 256) → literal.1.Represents literal.2 := by
  induction e with
  | fill span value shape dtype =>
    obtain ⟨hvalue, -, hdtype⟩ := he
    have hknown : fillDType dtype ∈ DType.known := by
      cases dtype with
      | none => decide
      | some dt => exact hdtype dt rfl
    rw [lowered]
    split_ifs
    · exact fun _ h => absurd h List.not_mem_nil
    · exact fun _ h => absurd h List.not_mem_nil
    · intro literal hliteral
      obtain rfl := List.mem_singleton.mp hliteral
      exact DType.represents_fillLiteral hknown hvalue
  | range | var => exact fun _ h => absurd h List.not_mem_nil
  | binary span op lhs rhs ihl ihr =>
    obtain ⟨-, -, hlhs, hrhs⟩ := he
    intro literal hmem
    exact (List.mem_append.mp hmem).elim (ihl hlhs literal) (ihr hrhs literal)
  | missing => exact he.elim

/-- The values of commands come from the expressions of statements. -/
theorem Target.exists_of_mem_commands {target : Target} {stmts : List Stmt} {c : Command}
    (h : c ∈ target.commands bound stmts) :
    ∃ s ∈ stmts, ∃ value, s.value? = some value ∧ c.value = value.lowered target := by
  induction stmts generalizing bound with
  | nil => cases h
  | cons s rest ih =>
    rcases List.mem_append.mp h with h | h
    · have hc := Option.mem_toList.mp h
      cases s with
      | eval span value =>
        cases hc
        exact ⟨_, List.mem_cons_self, value, rfl, rfl⟩
      | assign span name value =>
        refine ⟨_, List.mem_cons_self, value, rfl, ?_⟩
        rw [Stmt.command?] at hc
        split_ifs at hc <;> cases hc <;> rfl
      | missing => cases hc
    · obtain ⟨s', hs', hvalue⟩ := ih h
      exact ⟨s', List.mem_cons_of_mem s hs', hvalue⟩

/-! ### Programs -/

/-- **Element types of emitted code**: a text that is read and checked without errors, and that
binds every name before it reads it, becomes consistent code exactly if its assignments keep the
element types of names. Every literal is a constant of the element type it is given to, if that has
room for numbers of 32 bits or the number is small. -/
theorem Program.fragments_consistent_iff {file : Nat} {text : Bytes} {p : Program}
    {target : Target} {fs : List Fragment} (hp : Program.parse file text = .ok p)
    (hcheck : (Program.check (some p)).errors = []) (hbound : usesBound [] p.stmts = true)
    (hfs : p.fragments target = .ok fs) :
    fs.map Fragment.text = (p.commands target).flatMap (Command.tokens target) ∧
    (Lowered.consistent (p.commands target) = true ↔
      keepDTypes SymbolTable.empty p.stmts = true) ∧
    ∀ c ∈ p.commands target, ∀ literal ∈ c.value.literals,
      (literal.1 = .uint8 → Decimal.value literal.2 < 256) → literal.1.Represents literal.2 := by
  have hwritable := (Program.parse_eq_ok_iff.mp hp).2.writable
  refine ⟨Program.map_text_fragments hfs, ?_, fun c hc => ?_⟩
  · obtain ⟨hkeep, hdrop⟩ := foldlM_declared_commands target .empty hwritable hbound hcheck
    rw [Lowered.consistent, Program.commands, List.foldlM_append]
    cases hkeeps : keepDTypes SymbolTable.empty p.stmts with
    | false => simp [hdrop hkeeps]
    | true =>
      obtain ⟨env, hrun, hagree⟩ := hkeep hkeeps
      have huses := hagree.foldlM_uses (Target.mem_foldl_bound p.stmts [])
      simp [hrun, huses]
  · rcases List.mem_append.mp hc with hc | hc
    · obtain ⟨s, hs, value, hvalue, hc⟩ := Target.exists_of_mem_commands hc
      rw [hc]
      exact Expr.represents_literals target ((hwritable s hs).of_value? hvalue)
    · obtain ⟨name, -, rfl⟩ := List.mem_map.mp hc
      exact fun _ h => absurd h List.not_mem_nil

/-- The tree of `a=[2x2;7;u8];a=a*a;`. -/
private def squaring : Program :=
  ⟨[.assign ⟨0, 0, 13⟩ ⟨"a".utf8, ⟨0, 0, 1⟩⟩
      (.fill ⟨0, 2, 12⟩ ⟨7, ⟨0, 7, 8⟩⟩ [⟨2, ⟨0, 3, 4⟩⟩, ⟨2, ⟨0, 5, 6⟩⟩]
        (some ⟨.uint8, ⟨0, 9, 11⟩⟩)),
    .assign ⟨0, 13, 19⟩ ⟨"a".utf8, ⟨0, 13, 14⟩⟩
      (.binary ⟨0, 15, 18⟩ ⟨.mul, ⟨0, 16, 17⟩⟩ (.var ⟨0, 15, 16⟩ "a".utf8)
        (.var ⟨0, 17, 18⟩ "a".utf8))], ⟨0, 0, 19⟩⟩

/-- A name that is bound again at the element type it has. -/
theorem Program.fragments_consistent_iff_product :
    ∃ p fs, Program.parse 0 "a=[2x2;7;u8];a=a*a;".utf8 = .ok p ∧
      (Program.check (some p)).errors = [] ∧ usesBound [] p.stmts = true ∧
      p.fragments Target.standard = .ok fs ∧ keepDTypes SymbolTable.empty p.stmts = true ∧
      Lowered.consistent (p.commands Target.standard) = true := by
  have hp : Program.parse 0 "a=[2x2;7;u8];a=a*a;".utf8 = .ok squaring := by decide +kernel
  have hcheck : (Program.check (some squaring)).errors = [] := by decide +kernel
  have hbound : usesBound [] squaring.stmts = true := by decide +kernel
  have hkeep : keepDTypes SymbolTable.empty squaring.stmts = true := by decide +kernel
  have hok : (squaring.fragments Target.standard).isOk = true := by decide +kernel
  obtain ⟨fs, hfs⟩ := Except.exists_of_isOk hok
  obtain ⟨-, hconsistent, -⟩ := Program.fragments_consistent_iff hp hcheck hbound hfs
  exact ⟨squaring, fs, hp, hcheck, hbound, hfs, hkeep, hconsistent.mpr hkeep⟩

/-- The tree of `a=[2;300;u8];a=[2;0];`. -/
private def replacing : Program :=
  ⟨[.assign ⟨0, 0, 13⟩ ⟨"a".utf8, ⟨0, 0, 1⟩⟩
      (.fill ⟨0, 2, 12⟩ ⟨300, ⟨0, 5, 8⟩⟩ [⟨2, ⟨0, 3, 4⟩⟩] (some ⟨.uint8, ⟨0, 9, 11⟩⟩)),
    .assign ⟨0, 13, 21⟩ ⟨"a".utf8, ⟨0, 13, 14⟩⟩
      (.fill ⟨0, 15, 20⟩ ⟨0, ⟨0, 18, 19⟩⟩ [⟨2, ⟨0, 16, 17⟩⟩] none)], ⟨0, 0, 21⟩⟩

/-- A name that is bound again at another element type, and a number that is no byte: the checker
finds no error, but the code is not consistent, and the literal is no constant of its type. -/
theorem Program.fragments_inconsistent :
    ∃ p fs, Program.parse 0 "a=[2;300;u8];a=[2;0];".utf8 = .ok p ∧
      (Program.check (some p)).errors = [] ∧ usesBound [] p.stmts = true ∧
      p.fragments Target.standard = .ok fs ∧
      fs.map Fragment.text =
        (p.commands Target.standard).flatMap (Command.tokens Target.standard) ∧
      Lowered.consistent (p.commands Target.standard) = false ∧
      ∃ c ∈ p.commands Target.standard, ∃ literal ∈ c.value.literals,
        ¬ literal.1.Represents literal.2 := by
  have hok : (replacing.fragments Target.standard).isOk = true := by decide +kernel
  obtain ⟨fs, hfs⟩ := Except.exists_of_isOk hok
  refine ⟨replacing, fs, by decide +kernel, by decide +kernel, by decide +kernel, hfs,
    Program.map_text_fragments hfs, by decide +kernel, ?_⟩
  refine ⟨.declare "a".utf8 (.fill "Full".utf8 .uint8 ["2".utf8] (some "300".utf8)),
    by decide +kernel, (.uint8, "300".utf8), by decide +kernel, ?_⟩
  rintro ⟨-, hlt⟩
  exact absurd hlt (by decide +kernel)

end TensorLang
