import TensorLang.Proofs.Emit.Unambiguous
import TensorLang.Proofs.Syntax.Completeness

/-!
# Emitting loses nothing

Two programs with the same tokens are the same program, up to what the tokens do not show
(`Program.texts_eq_iff`): spans, whether the element type `f32` was written or left out, and which
number above one fills a tensor of truth values. `Expr.canonical` makes these choices, so that the
programs that cannot be told apart are those with equal canonical statements.

The uses of all bound names behind the statements look like statements of the program. That they are
not taken for such is a matter of counting: there are as many of them as there are declarations.
-/

namespace TensorLang

open Lowered (Value Command)

/-! ### What the tokens show -/

/-- The value that a tensor is filled with, as far as the tokens show it. -/
def Expr.shownFill (dtype : DType) (value : Int32) : Int32 :=
  if dtype = .bool ∧ 2 ≤ value then 2 else value

/-- The expression as far as the tokens show it. -/
def Expr.canonical : Expr → Expr
  | fill _ value shape dtype =>
    fill Span.none ⟨shownFill (fillDType dtype) value.value, Span.none⟩ (shape.map eraseSpan)
      (some ⟨fillDType dtype, Span.none⟩)
  | range _ first last step =>
    range Span.none (eraseSpan first) (eraseSpan last) (step.map eraseSpan)
  | var _ name => var Span.none name
  | binary _ op lhs rhs => binary Span.none (eraseSpan op) lhs.canonical rhs.canonical
  | missing _ => missing Span.none

/-- The statement as far as the tokens show it. -/
def Stmt.canonical : Stmt → Stmt
  | eval _ value => eval Span.none value.canonical
  | assign _ name value => assign Span.none (Expr.eraseSpan name) value.canonical
  | missing _ => missing Span.none

/-! ### Values -/

namespace Target

/-- The constructor and the literal for a fill value. -/
def fillParts (t : Target) (dtype : DType) (value : Int32) : Bytes × Option Bytes :=
  if value = 0 then (t.zeros, none)
  else if value = 1 then (t.ones, none)
  else (t.full, some (fillLiteral value dtype))

variable {t : Target}

theorem lowered_fill (t : Target) (span : Span) (value : Spanned Int32)
    (shape : List (Spanned Int64)) (dtype : Option (Spanned DType)) :
    (Expr.fill span value shape dtype).lowered t =
      .fill (t.fillParts (Expr.fillDType dtype) value.value).1 (Expr.fillDType dtype)
        (shape.map fun d => Decimal.ofInt d.value.toInt)
        (t.fillParts (Expr.fillDType dtype) value.value).2 := by
  simp only [Expr.lowered, fillParts, beq_iff_eq]
  split
  · rfl
  · split <;> rfl

/-- Fill values are zero, one, or larger. -/
theorem fillValue_cases {value : Int32} (h : 0 ≤ value) :
    value = 0 ∨ value = 1 ∨ (2 ≤ value ∧ value ≠ 0 ∧ value ≠ 1) := by
  simp only [Int32.le_iff_toInt_le, ← Int32.toInt_inj, ne_eq, Int32.reduceToInt] at h ⊢
  omega

/-- Values that are shown alike have the same constructor and literal. -/
theorem fillParts_shownFill (t : Target) (dtype : DType) (value : Int32) :
    t.fillParts dtype (Expr.shownFill dtype value) = t.fillParts dtype value := by
  unfold Expr.shownFill
  split
  · rename_i h
    obtain ⟨rfl, hlarge⟩ := h
    have hne : value ≠ 0 ∧ value ≠ 1 := by
      simp only [Int32.le_iff_toInt_le, ← Int32.toInt_inj, ne_eq, Int32.reduceToInt] at hlarge ⊢
      omega
    simp [fillParts, fillLiteral, hne.1, hne.2]
  · rfl

/-- The constructor and the literal show the value. -/
theorem shownFill_of_fillParts (ht : t.Distinct) {dtype : DType} {value value' : Int32}
    (hvalue : 0 ≤ value) (hvalue' : 0 ≤ value')
    (h : t.fillParts dtype value = t.fillParts dtype value') :
    Expr.shownFill dtype value = Expr.shownFill dtype value' := by
  have hones : t.zeros ≠ t.ones := fun heq => (List.nodup_cons.mp ht).1 (heq ▸ List.mem_cons_self)
  rcases fillValue_cases hvalue with rfl | rfl | ⟨hlarge, hzero, hone⟩
  · rcases fillValue_cases hvalue' with rfl | rfl | ⟨-, hzero', hone'⟩
    · rfl
    · exact absurd (congrArg Prod.fst h) hones
    · simp [fillParts, hzero', hone'] at h
  · rcases fillValue_cases hvalue' with rfl | rfl | ⟨-, hzero', hone'⟩
    · exact absurd (congrArg Prod.fst h).symm hones
    · rfl
    · simp [fillParts, hzero', hone'] at h
  · rcases fillValue_cases hvalue' with rfl | rfl | ⟨hlarge', hzero', hone'⟩
    · simp [fillParts, hzero, hone] at h
    · simp [fillParts, hzero, hone] at h
    · by_cases hbool : dtype = .bool
      · simp [Expr.shownFill, hbool, hlarge, hlarge']
      · have hliteral : Decimal.ofInt value.toInt = Decimal.ofInt value'.toInt := by
          simpa [fillParts, hzero, hone, hzero', hone', fillLiteral, hbool] using h
        rw [Int32.toInt_inj.mp (Decimal.ofInt_injective hliteral)]

end Target

namespace Expr

variable {t : Target}

/-- What is not shown does not matter for the value. -/
theorem lowered_canonical (t : Target) (e : Expr) : e.canonical.lowered t = e.lowered t := by
  induction e with
  | fill span value shape dtype =>
    rw [canonical, Target.lowered_fill, Target.lowered_fill, List.map_map]
    exact congrArg (fun parts : Bytes × Option Bytes => Value.fill parts.1 _ _ parts.2)
      (t.fillParts_shownFill (fillDType dtype) value.value)
  | range span first last step => cases step <;> rfl
  | var => rfl
  | binary span op lhs rhs ihl ihr =>
    rw [canonical, lowered, lowered, ihl, ihr]
    rfl
  | missing => rfl

/-- Elements with the same texts are equal up to spans. -/
theorem map_eraseSpan_of_texts {α : Type} {text : α → Bytes} (htext : Function.Injective text)
    {as bs : List (Spanned α)}
    (h : (as.map fun a => text a.value) = bs.map fun b => text b.value) :
    as.map eraseSpan = bs.map eraseSpan := by
  have hcomp : ∀ xs : List (Spanned α), (xs.map fun x => text x.value) =
      (xs.map Spanned.value).map text := fun xs => by rw [List.map_map]; rfl
  have herase : ∀ xs : List (Spanned α), xs.map eraseSpan =
      (xs.map Spanned.value).map fun value => ⟨value, Span.none⟩ := fun xs => by
    rw [List.map_map]
    rfl
  rw [hcomp, hcomp] at h
  rw [herase, herase, (List.map_inj_right fun _ _ hab => htext hab).mp h]

theorem int32Text_injective : Function.Injective fun n : Int32 => Decimal.ofInt n.toInt :=
  fun _ _ h => Int32.toInt_inj.mp (Decimal.ofInt_injective h)

theorem int64Text_injective : Function.Injective fun n : Int64 => Decimal.ofInt n.toInt :=
  fun _ _ h => Int64.toInt_inj.mp (Decimal.ofInt_injective h)

/-- **Values show their expressions.** -/
theorem canonical_of_lowered (ht : t.Distinct) {e e' : Expr} (he : e.Writable) (he' : e'.Writable)
    (h : e.lowered t = e'.lowered t) : e.canonical = e'.canonical := by
  induction e generalizing e' with
  | fill span value shape dtype =>
    cases e' with
    | fill span' value' shape' dtype' =>
      rw [Target.lowered_fill, Target.lowered_fill] at h
      obtain ⟨hconstructor, hdtype, hshape, hliteral⟩ := Value.fill.inj h
      rw [← hdtype] at hconstructor hliteral
      have hvalue := Target.shownFill_of_fillParts ht he.1 he'.1 (Prod.ext hconstructor hliteral)
      rw [canonical, canonical, hvalue, hdtype, map_eraseSpan_of_texts int64Text_injective hshape]
    | range | var | binary =>
      rw [Target.lowered_fill] at h
      cases h
    | missing => cases he'
  | range span first last step =>
    cases e' with
    | range span' first' last' step' =>
      obtain ⟨-, -, hbounds⟩ := Value.range.inj h
      have hsame := map_eraseSpan_of_texts int32Text_injective hbounds
      simp only [List.cons_append, List.nil_append, List.map_cons, List.cons.injEq] at hsame
      obtain ⟨hfirst, hlast, hstep⟩ := hsame
      have hsteps : step.map eraseSpan = step'.map eraseSpan := by
        cases step with
        | none =>
          cases step' with
          | none => rfl
          | some => cases hstep
        | some =>
          cases step' with
          | none => cases hstep
          | some => exact congrArg some (List.cons.inj hstep).1
      rw [canonical, canonical, hfirst, hlast, hsteps]
    | fill =>
      rw [Target.lowered_fill] at h
      cases h
    | var | binary => cases h
    | missing => cases he'
  | var span name =>
    cases e' with
    | var span' name' =>
      rw [canonical, canonical, Value.name.inj h]
    | fill =>
      rw [Target.lowered_fill] at h
      cases h
    | range | binary => cases h
    | missing => cases he'
  | binary span op lhs rhs ihl ihr =>
    cases e' with
    | binary span' op' lhs' rhs' =>
      obtain ⟨-, hlhs, hrhs⟩ := Value.product.inj h
      obtain ⟨hop, -, hl, hr⟩ := he
      obtain ⟨hop', -, hl', hr'⟩ := he'
      rw [canonical, canonical, ihl hl hl' hlhs, ihr hr hr' hrhs, eraseSpan, eraseSpan, hop, hop']
    | fill =>
      rw [Target.lowered_fill] at h
      cases h
    | range | var => cases h
    | missing => cases he'
  | missing => cases he

end Expr

/-! ### Names -/

namespace Target

variable {t : Target} {bound : List Bytes}

/-- A statement that can be emitted uses no name that the emitted code uses itself. -/
theorem isReserved_of_emitStmt {s : Stmt} {fs : List Fragment} (h : t.emitStmt bound s = .ok fs) :
    ∀ name ∈ s.names, t.isReserved name.value = false := by
  unfold emitStmt at h
  split at h
  · cases h
  · rename_i hfind
    intro name hname
    exact Bool.eq_false_iff.mpr (List.find?_eq_none.mp hfind name hname)

theorem isReserved_of_emitStmts {stmts : List Stmt} {fs : List Fragment}
    (h : t.emitStmts bound stmts = .ok fs) :
    ∀ s ∈ stmts, ∀ name ∈ s.names, t.isReserved name.value = false := by
  induction stmts generalizing bound fs with
  | nil => nofun
  | cons first rest ih =>
    rw [emitStmts_cons] at h
    obtain ⟨here, hhere, h⟩ := Except.bind_eq_ok.mp h
    obtain ⟨more, hmore, -⟩ := Except.bind_eq_ok.mp h
    intro s hs
    rcases List.mem_cons.mp hs with rfl | hs
    · exact isReserved_of_emitStmt hhere
    · exact ih hmore s hs

theorem exists_of_mem_firstBindings {stmts : List Stmt} {name : Spanned Bytes}
    (h : name ∈ firstBindings bound stmts) : ∃ s ∈ stmts, name ∈ s.names := by
  induction stmts generalizing bound with
  | nil => cases h
  | cons first rest ih =>
    have hrest : ∀ {bound}, name ∈ firstBindings bound rest →
        ∃ s ∈ first :: rest, name ∈ s.names := by
      intro bound h
      obtain ⟨s, hs, hname⟩ := ih h
      exact ⟨s, List.mem_cons_of_mem _ hs, hname⟩
    cases first with
    | eval => exact hrest h
    | missing => exact hrest h
    | assign span name' value =>
      rw [firstBindings] at h
      split at h
      · exact hrest h
      · rcases List.mem_cons.mp h with rfl | h
        · exact ⟨_, List.mem_cons_self, List.mem_cons_self⟩
        · exact hrest h

end Target

namespace Expr

variable {t : Target}

theorem isProduct_lowered (t : Target) (e : Expr) : (e.lowered t).isProduct = e.isBinary := by
  cases e with
  | fill => rw [Target.lowered_fill]; rfl
  | range | var | binary | missing => rfl

/-- The value of a writable expression is proper if its names are free. -/
theorem Writable.proper {e : Expr} (he : e.Writable)
    (hnames : ∀ name ∈ e.readVars, t.isReserved name.value = false) : (e.lowered t).Proper t := by
  induction e with
  | fill span value shape dtype =>
    rw [Target.lowered_fill]
    refine ⟨?_, ?_, ?_⟩
    · cases dtype with
      | none => decide
      | some dt => exact he.2.2 dt rfl
    · intro text htext
      obtain ⟨d, -, rfl⟩ := List.mem_map.mp htext
      obtain ⟨b, hb, hdigit⟩ := Decimal.exists_isDigit_mem_ofInt d.value.toInt
      rintro heq
      rw [heq] at hb
      have hbrace : "\x7d".utf8.all (fun b => !Decimal.isDigit b) = true := by decide
      have hnone := List.all_eq_true.mp hbrace b hb
      rw [hdigit] at hnone
      cases hnone
    · unfold Target.fillParts
      split
      · exact .inl ⟨rfl, by simp⟩
      · split
        · exact .inl ⟨rfl, by simp⟩
        · exact .inr ⟨⟨_, rfl⟩, rfl⟩
  | range span first last step =>
    refine ⟨rfl, ?_⟩
    cases step with
    | none => exact .inl ⟨rfl, rfl⟩
    | some => exact .inr ⟨rfl, rfl⟩
  | var span name => exact hnames _ List.mem_cons_self
  | binary span op lhs rhs ihl ihr =>
    obtain ⟨hop, hatom, hlhs, hrhs⟩ := he
    refine ⟨congrArg BinaryOp.token hop, (isProduct_lowered t rhs).trans hatom, ?_, ?_⟩
    · exact ihl hlhs fun name hname => hnames name (List.mem_append_left _ hname)
    · exact ihr hrhs fun name hname => hnames name (List.mem_append_right _ hname)
  | missing => cases he

end Expr

/-! ### Commands -/

/-- Does the command declare a name? -/
def Lowered.Command.isDeclaration : Command → Bool
  | declare .. => true
  | _ => false

namespace Stmt

variable {t : Target} {bound : List Bytes} {s s' : Stmt}

theorem command?_canonical (t : Target) (bound : List Bytes) (s : Stmt) :
    s.canonical.command? t bound = s.command? t bound := by
  cases s with
  | eval => simp only [canonical, command?, Expr.lowered_canonical]
  | assign => simp only [canonical, command?, Expr.lowered_canonical, Expr.eraseSpan]
  | missing => rfl

theorem bound_canonical (bound : List Bytes) (s : Stmt) :
    s.canonical.bound bound = s.bound bound := by
  cases s <;> rfl

theorem Writable.exists_command (t : Target) (bound : List Bytes) (hs : s.Writable) :
    ∃ c, s.command? t bound = some c := by
  cases s with
  | eval => exact ⟨_, rfl⟩
  | assign => exact ⟨_, rfl⟩
  | missing => cases hs

/-- A writable statement with free names becomes a proper command. -/
theorem Writable.proper_command (hs : s.Writable)
    (hnames : ∀ name ∈ s.names, t.isReserved name.value = false) {c : Command}
    (hc : s.command? t bound = some c) : c.Proper t := by
  cases s with
  | eval span value =>
    obtain rfl := Option.some.inj hc
    exact Expr.Writable.proper hs hnames
  | assign span name value =>
    obtain rfl := Option.some.inj hc
    have hname := hnames name List.mem_cons_self
    have hvalue := Expr.Writable.proper hs.2 fun name hname =>
      hnames name (List.mem_cons_of_mem _ hname)
    split
    · exact ⟨hname, hvalue⟩
    · exact ⟨hname, hvalue⟩
  | missing => cases hs

/-- **Commands show their statements.** -/
theorem canonical_of_command? (ht : t.Distinct) (hs : s.Writable) (hs' : s'.Writable)
    (h : s.command? t bound = s'.command? t bound) : s.canonical = s'.canonical := by
  cases s with
  | eval span value =>
    cases s' with
    | eval span' value' =>
      have hvalue := Command.discard.inj (Option.some.inj h)
      rw [canonical, canonical, Expr.canonical_of_lowered ht hs hs' hvalue]
    | assign span' name' value' =>
      simp only [command?] at h
      split at h <;> cases h
    | missing => cases hs'
  | assign span name value =>
    cases s' with
    | eval span' value' =>
      simp only [command?] at h
      split at h <;> cases h
    | assign span' name' value' =>
      have hcommand := Option.some.inj h
      -- declared or updated, a command has the name and the value of its statement
      have hparts : ∀ (b : Bool) (name : Bytes) (value : Value),
          (if b then Command.update name value else .declare name value).parts.1 = name ∧
          (if b then Command.update name value else .declare name value).parts.2.2 = value := by
        intro b name value
        cases b <;> exact ⟨rfl, rfl⟩
      have hname : name.value = name'.value := by
        rw [← (hparts _ name.value (value.lowered t)).1, hcommand, (hparts _ _ _).1]
      have hvalue : value.lowered t = value'.lowered t := by
        rw [← (hparts _ name.value (value.lowered t)).2, hcommand, (hparts _ _ _).2]
      rw [canonical, canonical, Expr.canonical_of_lowered ht hs.2 hs'.2 hvalue, Expr.eraseSpan,
        Expr.eraseSpan, hname]
    | missing => cases hs'
  | missing => cases hs

end Stmt

namespace Target

variable {t : Target} {bound : List Bytes} {stmts stmts' : List Stmt}

theorem commands_canonical (t : Target) (bound : List Bytes) (stmts : List Stmt) :
    t.commands bound (stmts.map Stmt.canonical) = t.commands bound stmts := by
  induction stmts generalizing bound with
  | nil => rfl
  | cons s rest ih =>
    rw [List.map_cons, commands, commands, Stmt.command?_canonical, Stmt.bound_canonical, ih]

theorem proper_commands (hwritable : ∀ s ∈ stmts, s.Writable)
    (hnames : ∀ s ∈ stmts, ∀ name ∈ s.names, t.isReserved name.value = false) :
    ∀ c ∈ t.commands bound stmts, c.Proper t := by
  induction stmts generalizing bound with
  | nil => nofun
  | cons s rest ih =>
    intro c hc
    rcases List.mem_append.mp hc with hc | hc
    · exact (hwritable s List.mem_cons_self).proper_command (hnames s List.mem_cons_self)
        (Option.mem_toList.mp hc)
    · exact ih (fun s hs => hwritable s (List.mem_cons_of_mem _ hs))
        (fun s hs => hnames s (List.mem_cons_of_mem _ hs)) c hc

/-- **Commands in order show the statements.** -/
theorem canonical_of_commands (ht : t.Distinct) (hwritable : ∀ s ∈ stmts, s.Writable)
    (hwritable' : ∀ s ∈ stmts', s.Writable)
    (h : t.commands bound stmts = t.commands bound stmts') :
    stmts.map Stmt.canonical = stmts'.map Stmt.canonical := by
  induction stmts generalizing bound stmts' with
  | nil =>
    cases stmts' with
    | nil => rfl
    | cons s' rest' =>
      obtain ⟨c', hc'⟩ := (hwritable' s' List.mem_cons_self).exists_command t bound
      rw [commands, commands, hc'] at h
      cases h
  | cons s rest ih =>
    have hs := hwritable s List.mem_cons_self
    obtain ⟨c, hc⟩ := hs.exists_command t bound
    cases stmts' with
    | nil =>
      rw [commands, commands, hc] at h
      cases h
    | cons s' rest' =>
      have hs' := hwritable' s' List.mem_cons_self
      obtain ⟨c', hc'⟩ := hs'.exists_command t bound
      rw [commands, commands, hc, hc'] at h
      obtain ⟨rfl, hrest⟩ := List.cons.inj h
      have hfirst := Stmt.canonical_of_command? ht hs hs' (hc.trans hc'.symm)
      have hbound : s.bound bound = s'.bound bound := by
        rw [← Stmt.bound_canonical, hfirst, Stmt.bound_canonical]
      rw [hbound] at hrest
      rw [List.map_cons, List.map_cons, hfirst,
        ih (fun s hs => hwritable s (List.mem_cons_of_mem _ hs))
          (fun s hs => hwritable' s (List.mem_cons_of_mem _ hs)) hrest]

/-- Which names are bound before does not depend on how they are listed. -/
theorem firstBindings_congr {bound' : List Bytes}
    (h : ∀ name, bound.contains name = bound'.contains name) (stmts : List Stmt) :
    firstBindings bound stmts = firstBindings bound' stmts := by
  induction stmts generalizing bound bound' with
  | nil => rfl
  | cons s rest ih =>
    cases s with
    | eval => exact ih h
    | missing => exact ih h
    | assign span name value =>
      have hcons : ∀ other, (name.value :: bound).contains other =
          (name.value :: bound').contains other := by
        intro other
        rw [List.contains_cons, List.contains_cons, h]
      rw [firstBindings, firstBindings, h, ih h, ih hcons]

theorem firstBindings_canonical (bound : List Bytes) (stmts : List Stmt) :
    firstBindings bound (stmts.map Stmt.canonical) =
      (firstBindings bound stmts).map Expr.eraseSpan := by
  induction stmts generalizing bound with
  | nil => rfl
  | cons s rest ih =>
    cases s with
    | eval => exact ih bound
    | missing => exact ih bound
    | assign span name value =>
      simp only [List.map_cons, Stmt.canonical, firstBindings, Expr.eraseSpan, ih]
      split <;> rfl

/-- There are as many declarations as names that are bound. -/
theorem countP_commands (t : Target) (bound : List Bytes) (stmts : List Stmt) :
    (t.commands bound stmts).countP Command.isDeclaration = (firstBindings bound stmts).length := by
  induction stmts generalizing bound with
  | nil => rfl
  | cons s rest ih =>
    rw [commands, List.countP_append, ih]
    cases s with
    | eval => exact Nat.zero_add _
    | missing => exact Nat.zero_add _
    | assign span name value =>
      rw [Stmt.bound, firstBindings, Stmt.command?, Option.toList_some, List.countP_singleton]
      cases hbound : bound.contains name.value with
      | false => exact Nat.add_comm _ _
      | true =>
        have hsame : ∀ other, (name.value :: bound).contains other = bound.contains other := by
          intro other
          rw [List.contains_cons]
          cases heq : other == name.value with
          | false => rfl
          | true => rw [eq_of_beq heq, hbound]; rfl
        rw [firstBindings_congr hsame]
        exact Nat.zero_add _

end Target

/-- The uses of all bound names are the end of the commands, as many as there are declarations. -/
theorem Program.commands_inj {p q : Program} {t : Target} (h : p.commands t = q.commands t) :
    t.commands [] p.stmts = t.commands [] q.stmts := by
  have huses : ∀ names : List (Spanned Bytes),
      (names.map fun name => Command.discard (.name name.value)).countP Command.isDeclaration =
        0 := by
    intro names
    rw [List.countP_map]
    exact List.countP_eq_zero.mpr fun _ _ => Bool.false_ne_true
  have hlength : (Target.firstBindings [] p.stmts).length =
      (Target.firstBindings [] q.stmts).length := by
    have hcount := congrArg (List.countP Command.isDeclaration) h
    rw [commands, commands, List.countP_append, List.countP_append, huses, huses,
      Target.countP_commands, Target.countP_commands] at hcount
    exact hcount
  exact (List.append_inj' h (by rw [List.length_map, List.length_map, hlength])).1

theorem Program.commands_of_canonical {p q : Program} {t : Target}
    (h : p.stmts.map Stmt.canonical = q.stmts.map Stmt.canonical) :
    p.commands t = q.commands t := by
  have hall : ∀ r : Program, r.commands t =
      t.commands [] (r.stmts.map Stmt.canonical) ++
        (Target.firstBindings [] (r.stmts.map Stmt.canonical)).map
          fun name => .discard (.name name.value) := by
    intro r
    rw [Target.commands_canonical, Target.firstBindings_canonical, List.map_map]
    rfl
  rw [hall p, hall q, h]

/-- The commands of a program that was read and can be emitted are proper. -/
theorem Program.proper_commands {file : Nat} {text : Bytes} {p : Program} {t : Target}
    {fs : List Fragment} (hp : Program.parse file text = .ok p) (hfs : p.fragments t = .ok fs) :
    ∀ c ∈ p.commands t, c.Proper t := by
  have hwritable := (Program.parse_eq_ok_iff.mp hp).2.writable
  obtain ⟨body, hbody, -⟩ := Except.bind_eq_ok.mp hfs
  have hnames := Target.isReserved_of_emitStmts hbody
  intro c hc
  rcases List.mem_append.mp hc with hc | hc
  · exact Target.proper_commands hwritable hnames c hc
  · obtain ⟨name, hname, rfl⟩ := List.mem_map.mp hc
    obtain ⟨s, hs, hname⟩ := Target.exists_of_mem_firstBindings hname
    exact hnames s hs name hname

/-- **Emitting loses nothing.** Two programs that were read and can be emitted have the same tokens
exactly if they are equal up to spans, up to the element type `f32` that is left out or written, and
up to which number above one fills a tensor of truth values. The constructors have to have names of
their own. -/
theorem Program.texts_eq_iff {file file' : Nat} {text text' : Bytes} {p q : Program} {t : Target}
    {fs gs : List Fragment} (ht : t.Distinct) (hp : Program.parse file text = .ok p)
    (hq : Program.parse file' text' = .ok q) (hfs : p.fragments t = .ok fs)
    (hgs : q.fragments t = .ok gs) :
    fs.map Fragment.text = gs.map Fragment.text ↔
      p.stmts.map Stmt.canonical = q.stmts.map Stmt.canonical := by
  have hwritable := (Program.parse_eq_ok_iff.mp hp).2.writable
  have hwritable' := (Program.parse_eq_ok_iff.mp hq).2.writable
  rw [map_text_fragments hfs, map_text_fragments hgs]
  constructor
  · intro h
    have hcommands := Lowered.commands_inj ht (proper_commands hp hfs) (proper_commands hq hgs) h
    exact Target.canonical_of_commands ht hwritable hwritable' (commands_inj hcommands)
  · intro h
    rw [commands_of_canonical h]

/-- The tree of a product of two filled tensors; `last` is where the second one ends. -/
private def filled (value : Int32) (last : Nat) (dtype : Option (Spanned DType)) : Program :=
  ⟨[.eval ⟨0, 0, last + 1⟩ (.binary ⟨0, 0, last⟩ ⟨.mul, ⟨0, 10, 11⟩⟩
      (.fill ⟨0, 0, 10⟩ ⟨value, ⟨0, 3, 4⟩⟩ [⟨3, ⟨0, 1, 2⟩⟩] (some ⟨.bool, ⟨0, 5, 9⟩⟩))
      (.fill ⟨0, 11, last⟩ ⟨0, ⟨0, 14, 15⟩⟩ [⟨2, ⟨0, 12, 13⟩⟩] dtype))], ⟨0, 0, last + 1⟩⟩

/-- An element type that is left out and another large number for truth values do not show. -/
theorem Program.texts_eq_iff_choices :
    ∃ p q fs gs, Program.parse 0 "[3;7;bool]*[2;0];".utf8 = .ok p ∧
      Program.parse 0 "[3;9;bool]*[2;0;f32];".utf8 = .ok q ∧
      p.fragments Target.standard = .ok fs ∧ q.fragments Target.standard = .ok gs ∧
      fs.map Fragment.text = gs.map Fragment.text := by
  have hp : Program.parse 0 "[3;7;bool]*[2;0];".utf8 = .ok (filled 7 16 none) := by
    decide +kernel
  have hq : Program.parse 0 "[3;9;bool]*[2;0;f32];".utf8 =
      .ok (filled 9 20 (some ⟨.float32, ⟨0, 16, 19⟩⟩)) := by
    decide +kernel
  have hok : ((filled 7 16 none).fragments Target.standard).isOk = true := by decide +kernel
  have hok' : ((filled 9 20 (some ⟨.float32, ⟨0, 16, 19⟩⟩)).fragments Target.standard).isOk =
      true := by
    decide +kernel
  obtain ⟨fs, hfs⟩ := Except.exists_of_isOk hok
  obtain ⟨gs, hgs⟩ := Except.exists_of_isOk hok'
  have hsame := Program.texts_eq_iff (by decide : Target.standard.Distinct) hp hq hfs hgs
  exact ⟨_, _, fs, gs, hp, hq, hfs, hgs, hsame.mpr (by decide +kernel)⟩

end TensorLang
