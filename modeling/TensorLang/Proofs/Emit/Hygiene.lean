import TensorLang.Proofs.Emit.Faithful
import TensorLang.Proofs.Emit.Identifiers
import TensorLang.Proofs.Syntax.SourceOrder

/-!
# Names of the program and names of the emitted code

The code for a literal is a constructor call, and it uses identifiers of its own: the qualifier of
the constructors, the element type, the device, and the literal `true`. A program that uses such a
name too would change what the call means, so these names are refused. Names behind a point are not
among them: they are looked up in a package.

`Expr.freeNames_fill` and `Expr.freeNames_range` list the identifiers. All are refused but `true`,
which is written for a tensor of truth values that is filled with a number above one
(`Expr.fillsTrue`). Hence a program and the code of one of its literals share a name exactly if the
literal is such a tensor and the name is `true` (`Program.mem_freeNames_literal_iff`).
-/

namespace TensorLang

open Lowered (Value)
open Emit.Token (isIdentifier isIdentifier_signs isIdentifier_ofInt)

/-! ### Names without a qualifier -/

/-- The identifiers among the tokens that do not stand behind a point; `behindPoint` tells whether
the first token does. -/
def freeNames : (behindPoint : Bool) → List Bytes → List Bytes
  | _, [] => []
  | behindPoint, token :: rest =>
    (if isIdentifier token && !behindPoint then [token] else []) ++
      freeNames (token == ".".utf8) rest

@[simp]
theorem freeNames_nil (behindPoint : Bool) : freeNames behindPoint [] = [] := rfl

variable {token : Bytes}

theorem beq_point_of_isIdentifier (h : isIdentifier token = true) :
    (token == ".".utf8) = false := by
  rw [beq_eq_false_iff_ne]
  rintro rfl
  exact absurd h (by simp [isIdentifier_signs])

variable (rest : List Bytes)

theorem freeNames_name (h : isIdentifier token = true) :
    freeNames false (token :: rest) = token :: freeNames false rest := by
  rw [freeNames, h, beq_point_of_isIdentifier h]
  rfl

theorem freeNames_qualified (h : isIdentifier token = true) :
    freeNames false (".".utf8 :: token :: rest) = freeNames false rest := by
  rw [freeNames, isIdentifier_signs.1, beq_self_eq_true, freeNames, beq_point_of_isIdentifier h, h]
  rfl

/-- The token is neither an identifier nor a point. -/
def IsNameless (token : Bytes) : Prop := isIdentifier token = false ∧ token ≠ ".".utf8

theorem freeNames_nameless (h : IsNameless token) :
    freeNames false (token :: rest) = freeNames false rest := by
  rw [freeNames, h.1, beq_eq_false_iff_ne.mpr h.2]
  rfl

theorem freeNames_nameless_append {tokens : List Bytes} (h : ∀ token ∈ tokens, IsNameless token) :
    freeNames false (tokens ++ rest) = freeNames false rest := by
  induction tokens with
  | nil => rfl
  | cons token tokens ih =>
    rw [List.forall_mem_cons] at h
    rw [List.cons_append, freeNames_nameless _ h.1, ih h.2]

theorem isNameless_ofInt (n : Int) : IsNameless (Decimal.ofInt n) :=
  ⟨isIdentifier_ofInt n, Decimal.ofInt_ne_of_all (by decide) n⟩

theorem isNameless_signs : IsNameless ",".utf8 ∧ IsNameless "[".utf8 ∧ IsNameless "]".utf8 ∧
    IsNameless "(".utf8 ∧ IsNameless ")".utf8 ∧ IsNameless "\x7b".utf8 ∧
    IsNameless "\x7d".utf8 := by
  simp only [IsNameless, isIdentifier_signs, true_and]
  decide

/-! ### Literals -/

/-- What a program must not use: the qualifier, the device and the element types. -/
theorem Target.ne_of_isReserved_eq_false {t : Target} {name : Bytes}
    (h : t.isReserved name = false) :
    name ≠ t.packageAlias ∧ name ≠ t.deviceVar ∧ ∀ dtype ∈ DType.known, name ≠ dtype.name := by
  refine ⟨Lowered.ne_packageAlias h, ?_, fun dtype hdtype => ?_⟩
  · rintro rfl
    simp [isReserved, reserved] at h
  · have hnames : ∀ dtype ∈ DType.known, dtype.name ∈ ["float32".utf8, "float64".utf8,
        "int32".utf8, "int64".utf8, "uint8".utf8, "bool".utf8] := by decide
    rintro rfl
    have hlisted := hnames dtype hdtype
    have hmem : dtype.name ∈ t.reserved := by
      simp only [reserved, List.mem_cons, List.cons_append, List.nil_append] at hlisted ⊢
      tauto
    rw [isReserved, List.contains_iff_mem.mpr hmem] at h
    cases h

namespace Expr

variable {t : Target} {x : Expr}

/-- Is the expression a literal? -/
def isLiteral : Expr → Bool
  | fill .. | range .. => true
  | _ => false

/-- Is the expression a tensor of truth values that is filled with a number other than zero and
one? -/
def fillsTrue : Expr → Bool
  | fill _ value _ dtype => fillDType dtype == .bool && value.value != 0 && value.value != 1
  | _ => false

/-- The value that a tensor is filled with is a number, or `true`, or not written at all. -/
theorem freeNames_literal (t : Target) (dtype : DType) (value : Int32) (rest : List Bytes) :
    freeNames false ((t.fillParts dtype value).2.toList.flatMap (fun text => [text, ",".utf8]) ++
        rest) =
      (if dtype == .bool && value != 0 && value != 1 then ["true".utf8] else []) ++
        freeNames false rest := by
  -- zero and one have constructors of their own, without a literal
  by_cases hzero : value = 0
  · simp [Target.fillParts, hzero]
  by_cases hone : value = 1
  · simp [Target.fillParts, hone]
  have hparts : (t.fillParts dtype value).2 = some (Target.fillLiteral value dtype) := by
    simp [Target.fillParts, hzero, hone]
  rw [hparts]
  by_cases hbool : dtype = .bool
  · have htrue : isIdentifier "true".utf8 = true := by decide +kernel
    simp [Target.fillLiteral, hbool, hzero, hone, freeNames_name _ htrue,
      freeNames_nameless _ isNameless_signs.1]
  · simp [Target.fillLiteral, hbool, freeNames_nameless _ (isNameless_ofInt _),
      freeNames_nameless _ isNameless_signs.1]

/-- A call shows its qualifier and the element type. -/
theorem freeNames_call (ht : t.problem? = none) {constructor : Bytes} {dtype : DType}
    (hconstructor : isIdentifier constructor = true) (hdtype : dtype ∈ DType.known)
    (rest : List Bytes) :
    freeNames false ([t.packageAlias, ".".utf8, constructor, "[".utf8, dtype.name, "]".utf8,
        "(".utf8] ++ rest) = [t.packageAlias, dtype.name] ++ freeNames false rest := by
  simp [freeNames_name _ (t.isIdentifier_packageAlias ht), freeNames_qualified _ hconstructor,
    freeNames_name _ (DType.isIdentifier_name hdtype), freeNames_nameless, isNameless_signs]

/-- The identifiers of a filled tensor. -/
theorem freeNames_fill (ht : t.problem? = none) {span : Span} {value : Spanned Int32}
    {shape : List (Spanned Int64)} {dtype : Option (Spanned DType)}
    (hx : (fill span value shape dtype).Writable) :
    freeNames false (((fill span value shape dtype).lowered t).tokens t) =
      [t.packageAlias, (fillDType dtype).name, t.packageAlias] ++
        (if (fill span value shape dtype).fillsTrue then ["true".utf8] else []) ++
        [t.deviceVar] := by
  have hshapeName : isIdentifier "Shape".utf8 = true := by decide +kernel
  have hshape := forall_mem_dims isNameless_signs.1 isNameless_ofInt shape
  rw [Target.lowered_fill, Value.tokens]
  simp only [List.append_assoc]
  rw [freeNames_call ht (t.isIdentifier_fillParts ht _ _) (fillDType_mem_known hx)]
  simp [freeNames_name _ (t.isIdentifier_packageAlias ht), freeNames_qualified _ hshapeName,
    freeNames_nameless, isNameless_signs, freeNames_nameless_append _ hshape, freeNames_literal,
    freeNames_name _ (t.isIdentifier_deviceVar ht), fillsTrue]

/-- The identifiers of a range. -/
theorem freeNames_range (ht : t.problem? = none) (span : Span) (first last : Spanned Int32)
    (step : Option (Spanned Int32)) :
    freeNames false (((range span first last step).lowered t).tokens t) =
      [t.packageAlias, DType.ofRange.name, t.deviceVar] := by
  have hbounds := forall_mem_bounds isNameless_signs.1 isNameless_ofInt
    ([first, last] ++ step.toList)
  have hconstructor := t.isIdentifier_rangeConstructor ht step.isSome
  rw [lowered, Value.tokens, List.append_assoc, freeNames_call ht hconstructor (by decide),
    freeNames_nameless_append _ hbounds]
  simp [freeNames_name _ (t.isIdentifier_deviceVar ht), freeNames_nameless, isNameless_signs]

/-- **Which names of a program a literal uses**: of the names that are not refused, only `true`. -/
theorem mem_freeNames_iff (ht : t.problem? = none) (hx : x.Writable) (hliteral : x.isLiteral = true)
    {name : Bytes} (hname : t.isReserved name = false) :
    name ∈ freeNames false ((x.lowered t).tokens t) ↔
      name = "true".utf8 ∧ x.fillsTrue = true := by
  obtain ⟨halias, hdevice, hdtype⟩ := Target.ne_of_isReserved_eq_false hname
  cases x with
  | fill span value shape dtype =>
    have hknown := fillDType_mem_known hx
    rw [freeNames_fill ht hx]
    split_ifs with htrue
    · simp [halias, hdevice, hdtype _ hknown, htrue]
    · simp [halias, hdevice, hdtype _ hknown, htrue]
  | range span first last step =>
    rw [freeNames_range ht]
    simp [halias, hdevice, hdtype DType.ofRange (by decide), fillsTrue]
  | var | binary | missing => cases hliteral

end Expr

/-! ### Programs -/

namespace Target

variable {t : Target} {bound : List Bytes} {fs : List Fragment}

/-- The fragments of an expression contain those of its operands. -/
theorem isInfix_of_emitExpr {e : Expr} (h : t.emitExpr e = .ok fs) :
    ∀ x ∈ e.atoms, ∃ part, t.emitExpr x = .ok part ∧ part <:+: fs := by
  induction e generalizing fs with
  | fill | range | var => exact fun x hx => ⟨fs, List.mem_singleton.mp hx ▸ h, List.infix_rfl⟩
  | binary span op lhs rhs ihl ihr =>
    obtain ⟨l, hl, hrest⟩ := Except.bind_eq_ok.mp h
    obtain ⟨r, hr, hfs⟩ := Except.bind_eq_ok.mp hrest
    -- both styles keep the code of the operands in one piece
    have hparts : l <:+: fs ∧ r <:+: fs := by
      split_ifs at hfs
      · cases hfs
        simp only [List.append_assoc]
        exact ⟨(List.prefix_append _ _).isInfix,
          (List.infix_append' _ _ _).trans (List.suffix_append _ _).isInfix⟩
      · cases hfs
        rw [List.append_assoc]
        exact ⟨(List.prefix_append _ _).isInfix,
          (List.suffix_append _ _).isInfix.trans (List.suffix_append _ _).isInfix⟩
    rw [Expr.atoms_binary, List.forall_mem_append]
    exact ⟨fun x hx => (ihl hl x hx).imp fun _ h => ⟨h.1, h.2.trans hparts.1⟩,
      fun x hx => (ihr hr x hx).imp fun _ h => ⟨h.1, h.2.trans hparts.2⟩⟩
  | missing => cases h

/-- The fragments of statements contain those of their operands. -/
theorem isInfix_of_emitStmts {stmts : List Stmt} (h : t.emitStmts bound stmts = .ok fs) :
    ∀ s ∈ stmts, ∀ x ∈ s.atoms, ∃ part, t.emitExpr x = .ok part ∧ part <:+: fs := by
  intro s hs x hx
  obtain ⟨value, code, hvalue, hcode, hinfix⟩ := exists_code_of_emitStmts h s hs
  rw [Stmt.atoms, hvalue] at hx
  obtain ⟨part, hpart, hpartOf⟩ := isInfix_of_emitExpr hcode x hx
  exact ⟨part, hpart, hpartOf.trans hinfix⟩

end Target

/-- **Names that are captured**: in the code of a text that is read and emitted for a target that
was checked, the code of each literal stands as a whole, and a name that the program binds or reads
is an identifier of that code exactly if it is `true` and the literal is a tensor of truth values
that is filled with a number above one. -/
theorem Program.mem_freeNames_literal_iff {file : Nat} {text : Bytes} {p : Program} {t : Target}
    {fs : List Fragment} (ht : t.problem? = none) (hp : Program.parse file text = .ok p)
    (hfs : p.fragments t = .ok fs) :
    ∀ s ∈ p.stmts, ∀ x ∈ s.atoms, x.isLiteral = true →
      ∃ part, t.emitExpr x = .ok part ∧ part <:+: fs ∧
        ∀ s' ∈ p.stmts, ∀ name ∈ s'.names,
          (name.value ∈ freeNames false (part.map Fragment.text) ↔
            name.value = "true".utf8 ∧ x.fillsTrue = true) := by
  have hwritable := (Program.parse_eq_ok_iff.mp hp).2.writable
  obtain ⟨body, hbody, h⟩ := Except.bind_eq_ok.mp hfs
  cases h
  intro s hs x hx hliteral
  obtain ⟨part, hpart, hinfix⟩ := Target.isInfix_of_emitStmts hbody s hs x hx
  refine ⟨part, hpart, hinfix.trans (List.prefix_append _ _).isInfix, fun s' hs' name hname => ?_⟩
  rw [Target.map_text_emitExpr hpart]
  exact Expr.mem_freeNames_iff ht ((hwritable s hs).atoms x hx) hliteral
    (Target.isReserved_of_emitStmts hbody s' hs' name hname)

/-- The tree of `true=[2;1;bool];true*[2;5];`. -/
private def uncaptured : Program :=
  ⟨[.assign ⟨0, 0, 16⟩ ⟨"true".utf8, ⟨0, 0, 4⟩⟩
      (.fill ⟨0, 5, 15⟩ ⟨1, ⟨0, 8, 9⟩⟩ [⟨2, ⟨0, 6, 7⟩⟩] (some ⟨.bool, ⟨0, 10, 14⟩⟩)),
    .eval ⟨0, 16, 27⟩
      (.binary ⟨0, 16, 26⟩ ⟨.mul, ⟨0, 20, 21⟩⟩ (.var ⟨0, 16, 20⟩ "true".utf8)
        (.fill ⟨0, 21, 26⟩ ⟨5, ⟨0, 24, 25⟩⟩ [⟨2, ⟨0, 22, 23⟩⟩] none))], ⟨0, 0, 27⟩⟩

/-- The name `true` next to a literal that is not filled with a truth value. -/
theorem Program.mem_freeNames_literal_iff_number :
    ∃ p fs s name part, Target.standard.problem? = none ∧
      Program.parse 0 "true=[2;1;bool];true*[2;5];".utf8 = .ok p ∧
      p.fragments Target.standard = .ok fs ∧ s ∈ p.stmts ∧ name ∈ s.names ∧
      name.value = "true".utf8 ∧ part <:+: fs ∧
      Target.standard.emitExpr (.fill ⟨0, 21, 26⟩ ⟨5, ⟨0, 24, 25⟩⟩ [⟨2, ⟨0, 22, 23⟩⟩] none) =
        .ok part ∧
      name.value ∉ freeNames false (part.map Fragment.text) := by
  have ht : Target.standard.problem? = none := by decide +kernel
  have hp : Program.parse 0 "true=[2;1;bool];true*[2;5];".utf8 = .ok uncaptured := by
    decide +kernel
  have hok : (uncaptured.fragments Target.standard).isOk = true := by decide +kernel
  obtain ⟨fs, hfs⟩ := Except.exists_of_isOk hok
  obtain ⟨part, hpart, hinfix, hnames⟩ := Program.mem_freeNames_literal_iff ht hp hfs _
    (.tail _ (.head _)) _ (.tail _ (.head _)) rfl
  have hname := hnames _ (.head _) _ (.head _)
  refine ⟨uncaptured, fs, _, ⟨"true".utf8, ⟨0, 0, 4⟩⟩, part, ht, hp, hfs, .head _, .head _, rfl,
    hinfix, hpart, fun hmem => ?_⟩
  exact absurd (hname.mp hmem).2 (by decide)

/-- The tree of `true=[2;0];[2;5;bool];`. -/
private def capturing : Program :=
  ⟨[.assign ⟨0, 0, 11⟩ ⟨"true".utf8, ⟨0, 0, 4⟩⟩
      (.fill ⟨0, 5, 10⟩ ⟨0, ⟨0, 8, 9⟩⟩ [⟨2, ⟨0, 6, 7⟩⟩] none),
    .eval ⟨0, 11, 22⟩
      (.fill ⟨0, 11, 21⟩ ⟨5, ⟨0, 14, 15⟩⟩ [⟨2, ⟨0, 12, 13⟩⟩] (some ⟨.bool, ⟨0, 16, 20⟩⟩))],
    ⟨0, 0, 22⟩⟩

/-- A name that is bound in front of a literal whose code uses it: the program is emitted. -/
theorem Program.fragments_capture :
    ∃ p fs name value x part span span', Target.standard.problem? = none ∧
      Program.parse 0 "true=[2;0];[2;5;bool];".utf8 = .ok p ∧
      p.fragments Target.standard = .ok fs ∧
      p.stmts = [.assign span name value, .eval span' x] ∧ x.isLiteral = true ∧
      Target.standard.emitExpr x = .ok part ∧ part <:+: fs ∧
      name.value ∈ freeNames false (part.map Fragment.text) := by
  have hp : Program.parse 0 "true=[2;0];[2;5;bool];".utf8 = .ok capturing := by decide +kernel
  have hok : (capturing.fragments Target.standard).isOk = true := by decide +kernel
  obtain ⟨fs, hfs⟩ := Except.exists_of_isOk hok
  obtain ⟨body, hbody, h⟩ := Except.bind_eq_ok.mp hfs
  obtain ⟨part, hpart, hinfix⟩ := Target.isInfix_of_emitStmts hbody _ (.tail _ (.head _)) _
    (.head _)
  cases h
  refine ⟨capturing, _, _, _, _, part, _, _, by decide +kernel, hp, hfs, rfl, rfl, hpart,
    hinfix.trans (List.prefix_append _ _).isInfix, ?_⟩
  rw [Target.map_text_emitExpr hpart]
  decide +kernel

end TensorLang
