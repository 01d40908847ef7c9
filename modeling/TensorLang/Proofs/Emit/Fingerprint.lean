import Mathlib.Tactic.Common
import TensorLang.Emit.Wrapper
import TensorLang.Proofs.Text.Pieces
import TensorLang.Proofs.Syntax.Exactness
import TensorLang.Proofs.Syntax.Writable
import TensorLang.Proofs.Text.Validity

/-!
# What the record of a target tells

Emitted code is kept under the hash of the target's record, so the record has to tell everything on
which the code depends. It is a list of fields, each closed by a zero byte, and a zero byte inside a
field could be taken for its end. In a target that was checked no zero byte stands in a path, a
name, the device or the style of operators (`zero_not_mem_settings`); hence two targets of one
record agree in all of these, and so in the file around a program and in the code for everything but
operators that are method calls.

Of the methods only those for the operators of the language are checked, and other entries may hold
zero bytes. `sameCode_of_record_eq` says that the method for products is all that can differ, and
that it cannot without zero bytes; `record_ambiguous` gives two targets of one record in which it
does.
-/

namespace TensorLang

/-! ### Zero bytes -/

namespace Utf8

theorem isTail_ne_zero {b : UInt8} (h : isTail b = true) : 0 ≠ b := by
  rintro rfl
  exact absurd h (by decide)

theorem isSecond_ne_zero {a b : UInt8} (h : isSecond a b = true) : 0 ≠ b := by
  rintro rfl
  unfold isSecond secondRange at h
  split_ifs at h <;> exact absurd h (by decide)

/-- A zero byte is part of no longer code point. -/
theorem decode_eq_zero_of_mem {text : Bytes} (h : 0 ∈ text.take (decode text).2) :
    (decode text).1 = 0 := by
  have hlead {a : UInt8} (ha : ¬ a < 0x80) : 0 ≠ a := by
    rintro rfl
    exact ha (by decide)
  revert h
  fun_cases decode text with
  | case1 => simp
  | case2 a rest ha => simp +contextual [eq_comm]
  | case3 a ha _ b rest hb => simp [hlead ha, isTail_ne_zero hb]
  | case6 a ha _ _ b c rest hbytes =>
    obtain ⟨hb, hc⟩ := Bool.and_eq_true_iff.mp hbytes
    simp [hlead ha, isSecond_ne_zero hb, isTail_ne_zero hc]
  | case9 a ha _ _ _ b c d rest hbytes =>
    obtain ⟨hbc, hd⟩ := Bool.and_eq_true_iff.mp hbytes
    obtain ⟨hb, hc⟩ := Bool.and_eq_true_iff.mp hbc
    simp [hlead ha, isSecond_ne_zero hb, isTail_ne_zero hc, isTail_ne_zero hd]
  | case4 a ha | case5 a rest ha | case7 a ha | case8 a rest ha | case10 a ha | case11 a rest ha
  | case12 a rest ha => simp [hlead ha]

theorem exists_mem_split_of_zero_mem {text : Bytes} (h : 0 ∈ text) :
    ∃ piece ∈ split text, piece.1 = 0 := by
  fun_induction split text with
  | case1 => cases h
  | case2 a rest code size hdecode ih =>
    have hsize := decode_size_pos a rest
    have hzero := @decode_eq_zero_of_mem (a :: rest)
    rw [hdecode] at hsize hzero
    -- the zero byte is in the first code point or behind it
    rw [← List.take_append_drop size (a :: rest)] at h
    rcases List.mem_append.mp h with h | h
    · exact ⟨_, List.mem_cons_self, hzero h⟩
    · obtain ⟨n, rfl⟩ := Nat.exists_eq_succ_of_ne_zero hsize.ne'
      obtain ⟨piece, hpiece, hcode⟩ := ih h
      exact ⟨piece, List.mem_cons_of_mem _ hpiece, hcode⟩

theorem zero_mem_codes {text : Bytes} (h : 0 ∈ text) : 0 ∈ codes text := by
  obtain ⟨piece, hpiece, hcode⟩ := exists_mem_split_of_zero_mem h
  exact List.mem_map.mpr ⟨piece, hpiece, hcode⟩

end Utf8

/-- A byte other than the separator stands in one of the pieces. -/
theorem Bytes.exists_mem_splitOn {sep b : UInt8} {text : Bytes} (hb : b ≠ sep) (h : b ∈ text) :
    ∃ piece ∈ splitOn sep text, b ∈ piece := by
  induction text with
  | nil => cases h
  | cons c text ih =>
    rw [splitOn_cons]
    obtain ⟨first, rest, hsplit⟩ := List.exists_cons_of_ne_nil (splitOn_ne_nil sep text)
    rw [hsplit] at ih ⊢
    rcases List.mem_cons.mp h with rfl | h
    · rw [if_neg (by simpa using hb)]
      exact ⟨b :: first, List.mem_cons_self, List.mem_cons_self⟩
    · obtain ⟨piece, hpiece, hmem⟩ := ih h
      split
      · exact ⟨piece, List.mem_cons_of_mem _ hpiece, hmem⟩
      · rcases List.mem_cons.mp hpiece with rfl | hpiece
        · exact ⟨c :: piece, List.mem_cons_self, List.mem_cons_of_mem c hmem⟩
        · exact ⟨piece, List.mem_cons_of_mem _ hpiece, hmem⟩

/-- Fields that are closed by a byte which does not occur in them can be told apart. -/
theorem Bytes.splitOn_closed {sep : UInt8} {fields : List Bytes} (h : ∀ field ∈ fields, sep ∉ field)
    (more : Bytes) :
    splitOn sep (fields.flatMap (· ++ [sep]) ++ more) = fields ++ splitOn sep more := by
  induction fields with
  | nil => rfl
  | cons field fields ih =>
    rw [List.forall_mem_cons] at h
    rw [List.flatMap_cons, List.append_assoc, List.append_assoc, List.singleton_append,
      splitOn_append_cons, splitOn_of_not_mem h.1, ih h.2, List.singleton_append, List.cons_append]

theorem Emit.Token.zero_not_mem_of_isIdentifier {text : Bytes} (h : isIdentifier text = true) :
    0 ∉ text := by
  intro hmem
  have hzero := Utf8.zero_mem_codes hmem
  unfold isIdentifier at h
  split at h
  · cases h
  · rename_i c rest hcodes
    simp only [Bool.and_eq_true, List.all_eq_true] at h
    rw [hcodes] at hzero
    rcases List.mem_cons.mp hzero with rfl | hzero
    · exact absurd h.1.1 (by decide)
    · exact absurd (h.1.2 0 hzero) (by decide)

namespace ImportPath

theorem isAllowed_of_elementProblem? {element : Bytes} (h : elementProblem? element = none) :
    ∀ c ∈ Utf8.codes element, isAllowed c = true := by
  unfold elementProblem? at h
  split_ifs at h
  split at h
  · cases h
  · rename_i hfind
    simpa using hfind

/-- All that is used of paths without problems. -/
theorem zero_not_mem_of_problem? {path : Bytes} (h : problem? path = none) : 0 ∉ path := by
  intro hmem
  unfold problem? at h
  split_ifs at h
  obtain ⟨element, helement, hzero⟩ := Bytes.exists_mem_splitOn (by decide : (0 : UInt8) ≠ 47) hmem
  have hallowed := isAllowed_of_elementProblem? (List.findSome?_eq_none_iff.mp h element helement)
  exact absurd (hallowed 0 (Utf8.zero_mem_codes hzero)) (by decide)

end ImportPath

namespace Emit

theorem Scan.strayOffsets_ne_nil {pieces : List (Nat × Bytes)}
    (h : ∃ piece ∈ pieces, piece.1 = 0) (offset : Nat) : strayOffsets offset pieces ≠ [] := by
  induction pieces generalizing offset with
  | nil => simp at h
  | cons first rest ih =>
    rw [strayOffsets]
    by_cases hfirst : first.1 = 0
    · simp [hfirst]
    · have hrest : ∃ piece ∈ rest, piece.1 = 0 := by simpa [hfirst] using h
      exact List.append_ne_nil_of_right_ne_nil _ (ih hrest _)

theorem Term.zero_not_mem_of_fits {text : Bytes} (h : fits text = true) : 0 ∉ text := by
  intro hmem
  have hstray := Scan.strayOffsets_ne_nil (Utf8.exists_mem_split_of_zero_mem hmem) 0
  have hfaults : (Scan.ofText text).faults = [] :=
    (List.append_eq_nil_iff.mp (List.isEmpty_iff.mp h)).1
  exact hstray (List.append_eq_nil_iff.mp hfaults).1

end Emit

namespace Target

variable {t u : Target}

/-! ### Fields of a record -/

/-- The fields before the methods. -/
def settings (t : Target) : List Bytes :=
  [t.package, t.packageAlias, t.backendPackage, t.device, t.deviceVar, t.zeros, t.ones, t.full,
    t.arange, t.arangeStep, t.operators]

/-- The methods as fields. -/
def methodFields (t : Target) : List Bytes := t.methods.flatMap fun m => [m.1, m.2]

theorem record_eq (t : Target) :
    t.record = t.settings.flatMap (· ++ [0]) ++ t.methodFields.flatMap (· ++ [0]) :=
  List.flatMap_append

theorem operators_eq_of_operatorProblem? (h : t.operatorProblem? = none) :
    t.operators = infixStyle ∨ t.operators = methodStyle := by
  unfold operatorProblem? at h
  split_ifs at h with hinfix hmethods
  · exact .inl (eq_of_beq hinfix)
  · exact .inr (eq_of_beq hmethods)

/-- A target that was checked has no zero byte outside its methods. -/
theorem zero_not_mem_settings (h : t.problem? = none) : ∀ field ∈ t.settings, 0 ∉ field := by
  simp only [problem?, Option.or_eq_none_iff, Option.map_eq_none_iff] at h
  obtain ⟨⟨⟨⟨hpackage, hbackend⟩, hnames⟩, hdevice⟩, hoperators⟩ := h
  -- each field has passed a check of its own
  have hpackage : 0 ∉ t.package := ImportPath.zero_not_mem_of_problem? hpackage
  have hbackend : 0 ∉ t.backendPackage := by
    split_ifs at hbackend with hempty
    · simp [List.isEmpty_iff.mp hempty]
    · exact ImportPath.zero_not_mem_of_problem? (Option.map_eq_none_iff.mp hbackend)
  have hnames : ∀ n ∈ t.names, 0 ∉ n.2 := by
    intro n hn
    have hname := List.find?_eq_none.mp hnames n hn
    exact Emit.Token.zero_not_mem_of_isIdentifier (by simpa using hname)
  have hdevice : 0 ∉ t.device := by
    split_ifs at hdevice with hfits
    exact Emit.Term.zero_not_mem_of_fits hfits
  have hoperators : 0 ∉ t.operators := by
    rcases operators_eq_of_operatorProblem? hoperators with heq | heq <;>
      exact heq ▸ by decide
  simp only [names, List.forall_mem_cons] at hnames
  simp [settings, hpackage, hbackend, hdevice, hoperators, hnames]

/-- The record tells all settings, and the fields of the methods up to where they are cut. -/
theorem settings_eq_of_record_eq (ht : t.problem? = none) (hu : u.problem? = none)
    (h : t.record = u.record) : t.settings = u.settings ∧
      t.methodFields.flatMap (· ++ [0]) = u.methodFields.flatMap (· ++ [0]) := by
  rw [record_eq, record_eq] at h
  -- cut at the zero bytes: the first eleven pieces are the settings, whatever the methods are
  have hsplit := congrArg (Bytes.splitOn 0) h
  rw [Bytes.splitOn_closed (zero_not_mem_settings ht),
    Bytes.splitOn_closed (zero_not_mem_settings hu)] at hsplit
  have hsettings := (List.append_inj hsplit rfl).1
  rw [hsettings] at h
  exact ⟨hsettings, List.append_cancel_left h⟩

theorem pairs_inj {ms ns : List (Bytes × Bytes)}
    (h : ms.flatMap (fun m => [m.1, m.2]) = ns.flatMap fun m => [m.1, m.2]) : ms = ns := by
  induction ms generalizing ns with
  | nil =>
    cases ns with
    | nil => rfl
    | cons => cases h
  | cons m ms ih =>
    cases ns with
    | nil => cases h
    | cons n ns =>
      simp only [List.flatMap_cons, List.cons_append, List.nil_append, List.cons.injEq] at h
      obtain ⟨hop, hname, hrest⟩ := h
      rw [ih hrest, Prod.ext hop hname]

/-- Methods without zero bytes are told too. -/
theorem methods_eq_of_flatMap_eq (ht : ∀ m ∈ t.methods, 0 ∉ m.1 ∧ 0 ∉ m.2)
    (hu : ∀ m ∈ u.methods, 0 ∉ m.1 ∧ 0 ∉ m.2)
    (h : t.methodFields.flatMap (· ++ [0]) = u.methodFields.flatMap (· ++ [0])) :
    t.methods = u.methods := by
  have hsplit (v : Target) (hv : ∀ m ∈ v.methods, 0 ∉ m.1 ∧ 0 ∉ m.2) :
      Bytes.splitOn 0 (v.methodFields.flatMap (· ++ [0])) = v.methodFields ++ [[]] := by
    have hfields : ∀ field ∈ v.methodFields, 0 ∉ field := by
      intro field hfield
      obtain ⟨m, hm, hfield⟩ := List.mem_flatMap.mp hfield
      rcases List.mem_pair.mp hfield with rfl | rfl
      · exact (hv m hm).1
      · exact (hv m hm).2
    rw [← List.append_nil (List.flatMap _ _), Bytes.splitOn_closed hfields]
    rfl
  have hfields : t.methodFields ++ [[]] = u.methodFields ++ [[]] := by
    rw [← hsplit t ht, ← hsplit u hu, h]
  exact pairs_inj (List.append_cancel_right hfields)

/-! ### Emission -/

theorem settings_eq_iff : t.settings = u.settings ↔
    t.package = u.package ∧ t.packageAlias = u.packageAlias ∧
    t.backendPackage = u.backendPackage ∧ t.device = u.device ∧ t.deviceVar = u.deviceVar ∧
    t.zeros = u.zeros ∧ t.ones = u.ones ∧ t.full = u.full ∧ t.arange = u.arange ∧
    t.arangeStep = u.arangeStep ∧ t.operators = u.operators := by
  simp [settings]

theorem operators_congr (h : t.settings = u.settings) : t.operators = u.operators := by
  simp only [settings_eq_iff] at h
  simp only [h]

theorem frame_congr (h : t.settings = u.settings) (fs : List Fragment) :
    t.frame fs = u.frame fs := by
  obtain ⟨hpackage, halias, hbackend, hdevice, hdeviceVar, -⟩ := settings_eq_iff.mp h
  rw [frame, frame, opening, opening, closing, closing, isUsedBy, isUsedBy, hpackage, halias,
    hbackend, hdevice, hdeviceVar]

theorem print_congr (h : t.settings = u.settings) (fs : List Fragment) :
    t.print fs = u.print fs := by
  have hframe := frame_congr h fs
  have hstart : t.bodyStart fs = u.bodyStart fs := by rw [bodyStart, bodyStart, hframe]
  have hwrap : t.wrap fs = u.wrap fs := by rw [wrap, wrap, hframe, hstart]
  unfold print
  rw [hwrap, hstart]

theorem isReserved_congr (h : t.settings = u.settings) (name : Bytes) :
    t.isReserved name = u.isReserved name := by
  rw [settings_eq_iff] at h
  simp only [isReserved, reserved, backendAlias, h]

theorem emitFill_congr (h : t.settings = u.settings) (span : Span) (value : Spanned Int32)
    (shape : List (Spanned Int64)) (dtype : DType) :
    t.emitFill span value shape dtype = u.emitFill span value shape dtype := by
  rw [settings_eq_iff] at h
  simp only [emitFill, emitCall, h]

theorem emitRange_congr (h : t.settings = u.settings) (span : Span) (first last : Spanned Int32)
    (step : Option (Spanned Int32)) :
    t.emitRange span first last step = u.emitRange span first last step := by
  rw [settings_eq_iff] at h
  simp only [emitRange, emitCall, h]

/-- Products are all that can differ. -/
theorem emitExpr_congr (h : t.settings = u.settings)
    (hmul : t.operators = methodStyle → t.method "*".utf8 = u.method "*".utf8) {e : Expr}
    (he : e.Writable) : t.emitExpr e = u.emitExpr e := by
  induction e with
  | fill => simp only [emitExpr, emitFill_congr h]
  | range => simp only [emitExpr, emitRange_congr h]
  | var | missing => rfl
  | binary span op lhs rhs ihl ihr =>
    obtain ⟨hop, -, hlhs, hrhs⟩ := he
    have htoken : op.value.token = "*".utf8 := congrArg BinaryOp.token hop
    simp only [emitExpr, ihl hlhs, ihr hrhs, ← operators_congr h, htoken]
    by_cases hstyle : t.operators = methodStyle
    · rw [hmul hstyle]
    · have hne : (t.operators == methodStyle) = false := by simpa using hstyle
      simp only [hne, Bool.false_eq_true, if_false]

theorem emitStmt_congr (h : t.settings = u.settings)
    (hmul : t.operators = methodStyle → t.method "*".utf8 = u.method "*".utf8) (bound : List Bytes)
    {s : Stmt} (hs : s.Writable) : t.emitStmt bound s = u.emitStmt bound s := by
  have hreserved : t.isReserved = u.isReserved := funext (isReserved_congr h)
  cases s with
  | eval span value => simp only [emitStmt, hreserved, emitExpr_congr h hmul hs]
  | assign span name value => simp only [emitStmt, hreserved, emitExpr_congr h hmul hs.2]
  | missing => cases hs

theorem emitStmts_congr (h : t.settings = u.settings)
    (hmul : t.operators = methodStyle → t.method "*".utf8 = u.method "*".utf8) (bound : List Bytes)
    {stmts : List Stmt} (hstmts : ∀ s ∈ stmts, s.Writable) :
    t.emitStmts bound stmts = u.emitStmts bound stmts := by
  induction stmts generalizing bound with
  | nil => rfl
  | cons s rest ih =>
    rw [List.forall_mem_cons] at hstmts
    simp only [emitStmts, emitStmt_congr h hmul bound hstmts.1, ih _ hstmts.2]

/-! ### The same code -/

/-- The same code for every program that can be read, and the same file around it. -/
structure SameCode (t u : Target) : Prop where
  fragments_eq : ∀ {file : Nat} {text : Bytes} {p : Program},
    Program.parse file text = .ok p → p.fragments t = p.fragments u
  frame_eq : ∀ fs, t.frame fs = u.frame fs
  print_eq : ∀ fs, t.print fs = u.print fs

/-- What becomes of a product without names where operators are method calls. -/
theorem fragments_product {lhs rhs : Expr} {l r : List Fragment} {whole span inner opSpan : Span}
    (hstyle : t.operators = methodStyle) (hl : t.emitExpr lhs = .ok l) (hr : t.emitExpr rhs = .ok r)
    (hlnames : lhs.readVars = []) (hrnames : rhs.readVars = []) :
    (Program.mk [.eval span (.binary inner ⟨.mul, opSpan⟩ lhs rhs)] whole).fragments t =
      .ok (Fragment.all span ["_".utf8, "=".utf8] ++
        (l ++ Fragment.all opSpan [".".utf8, t.method "*".utf8, "(".utf8] ++ r ++
          Fragment.all opSpan [")".utf8]) ++ Fragment.all span [";".utf8]) := by
  have hnames : (Stmt.eval span (.binary inner ⟨.mul, opSpan⟩ lhs rhs)).names = [] := by
    rw [Stmt.names, Expr.readVars, hlnames, hrnames, List.append_nil]
  simp [Program.fragments, emitStmts, emitStmt, hnames, emitExpr, hl, hr, hstyle, firstBindings,
    bind, Except.bind, BinaryOp.token]

/-- A product of literals shows the method for products. -/
theorem SameCode.method_eq (h : t.SameCode u) (hsettings : t.settings = u.settings)
    (hstyle : t.operators = methodStyle) : t.method "*".utf8 = u.method "*".utf8 := by
  let bound (n : Int32) (start : Nat) : Spanned Int32 := ⟨n, ⟨0, start, start + 1⟩⟩
  let lhs : Expr := .range ⟨0, 0, 6⟩ (bound 0 1) (bound 1 4) none
  let rhs : Expr := .range ⟨0, 7, 13⟩ (bound 0 8) (bound 1 11) none
  have hparse : Program.parse 0 "[0..1]*[0..1];".utf8 =
      .ok ⟨[.eval ⟨0, 0, 14⟩ (.binary ⟨0, 0, 13⟩ ⟨.mul, ⟨0, 6, 7⟩⟩ lhs rhs)], ⟨0, 0, 14⟩⟩ := by
    decide +kernel
  have hfragments := h.fragments_eq hparse
  -- the operands are the same, so the methods stand at the same place
  have hl : t.emitExpr lhs = u.emitExpr lhs := congrArg Except.ok (emitRange_congr hsettings ..)
  have hr : t.emitExpr rhs = u.emitExpr rhs := congrArg Except.ok (emitRange_congr hsettings ..)
  rw [fragments_product hstyle hl hr rfl rfl,
    fragments_product ((operators_congr hsettings).symm.trans hstyle) rfl rfl rfl rfl] at hfragments
  simpa [Fragment.all] using hfragments

/-- Targets with the same settings make the same code, except perhaps for products that are method
calls. -/
theorem sameCode_iff (h : t.settings = u.settings) :
    t.SameCode u ↔ (t.operators = methodStyle → t.method "*".utf8 = u.method "*".utf8) := by
  refine ⟨fun hsame => hsame.method_eq h, fun hmul => ⟨?_, frame_congr h, print_congr h⟩⟩
  intro file text p hp
  have hwritable := (Program.parse_eq_ok_iff.mp hp).2.writable
  rw [Program.fragments, Program.fragments, emitStmts_congr h hmul [] hwritable]

/-- **Records tell the code apart from method names with zero bytes.** Two targets that were checked
and have one record lead to the same file around every program. They lead to the same code if the
method for products is the same or operators are no method calls, and only then; and this is so if
no method entry holds a zero byte. -/
theorem sameCode_of_record_eq (ht : t.problem? = none) (hu : u.problem? = none)
    (h : t.record = u.record) :
    (∀ fs, t.frame fs = u.frame fs ∧ t.print fs = u.print fs) ∧
    (t.SameCode u ↔ (t.operators = methodStyle → t.method "*".utf8 = u.method "*".utf8)) ∧
    ((∀ m ∈ t.methods, 0 ∉ m.1 ∧ 0 ∉ m.2) → (∀ m ∈ u.methods, 0 ∉ m.1 ∧ 0 ∉ m.2) →
      t.SameCode u) := by
  obtain ⟨hsettings, hmethods⟩ := settings_eq_of_record_eq ht hu h
  refine ⟨fun fs => ⟨frame_congr hsettings fs, print_congr hsettings fs⟩, sameCode_iff hsettings,
    fun htzeros huzeros => (sameCode_iff hsettings).mpr fun _ => ?_⟩
  rw [method, method, methods_eq_of_flatMap_eq htzeros huzeros hmethods]

/-- A qualifier that is given and one that is taken from the package are recorded alike. -/
theorem sameCode_of_record_eq_alias :
    let t : Target := { standard with operators := methodStyle }
    let u : Target := { t with givenAlias := "tensor".utf8 }
    t.problem? = none ∧ u.problem? = none ∧ t.record = u.record ∧ t ≠ u ∧ t.SameCode u := by
  intro t u
  have ht : t.problem? = none := by decide +kernel
  have hu : u.problem? = none := by decide +kernel
  have hrecord : t.record = u.record := by decide +kernel
  have hsame := (sameCode_of_record_eq ht hu hrecord).2.2 (by decide +kernel) (by decide +kernel)
  exact ⟨ht, hu, hrecord, by decide +kernel, hsame⟩

/-- Method names with zero bytes in them: one record can be cut into entries in two ways, and the
entry for products is another one each time. -/
theorem record_ambiguous :
    let t : Target := { standard with
      operators := methodStyle
      methods := [("%".utf8, "Rem\x00*\x00Left\x00*%\x00Any".utf8), ("*".utf8, "Right".utf8),
        ("+".utf8, "Add".utf8), ("-".utf8, "Sub".utf8)] }
    let u : Target := { standard with
      operators := methodStyle
      methods := [("%".utf8, "Rem".utf8), ("*".utf8, "Left".utf8),
        ("*%".utf8, "Any\x00*\x00Right".utf8), ("+".utf8, "Add".utf8), ("-".utf8, "Sub".utf8)] }
    t.problem? = none ∧ u.problem? = none ∧ t.record = u.record ∧ ¬ t.SameCode u := by
  intro t u
  have hsettings : t.settings = u.settings := rfl
  have hmethod : t.method "*".utf8 ≠ u.method "*".utf8 := by decide +kernel
  refine ⟨by decide +kernel, by decide +kernel, by decide +kernel, fun hsame => ?_⟩
  exact hmethod (hsame.method_eq hsettings rfl)

end Target

end TensorLang
