import TensorLang.Emit.Wrapper
import TensorLang.Proofs.Emit.Faithful
import TensorLang.Proofs.Text.Decimal
import TensorLang.Proofs.Text.Utf8

/-!
# Which tokens are identifiers

Of the tokens that fragments consist of, the names of a target that was checked are identifiers
(`Target.isIdentifier_names`), and so are the names of the element types. Numbers and signs are
none, since they begin with a byte that no identifier begins with.
-/

namespace TensorLang

/-- Dimensions are numbers and commas. -/
theorem forall_mem_dims {P : Bytes → Prop} (hcomma : P ",".utf8)
    (hnumber : ∀ n, P (Decimal.ofInt n)) (shape : List (Spanned Int64)) :
    ∀ token ∈ (shape.map fun d => Decimal.ofInt d.value.toInt).intersperse ",".utf8, P token := by
  cases shape with
  | nil => nofun
  | cons d rest =>
    rw [List.map_cons, intersperse_cons_eq, List.forall_mem_cons]
    refine ⟨hnumber _, fun token htoken => ?_⟩
    obtain ⟨text, htext, htoken⟩ := List.mem_flatMap.mp htoken
    obtain ⟨d', -, rfl⟩ := List.mem_map.mp htext
    rcases List.mem_pair.mp htoken with rfl | rfl
    · exact hcomma
    · exact hnumber _

/-- So are bounds. -/
theorem forall_mem_bounds {P : Bytes → Prop} (hcomma : P ",".utf8)
    (hnumber : ∀ n, P (Decimal.ofInt n)) (bounds : List (Spanned Int32)) :
    ∀ token ∈ (bounds.map fun bound => Decimal.ofInt bound.value.toInt).flatMap
      fun text => [text, ",".utf8], P token := by
  intro token htoken
  obtain ⟨text, htext, htoken⟩ := List.mem_flatMap.mp htoken
  obtain ⟨bound, -, rfl⟩ := List.mem_map.mp htext
  rcases List.mem_pair.mp htoken with rfl | rfl
  · exact hnumber _
  · exact hcomma

theorem Utf8.codes_cons_of_ascii {b : UInt8} (hb : b < 0x80) (rest : Bytes) :
    codes (b :: rest) = b.toNat :: codes rest := by
  rw [codes, split, decode_ascii hb]
  rfl

namespace Emit.Token

theorem isIdentifier_cons_eq_false {b : UInt8} (hb : b < 0x80) (h : isNameStart b.toNat = false)
    (rest : Bytes) : isIdentifier (b :: rest) = false := by
  rw [isIdentifier, Utf8.codes_cons_of_ascii hb]
  simp [h]

/-- A number is no identifier. -/
theorem isIdentifier_ofInt (n : Int) : isIdentifier (Decimal.ofInt n) = false := by
  cases n with
  | ofNat m =>
    obtain ⟨b, rest, hdigits⟩ := List.exists_cons_of_ne_nil (Decimal.ofNat_ne_nil m)
    have hdigit : Decimal.isDigit b = true :=
      Decimal.isDigit_of_mem_ofNat (hdigits ▸ List.mem_cons_self)
    rw [Decimal.isDigit, Bool.and_eq_true, decide_eq_true_eq, decide_eq_true_eq,
      UInt8.le_iff_toNat_le, UInt8.le_iff_toNat_le] at hdigit
    simp only [UInt8.reduceToNat] at hdigit
    rw [Decimal.ofInt, hdigits]
    refine isIdentifier_cons_eq_false (UInt8.lt_iff_toNat_lt.mpr ?_) ?_ rest
    · simp only [UInt8.reduceToNat]
      omega
    · simp [isNameStart]
      omega
  | negSucc m => exact isIdentifier_cons_eq_false (by decide) (by decide) _

/-- Signs are no identifiers. -/
theorem isIdentifier_signs :
    isIdentifier ".".utf8 = false ∧ isIdentifier ",".utf8 = false ∧
    isIdentifier "[".utf8 = false ∧ isIdentifier "]".utf8 = false ∧
    isIdentifier "(".utf8 = false ∧ isIdentifier ")".utf8 = false ∧
    isIdentifier "\x7b".utf8 = false ∧ isIdentifier "\x7d".utf8 = false ∧
    isIdentifier ";".utf8 = false := by
  decide +kernel

end Emit.Token

open Emit.Token (isIdentifier)

theorem DType.isIdentifier_name {dt : DType} (h : dt ∈ DType.known) :
    isIdentifier dt.name = true := by
  have hall : ∀ dt ∈ DType.known, isIdentifier dt.name = true := by decide +kernel
  exact hall dt h

namespace Target

variable {t : Target}

/-- The names of a target that was checked are identifiers. -/
theorem isIdentifier_names (h : t.problem? = none) : ∀ n ∈ t.names, isIdentifier n.2 = true := by
  simp only [problem?, Option.or_eq_none_iff, Option.map_eq_none_iff] at h
  intro n hn
  simpa using List.find?_eq_none.mp h.1.1.2 n hn

theorem isIdentifier_packageAlias (h : t.problem? = none) : isIdentifier t.packageAlias = true :=
  t.isIdentifier_names h ("alias", t.packageAlias) (by simp [names])

theorem isIdentifier_deviceVar (h : t.problem? = none) : isIdentifier t.deviceVar = true :=
  t.isIdentifier_names h ("device variable", t.deviceVar) (by simp [names])

theorem isIdentifier_fillParts (h : t.problem? = none) (dtype : DType) (value : Int32) :
    isIdentifier (t.fillParts dtype value).1 = true := by
  have hnames := t.isIdentifier_names h
  unfold fillParts
  split_ifs
  · exact hnames ("zeros constructor", t.zeros) (by simp [names])
  · exact hnames ("ones constructor", t.ones) (by simp [names])
  · exact hnames ("full constructor", t.full) (by simp [names])

theorem isIdentifier_rangeConstructor (h : t.problem? = none) (stepped : Bool) :
    isIdentifier (if stepped then t.arangeStep else t.arange) = true := by
  have hnames := t.isIdentifier_names h
  split_ifs
  · exact hnames ("stepped arange constructor", t.arangeStep) (by simp [names])
  · exact hnames ("arange constructor", t.arange) (by simp [names])

/-- Operators that are method calls have methods. -/
theorem isIdentifier_method (h : t.problem? = none) (hstyle : t.operators = methodStyle) :
    isIdentifier (t.method BinaryOp.mul.token) = true := by
  have hoperators : t.operatorProblem? = none := (Option.or_eq_none_iff.mp h).2
  have hinfix : (methodStyle == infixStyle) = false := by decide
  rw [operatorProblem?, hstyle, hinfix, if_neg Bool.false_ne_true, if_pos (beq_self_eq_true _),
    Option.map_eq_none_iff, List.find?_eq_none] at hoperators
  simpa using hoperators BinaryOp.mul.token (by decide)

end Target

theorem Expr.fillDType_mem_known {span : Span} {value : Spanned Int32}
    {shape : List (Spanned Int64)} {dtype : Option (Spanned DType)}
    (h : (fill span value shape dtype).Writable) : fillDType dtype ∈ DType.known := by
  cases dtype with
  | none => decide
  | some dt => exact h.2.2 dt rfl

end TensorLang
