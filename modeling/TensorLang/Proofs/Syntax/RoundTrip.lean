import TensorLang.Proofs.Syntax.Completeness
import TensorLang.Proofs.Syntax.Writable
import TensorLang.Proofs.Text.Decimal
import TensorLang.Syntax.Printer

/-!
# Canonical text reads back

The canonical text of a writable program is a sentence, with the same tree up to spans. Since
nothing in a layout depends on where the text stands, the texts of the parts can be put one behind
the other (`Grammar.Spells`), and the tree of the whole is derived from those of the parts.

The main statements are `Grammar.spells_program` and `Program.parse_format`.
-/

namespace TensorLang

namespace Grammar

open Text (Blanks)

/-! ### Texts as lexemes -/

theorem Laid.append {file pos : Nat} {s t : Bytes} {ls ms : List Lexeme} (h : Laid file pos s ls)
    (h' : Laid file (pos + s.length) t ms) : Laid file pos (s ++ t) (ls ++ ms) := by
  induction h with
  | nil hw => exact h'.prepend hw
  | @cons pos w rest u ls hw _ ih =>
    rw [List.append_assoc, List.cons_append]
    refine .cons hw (ih ?_)
    rwa [List.length_append, List.length_append, ← Nat.add_assoc, ← Nat.add_assoc] at h'

/-- Wherever the text stands, it is laid out as lexemes with the given property. -/
def Spells (text : Bytes) (P : List Lexeme → Prop) : Prop :=
  ∀ file pos, ∃ ls, Laid file pos text ls ∧ P ls

variable {s t : Bytes} {P Q : List Lexeme → Prop}

theorem Spells.mono (h : Spells s P) (hPQ : ∀ ls, P ls → Q ls) : Spells s Q := by
  intro file pos
  obtain ⟨ls, hlaid, hls⟩ := h file pos
  exact ⟨ls, hlaid, hPQ ls hls⟩

theorem Spells.append (hs : Spells s P) (ht : Spells t Q) :
    Spells (s ++ t) fun ls => ∃ ks ms, ls = ks ++ ms ∧ P ks ∧ Q ms := by
  intro file pos
  obtain ⟨ks, hlaid, hks⟩ := hs file pos
  obtain ⟨ms, hlaid', hms⟩ := ht file (pos + s.length)
  exact ⟨ks ++ ms, hlaid.append hlaid', ks, ms, rfl, hks, hms⟩

/-- The terminal `t` and nothing else. -/
def Single (t : Terminal) (ls : List Lexeme) : Prop := ∃ s, ls = [⟨t, s⟩]

/-- A terminal between blanks. -/
theorem spells_terminal {v w : Bytes} (hv : Blanks v) (t : Terminal) (hw : Blanks w) :
    Spells (v ++ t.text ++ w) (Single t) :=
  fun _ _ => ⟨_, .cons hv (.nil hw), _, rfl⟩

private theorem blanks_space : Blanks " ".utf8 := @Blanks.cons 32 [] rfl .nil

private theorem blanks_newline : Blanks "\n".utf8 := @Blanks.cons 10 [] rfl .nil

private theorem spells_text (t : Terminal) : Spells t.text (Single t) := by
  simpa using spells_terminal .nil t .nil

private theorem spells_semicolon_space : Spells "; ".utf8 (Single .semicolon) :=
  spells_terminal .nil .semicolon blanks_space

/-! ### Literals -/

private theorem isNumber_ofNat (n : Nat) : IsNumber (Decimal.ofNat n) :=
  ⟨Decimal.ofNat_ne_nil n, fun _ hb => Decimal.isDigit_of_mem_ofNat hb⟩

theorem spells_int32 {n : Spanned Int32} (h : 0 ≤ n.value) :
    Spells (Int32.text n.value)
      fun ls => ∃ l m, ls = [l] ∧ Int32Literal l m ∧ Expr.eraseSpan m = Expr.eraseSpan n := by
  obtain ⟨n, s⟩ := n
  have htext : Int32.text n = Decimal.ofNat n.toNatClampNeg := by
    rw [Int32.text, ← Int32.cast_toNatClampNeg n h]
    rfl
  rw [htext]
  refine (spells_text (.number _ (isNumber_ofNat _))).mono ?_
  rintro ls ⟨s', rfl⟩
  refine ⟨_, _, rfl, .mk ?_, ?_⟩
  · rw [Decimal.value_ofNat]
    exact n.toNatClampNeg_lt
  · rw [Decimal.value_ofNat, Int32.ofNat_toNatClampNeg n h]
    rfl

theorem spells_dimension {d : Spanned Int64} (h : 0 ≤ d.value) :
    Spells (Int64.text d.value)
      fun ls => ∃ l m, ls = [l] ∧ Dimension l m ∧ Expr.eraseSpan m = Expr.eraseSpan d := by
  obtain ⟨d, s⟩ := d
  have htext : Int64.text d = Decimal.ofNat d.toNatClampNeg := by
    rw [Int64.text, ← Int64.cast_toNatClampNeg d h]
    rfl
  rw [htext]
  refine (spells_text (.number _ (isNumber_ofNat _))).mono ?_
  rintro ls ⟨s', rfl⟩
  refine ⟨_, _, rfl, .mk ?_, ?_⟩
  · rw [Decimal.value_ofNat]
    exact d.toNatClampNeg_lt
  · rw [Decimal.value_ofNat, Int64.ofNat_toNatClampNeg d h]
    rfl

theorem spells_dtype {dt : Spanned DType} (h : dt.value ∈ DType.known) :
    Spells dt.value.shortName
      fun ls => ∃ l a, ls = [l] ∧ Annotation l a ∧ Expr.eraseSpan a = Expr.eraseSpan dt := by
  obtain ⟨dt, s⟩ := dt
  have hall : ∀ dt ∈ DType.known, IsName dt.shortName ∧
      (Bytes.toLowerAscii dt.shortName, dt) ∈ DType.spellings := by decide
  obtain ⟨hname, hmem⟩ := hall dt h
  refine (spells_text (.word _ hname)).mono ?_
  rintro ls ⟨s', rfl⟩
  exact ⟨_, _, rfl, .mk hmem, rfl⟩

/-! ### Repetitions -/

/-- Texts one behind the other spell a repetition. -/
theorem spells_repeated {α γ : Type} {rule : List Lexeme → α → Prop} {text : α → Bytes} {f : α → γ}
    {bs : List α} (h : ∀ b ∈ bs, Spells (text b) fun ls => ∃ a, rule ls a ∧ f a = f b) :
    Spells (bs.flatMap text) fun ls => ∃ as, Repeated rule ls as ∧ as.map f = bs.map f := by
  induction bs with
  | nil => exact fun _ _ => ⟨[], .nil .nil, [], .nil, rfl⟩
  | cons b bs ih =>
    have hfirst := h b List.mem_cons_self
    have hrest := ih fun b' hb' => h b' (List.mem_cons_of_mem b hb')
    rw [List.flatMap_cons]
    refine (hfirst.append hrest).mono ?_
    rintro _ ⟨ks, ms, rfl, ⟨a, ha, hab⟩, as, has, hall⟩
    exact ⟨a :: as, .cons ha has, by rw [List.map_cons, List.map_cons, hab, hall]⟩

theorem spells_dims {shape : List (Spanned Int64)} (h : ∀ d ∈ shape, 0 ≤ d.value) :
    Spells (Bytes.joinWith " x ".utf8 (shape.map fun d => Int64.text d.value))
      fun ls => ∃ ds, Dims ls ds ∧ ds.map Expr.eraseSpan = shape.map Expr.eraseSpan := by
  cases shape with
  | nil => exact fun _ _ => ⟨[], .nil .nil, [], .none, rfl⟩
  | cons d shape =>
    have hmore : Spells (shape.flatMap fun d => " x ".utf8 ++ Int64.text d.value) fun ls =>
        ∃ ds, Repeated MoreDims ls ds ∧
          ds.map Expr.eraseSpan = shape.map Expr.eraseSpan := by
      refine spells_repeated fun d' hd' => ?_
      have htimes : Spells " x ".utf8 (Single .times) :=
        spells_terminal blanks_space .times blanks_space
      refine (htimes.append (spells_dimension (h d' (List.mem_cons_of_mem d hd')))).mono ?_
      rintro _ ⟨_, _, rfl, ⟨s, rfl⟩, l, m, rfl, hl, hm⟩
      exact ⟨m, .mk hl, hm⟩
    rw [List.map_cons, Bytes.joinWith_cons, List.flatMap_map]
    refine ((spells_dimension (h d List.mem_cons_self)).append hmore).mono ?_
    rintro _ ⟨_, ms, rfl, ⟨l, m, rfl, hl, hm⟩, ds, hds, hall⟩
    refine ⟨m :: ds, .some hl hds, ?_⟩
    rw [List.map_cons, List.map_cons, hm, hall]

/-! ### Expressions -/

/-- The tree of these lexemes is `e` up to spans. -/
def Yields (rule : List Lexeme → Expr → Prop) (e : Expr) (ls : List Lexeme) : Prop :=
  ∃ e', rule ls e' ∧ e'.erase = e.erase

private theorem spells_fill {span : Span} {value : Spanned Int32} {shape : List (Spanned Int64)}
    {dtype : Option (Spanned DType)} (h : (Expr.fill span value shape dtype).Writable) :
    Spells (Expr.fill span value shape dtype).format
      (Yields FillTensor (.fill span value shape dtype)) := by
  obtain ⟨hvalue, hshape, hdtype⟩ := h
  have hhead := (((spells_text .openBracket).append (spells_dims hshape)).append
    spells_semicolon_space).append (spells_int32 hvalue)
  cases dtype with
  | none =>
    rw [Expr.format, List.append_nil]
    refine (hhead.append (spells_text .closeBracket)).mono ?_
    rintro _ ⟨_, _, rfl, ⟨_, _, rfl, ⟨_, _, rfl, ⟨_, _, rfl, ⟨s₁, rfl⟩, ds, hds, hds'⟩, s₂, rfl⟩,
      l, n, rfl, hl, hn⟩, s₃, rfl⟩
    simp only [List.cons_append, List.append_assoc, List.nil_append]
    refine ⟨_, .plain hds hl, ?_⟩
    simp only [Expr.erase, hn, hds', Option.map_none]
  | some dt =>
    rw [Expr.format, ← List.append_assoc]
    refine (((hhead.append spells_semicolon_space).append (spells_dtype (hdtype dt rfl))).append
      (spells_text .closeBracket)).mono ?_
    rintro _ ⟨_, _, rfl, ⟨_, _, rfl, ⟨_, _, rfl, ⟨_, _, rfl, ⟨_, _, rfl, ⟨_, _, rfl, ⟨s₁, rfl⟩,
      ds, hds, hds'⟩, s₂, rfl⟩, l, n, rfl, hl, hn⟩, s₃, rfl⟩, k, a, rfl, hk, ha⟩, s₄, rfl⟩
    simp only [List.cons_append, List.append_assoc, List.nil_append]
    refine ⟨_, .typed hds hl hk, ?_⟩
    simp only [Expr.erase, hn, hds', ha, Option.map_some]

private theorem spells_range {span : Span} {first last : Spanned Int32}
    {step : Option (Spanned Int32)} (h : (Expr.range span first last step).Writable) :
    Spells (Expr.range span first last step).format
      (Yields RangeTensor (.range span first last step)) := by
  obtain ⟨hfirst, hlast, hstep⟩ := h
  have hhead := (((spells_text .openBracket).append (spells_int32 hfirst)).append
    (spells_text .dots)).append (spells_int32 hlast)
  cases step with
  | none =>
    rw [Expr.format, List.append_nil]
    refine (hhead.append (spells_text .closeBracket)).mono ?_
    rintro _ ⟨_, _, rfl, ⟨_, _, rfl, ⟨_, _, rfl, ⟨_, _, rfl, ⟨s₁, rfl⟩, l, lo, rfl, hl, hlo⟩,
      s₂, rfl⟩, m, hi, rfl, hm, hhi⟩, s₃, rfl⟩
    refine ⟨_, .plain hl hm, ?_⟩
    simp only [Expr.erase, hlo, hhi, Option.map_none]
  | some step =>
    rw [Expr.format, ← List.append_assoc]
    refine (((hhead.append spells_semicolon_space).append (spells_int32 (hstep step rfl))).append
      (spells_text .closeBracket)).mono ?_
    rintro _ ⟨_, _, rfl, ⟨_, _, rfl, ⟨_, _, rfl, ⟨_, _, rfl, ⟨_, _, rfl, ⟨_, _, rfl, ⟨s₁, rfl⟩,
      l, lo, rfl, hl, hlo⟩, s₂, rfl⟩, m, hi, rfl, hm, hhi⟩, s₃, rfl⟩, n, st, rfl, hn, hst⟩,
      s₄, rfl⟩
    refine ⟨_, .stepped hl hm hn, ?_⟩
    simp only [Expr.erase, hlo, hhi, hst, Option.map_some]

theorem spells_atom {e : Expr} (h : e.Writable) (hatom : e.isBinary = false) :
    Spells e.format (Yields Atom e) := by
  cases e with
  | fill => exact (spells_fill h).mono fun _ ⟨e', hrule, htree⟩ => ⟨e', .fill hrule, htree⟩
  | range => exact (spells_range h).mono fun _ ⟨e', hrule, htree⟩ => ⟨e', .range hrule, htree⟩
  | var span name =>
    refine (spells_text (.word name h)).mono ?_
    rintro ls ⟨s, rfl⟩
    exact ⟨_, .name, rfl⟩
  | binary => cases hatom
  | missing => exact h.elim

theorem spells_expr {e : Expr} (h : e.Writable) : Spells e.format (Yields Product e) := by
  induction e with
  | binary span op lhs rhs ihl _ =>
    obtain ⟨hop, hrhs, hlhs, hwrite⟩ := h
    have hstar : Spells " * ".utf8 (Single .star) :=
      spells_terminal blanks_space .star blanks_space
    have htext : (Expr.binary span op lhs rhs).format =
        lhs.format ++ " * ".utf8 ++ rhs.format := by
      rw [Expr.format, hop, List.append_assoc lhs.format, List.append_assoc lhs.format]
      rfl
    rw [htext]
    refine (((ihl hlhs).append hstar).append (spells_atom hwrite hrhs)).mono ?_
    rintro _ ⟨_, _, rfl, ⟨_, _, rfl, ⟨l, hl, hl'⟩, s, rfl⟩, r, hr, hr'⟩
    rw [List.append_assoc]
    refine ⟨_, .mul hl hr, ?_⟩
    simp only [Expr.erase, Expr.eraseSpan, hl', hr', hop]
  | fill | range | var | missing =>
    exact (spells_atom h rfl).mono fun _ ⟨e', hrule, htree⟩ => ⟨e', .atom hrule, htree⟩

/-! ### Programs -/

theorem spells_stmt {s : Stmt} (h : s.Writable) {w : Bytes} (hw : Blanks w) :
    Spells (s.format ++ w) fun ls => ∃ s', Statement ls s' ∧ s'.erase = s.erase := by
  have hsemi : Spells (";".utf8 ++ w) (Single .semicolon) := spells_terminal .nil .semicolon hw
  cases s with
  | eval span value =>
    rw [Stmt.format, List.append_assoc]
    refine ((spells_expr h).append hsemi).mono ?_
    rintro _ ⟨_, _, rfl, ⟨e, he, he'⟩, s, rfl⟩
    refine ⟨_, .eval he, ?_⟩
    simp only [Stmt.erase, he']
  | assign span name value =>
    obtain ⟨hname, hvalue⟩ := h
    have hequals : Spells " = ".utf8 (Single .equals) :=
      spells_terminal blanks_space .equals blanks_space
    rw [Stmt.format, List.append_assoc]
    refine ((((spells_text (.word name.value hname)).append hequals).append
      (spells_expr hvalue)).append hsemi).mono ?_
    rintro _ ⟨_, _, rfl, ⟨_, _, rfl, ⟨_, _, rfl, ⟨s₁, rfl⟩, s₂, rfl⟩, e, he, he'⟩, s₃, rfl⟩
    refine ⟨_, .assign he, ?_⟩
    simp only [Stmt.erase, he']
    rfl
  | missing => exact h.elim

/-- **The canonical text of a writable program spells its statements.** -/
theorem spells_program {p : Program} (h : p.Writable) :
    Spells p.format fun ls =>
      ∃ stmts, Statements ls stmts ∧ stmts.map Stmt.erase = p.stmts.map Stmt.erase :=
  spells_repeated fun s hs => spells_stmt (h s hs) blanks_newline

end Grammar

/-- **Canonical text reads back**: the canonical text of a writable program is read, as whatever
file, and the tree is the same up to spans. -/
theorem Program.parse_format {p : Program} (h : p.Writable) (file : Nat) :
    ∃ q, parse file p.format = .ok q ∧ q.stmts.map Stmt.erase = p.stmts.map Stmt.erase := by
  obtain ⟨ls, hlaid, stmts, hls, htree⟩ := Grammar.spells_program h file 0
  have hsentence : Grammar.Sentence file p.format stmts := ⟨ls, hlaid, hls⟩
  exact ⟨_, hsentence.parse_eq_ok, htree⟩

end TensorLang
