import TensorLang.Proofs.Syntax.Soundness

/-!
# Derivations are readings

Where a rule derives a tree from the lexemes ahead, the reader of the same name accepts exactly
those lexemes and answers that tree. Three things have to be ruled out on the way, since readers
commit themselves: that an earlier alternative takes a text that a later one needs, that an optional
part is taken where the rule leaves it out, and that a repetition goes on where the rule stops.
Each of them is decided by the first byte behind what has been read so far.

The main statements are `Program.parse_eq_ok_iff`, which settles what is accepted and with which
spans, and `Grammar.parse_iff_sentence` for trees without spans.
-/

namespace TensorLang

open Cursor (Passes Step Stops)
open Grammar (Lexeme Repeated)

namespace Reader

variable {α : Type} {p : Reader α} {rule : List Lexeme → α → Prop} {follow : Cursor → Prop}

/-- What the rule derives from the lexemes ahead, the reader accepts, given that what comes behind
them suits it. -/
def Complete (p : Reader α) (rule : List Lexeme → α → Prop) (follow : Cursor → Prop) : Prop :=
  ∀ ⦃c c' : Cursor⦄ ⦃ls : List Lexeme⦄ ⦃a : α⦄,
    rule ls a → Passes c ls c' → follow c' → p.Accepts c a c'

/-- What suits the beginning of every round and the end suits the beginning of a repetition. -/
theorem follow_of_repeated (hstart : ∀ ⦃c c' ls a⦄, rule ls a → Passes c ls c' → follow c)
    {c c' : Cursor} {ls : List Lexeme} {as : List α} (h : Repeated rule ls as)
    (hpass : Passes c ls c') (hfollow : follow c') : follow c := by
  cases h with
  | nil => rwa [← Cursor.passes_nil_iff.mp hpass]
  | cons hrule _ =>
    obtain ⟨c₁, hpass, -⟩ := Cursor.passes_append_iff.mp hpass
    exact hstart hrule hpass

/-- A repetition is read in full if each round suits the one before it and the reader refuses what
follows. -/
theorem Complete.many (hp : p.Complete rule follow) (hne : ∀ ⦃ls a⦄, rule ls a → ls ≠ [])
    (hstart : ∀ ⦃c c' ls a⦄, rule ls a → Passes c ls c' → follow c)
    {c c' : Cursor} {ls : List Lexeme} {as : List α} (h : Repeated rule ls as)
    (hpass : Passes c ls c') (hfollow : follow c') (hstop : p.Refuses c') :
    Accepts (many p) c as c' := by
  induction h generalizing c with
  | nil => obtain rfl := Cursor.passes_nil_iff.mp hpass; exact hstop.many
  | cons hrule hmore ih =>
    obtain ⟨c₁, hpass, hpass'⟩ := Cursor.passes_append_iff.mp hpass
    have hnext := follow_of_repeated hstart hmore hpass' hfollow
    exact (hp hrule hpass hnext).many (hpass.length_lt (hne hrule)) (ih hpass')

end Reader

namespace Grammar

open Reader

variable {c c' : Cursor} {ls : List Lexeme}

/-! ### Tensors -/

theorem moreDims_complete :
    Complete (token "x" >>= fun _ => dimension) MoreDims (Stops · Decimal.isDigit) := by
  intro c c' ls d h hpass hstop
  cases h with
  | mk hdim =>
    obtain ⟨c₁, hx, hpass⟩ := Cursor.passes_cons_iff.mp hpass
    obtain ⟨c₂, hd, hnil⟩ := Cursor.passes_cons_iff.mp hpass
    obtain rfl := Cursor.passes_nil_iff.mp hnil
    exact (token_accepts hx rfl).bind (dimension_accepts hdim hd hstop)

theorem dims_accepts {ds : List (Spanned Int64)} (h : Dims ls ds) (hc : c.IsTrimmed)
    (hpass : Passes c ls c') (hstop : c'.Stops Decimal.isDigit) (hx : c'.rest.head? ≠ some 120) :
    (separated dimension (token "x")).Accepts c ds c' := by
  cases h with
  | none =>
    obtain rfl := Cursor.passes_nil_iff.mp hpass
    exact (dimension_refuses hc hstop).optional.bind (accepts_pure _ _)
  | @some l d ls ds hdim hmore =>
    obtain ⟨c₁, hstep, hpass⟩ := Cursor.passes_cons_iff.mp hpass
    -- each further dimension begins with a sign, which ends the number before it
    have hstart : ∀ ⦃c c' ls d⦄, MoreDims ls d → Passes c ls c' → c.Stops Decimal.isDigit := by
      rintro c c' ls d ⟨⟩ hpass
      obtain ⟨c₁, hstep, -⟩ := Cursor.passes_cons_iff.mp hpass
      exact hstep.stops rfl
    have hrefuse : (token "x" >>= fun _ => dimension).Refuses c' :=
      (token_refuses rfl (hpass.isTrimmed hstep.isTrimmed) hx).bind
    have hmany := moreDims_complete.many (fun _ _ h => by cases h; simp) hstart hmore hpass hstop
      hrefuse
    have hfirst := follow_of_repeated hstart hmore hpass hstop
    exact (dimension_accepts hdim hstep hfirst).optional.bind (hmany.bind (accepts_pure _ _))

theorem fill_accepts {e : Expr} (h : FillTensor ls e) (hpass : Passes c ls c') :
    (located fill id).Accepts c e c' := by
  cases h with
  | @plain first _ last _ _ _ _ hdims hvalue =>
    have hspan := hpass.trimmedTo_eq_across (m := ⟨.closeBracket, last⟩) rfl
      (by simp [List.getLast?_cons])
    obtain ⟨c₁, hopen, hpass⟩ := Cursor.passes_cons_iff.mp hpass
    obtain ⟨c₂, hpass₂, hpass⟩ := Cursor.passes_append_iff.mp hpass
    obtain ⟨c₃, hsemi, hpass⟩ := Cursor.passes_cons_iff.mp hpass
    obtain ⟨c₄, hn, hpass⟩ := Cursor.passes_cons_iff.mp hpass
    obtain ⟨c₅, hclose, hpass⟩ := Cursor.passes_cons_iff.mp hpass
    obtain rfl := Cursor.passes_nil_iff.mp hpass
    have hread := dims_accepts hdims hopen.isTrimmed hpass₂ (hsemi.stops rfl)
      (hsemi.head?_ne (by decide))
    -- the bracket behind the value is no semicolon, so no element type is read
    have hnone : (token ";" >>= fun _ => dtype).Refuses c₄ :=
      (token_refuses rfl hn.isTrimmed (hclose.head?_ne (by decide))).bind
    have hfill : fill.Accepts c _ c' := (token_accepts hopen rfl).bind <| hread.bind <|
      (token_accepts hsemi rfl).bind <| (int32_accepts hvalue hn (hclose.stops rfl)).bind <|
      hnone.optional.bind <| (token_accepts hclose rfl).bind (accepts_pure _ _)
    exact hspan ▸ hfill.located id
  | @typed first _ _ last _ _ _ _ _ _ hdims hvalue hann =>
    have hspan := hpass.trimmedTo_eq_across (m := ⟨.closeBracket, last⟩) rfl
      (by simp [List.getLast?_cons])
    obtain ⟨c₁, hopen, hpass⟩ := Cursor.passes_cons_iff.mp hpass
    obtain ⟨c₂, hpass₂, hpass⟩ := Cursor.passes_append_iff.mp hpass
    obtain ⟨c₃, hsemi, hpass⟩ := Cursor.passes_cons_iff.mp hpass
    obtain ⟨c₄, hn, hpass⟩ := Cursor.passes_cons_iff.mp hpass
    obtain ⟨c₅, hsemi', hpass⟩ := Cursor.passes_cons_iff.mp hpass
    obtain ⟨c₆, hdt, hpass⟩ := Cursor.passes_cons_iff.mp hpass
    obtain ⟨c₇, hclose, hpass⟩ := Cursor.passes_cons_iff.mp hpass
    obtain rfl := Cursor.passes_nil_iff.mp hpass
    have hread := dims_accepts hdims hopen.isTrimmed hpass₂ (hsemi.stops rfl)
      (hsemi.head?_ne (by decide))
    have hsome : (token ";" >>= fun _ => dtype).Accepts c₄ _ c₆ :=
      (token_accepts hsemi' rfl).bind (dtype_accepts hann hdt (hclose.stops rfl))
    have hfill : fill.Accepts c _ c' := (token_accepts hopen rfl).bind <| hread.bind <|
      (token_accepts hsemi rfl).bind <| (int32_accepts hvalue hn (hsemi'.stops rfl)).bind <|
      hsome.optional.bind <| (token_accepts hclose rfl).bind (accepts_pure _ _)
    exact hspan ▸ hfill.located id

theorem range_accepts {e : Expr} (h : RangeTensor ls e) (hpass : Passes c ls c') :
    (located range id).Accepts c e c' := by
  cases h with
  | plain hlo hhi =>
    have hspan := hpass.trimmedTo_eq_across rfl rfl
    obtain ⟨c₁, hopen, hpass⟩ := Cursor.passes_cons_iff.mp hpass
    obtain ⟨c₂, hl, hpass⟩ := Cursor.passes_cons_iff.mp hpass
    obtain ⟨c₃, hdots, hpass⟩ := Cursor.passes_cons_iff.mp hpass
    obtain ⟨c₄, hm, hpass⟩ := Cursor.passes_cons_iff.mp hpass
    obtain ⟨c₅, hclose, hpass⟩ := Cursor.passes_cons_iff.mp hpass
    obtain rfl := Cursor.passes_nil_iff.mp hpass
    -- the bracket behind the last bound is no semicolon, so no step is read
    have hnone : (token ";" >>= fun _ => int32).Refuses c₄ :=
      (token_refuses rfl hm.isTrimmed (hclose.head?_ne (by decide))).bind
    have hrange : range.Accepts c _ c' := (token_accepts hopen rfl).bind <|
      (int32_accepts hlo hl (hdots.stops rfl)).bind <| (token_accepts hdots rfl).bind <|
      (int32_accepts hhi hm (hclose.stops rfl)).bind <| hnone.optional.bind <|
      (token_accepts hclose rfl).bind (accepts_pure _ _)
    exact hspan ▸ hrange.located id
  | stepped hlo hhi hstep =>
    have hspan := hpass.trimmedTo_eq_across rfl rfl
    obtain ⟨c₁, hopen, hpass⟩ := Cursor.passes_cons_iff.mp hpass
    obtain ⟨c₂, hl, hpass⟩ := Cursor.passes_cons_iff.mp hpass
    obtain ⟨c₃, hdots, hpass⟩ := Cursor.passes_cons_iff.mp hpass
    obtain ⟨c₄, hm, hpass⟩ := Cursor.passes_cons_iff.mp hpass
    obtain ⟨c₅, hsemi, hpass⟩ := Cursor.passes_cons_iff.mp hpass
    obtain ⟨c₆, hn, hpass⟩ := Cursor.passes_cons_iff.mp hpass
    obtain ⟨c₇, hclose, hpass⟩ := Cursor.passes_cons_iff.mp hpass
    obtain rfl := Cursor.passes_nil_iff.mp hpass
    have hsome : (token ";" >>= fun _ => int32).Accepts c₄ _ c₆ :=
      (token_accepts hsemi rfl).bind (int32_accepts hstep hn (hclose.stops rfl))
    have hrange : range.Accepts c _ c' := (token_accepts hopen rfl).bind <|
      (int32_accepts hlo hl (hdots.stops rfl)).bind <| (token_accepts hdots rfl).bind <|
      (int32_accepts hhi hm (hsemi.stops rfl)).bind <| hsome.optional.bind <|
      (token_accepts hclose rfl).bind (accepts_pure _ _)
    exact hspan ▸ hrange.located id

/-- A tensor begins with a bracket, so nothing else is taken for one. -/
private theorem fill_refuses_head (hc : c.IsTrimmed) (h : c.rest.head? ≠ some 91) :
    fill.Refuses c :=
  (token_refuses rfl hc h).bind

private theorem range_refuses_head (hc : c.IsTrimmed) (h : c.rest.head? ≠ some 91) :
    range.Refuses c :=
  (token_refuses rfl hc h).bind

/-- What begins like a range is not taken for a filled tensor: the dots are neither one more
dimension nor the end of the dimensions. -/
theorem fill_refuses_dots {first between : Span} {l : Lexeme} {lo : Spanned Int32}
    {ms : List Lexeme} (hlo : Int32Literal l lo)
    (hpass : Passes c (⟨.openBracket, first⟩ :: l :: ⟨.dots, between⟩ :: ms) c') :
    fill.Refuses c := by
  obtain ⟨c₁, hopen, hpass⟩ := Cursor.passes_cons_iff.mp hpass
  obtain ⟨c₂, hl, hpass⟩ := Cursor.passes_cons_iff.mp hpass
  obtain ⟨c₃, hdots, -⟩ := Cursor.passes_cons_iff.mp hpass
  -- a bound of a range fits a dimension, too
  obtain ⟨d, hd⟩ : ∃ d, Dimension l d := by
    cases hlo with
    | mk hlt => exact ⟨_, .mk (by omega)⟩
  have hread := dims_accepts (.some hd .nil) hopen.isTrimmed hl.passes (hdots.stops rfl)
    (hdots.head?_ne (by decide))
  have hsemi : (token ";").Refuses c₂ :=
    token_refuses rfl hl.isTrimmed (hdots.head?_ne (by decide))
  exact (token_accepts hopen rfl).bind_refuses (hread.bind_refuses hsemi.bind)

private theorem fill_refuses_range {e : Expr} (h : RangeTensor ls e) (hpass : Passes c ls c') :
    fill.Refuses c := by
  cases h with
  | plain hlo _ => exact fill_refuses_dots hlo hpass
  | stepped hlo _ _ => exact fill_refuses_dots hlo hpass

/-! ### Products -/

/-- A word begins with no bracket. -/
private theorem head?_ne_of_word {letters : Bytes} {h : IsName letters} {s : Span}
    (hstep : Step c ⟨.word letters h, s⟩ c') : c.rest.head? ≠ some 91 := by
  refine hstep.head?_ne fun hhead => ?_
  obtain ⟨b, bs, rfl, hb, -⟩ := h.eq_cons
  obtain rfl : b = 91 := by simpa [Terminal.text] using hhead
  exact absurd hb (by decide)

theorem atom_complete : Complete atom Atom (Stops · isNamePart) := by
  intro c c' ls e h hpass hstop
  cases h with
  | fill hfill =>
    have hc := hpass.isTrimmed_left hfill.ne_nil
    have hread : (located (orElse fill (orElse range nameRef)) id).Accepts c e c' := by
      rw [located_orElse]
      exact (fill_accepts hfill hpass).orElse
    exact hread.padded_of_isTrimmed hc (hpass.isTrimmed hc)
  | range hrange =>
    have hc := hpass.isTrimmed_left hrange.ne_nil
    have hread : (located (orElse fill (orElse range nameRef)) id).Accepts c e c' := by
      rw [located_orElse, located_orElse]
      exact ((fill_refuses_range hrange hpass).located id).orElse_accepts
        (range_accepts hrange hpass).orElse
    exact hread.padded_of_isTrimmed hc (hpass.isTrimmed hc)
  | name =>
    obtain ⟨c₁, hword, hnil⟩ := Cursor.passes_cons_iff.mp hpass
    obtain rfl := Cursor.passes_nil_iff.mp hnil
    have hc := hword.isTrimmed_left
    have hhead := head?_ne_of_word hword
    obtain ⟨c₂, hread, rfl, rfl⟩ := word_accepts hword hstop
    have hname : nameRef.Accepts c _ c₂ := hread.bind (accepts_pure _ _)
    exact (((fill_refuses_head hc hhead).orElse_accepts
      ((range_refuses_head hc hhead).orElse_accepts hname)).located id).padded hc

theorem factor_complete :
    Complete (token "*" >>= fun op => atom >>= fun rhs => pure (op, rhs)) Factor
      (Stops · isNamePart) := by
  intro c c' ls f h hpass hstop
  cases h with
  | mk hatom =>
    obtain ⟨c₁, hstar, hpass⟩ := Cursor.passes_cons_iff.mp hpass
    exact (token_accepts hstar rfl).bind
      ((atom_complete hatom hpass hstop).bind (accepts_pure _ _))

theorem Repeated.concat {α : Type} {rule : List Lexeme → α → Prop} {ls ms : List Lexeme}
    {as : List α} {a : α} (h : Repeated rule ls as) (ha : rule ms a) :
    Repeated rule (ls ++ ms) (as ++ [a]) := by
  induction h with
  | nil => simpa using Repeated.cons ha .nil
  | cons hfirst _ ih => rw [List.append_assoc]; exact .cons hfirst ih

/-- A product is an operand with further ones multiplied to it from the right. -/
theorem Product.exists_foldl {e : Expr} (h : Product ls e) :
    ∃ ks ms first factors, ls = ks ++ ms ∧ Atom ks first ∧ Repeated Factor ms factors ∧
      e = factors.foldl product first := by
  induction h with
  | @atom ls e hatom => exact ⟨ls, [], e, [], by simp, hatom, .nil, rfl⟩
  | @mul ls ns lhs rhs op _ hatom ih =>
    obtain ⟨ks, ms, first, factors, rfl, hfirst, hfactors, rfl⟩ := ih
    refine ⟨ks, ms ++ ⟨.star, op⟩ :: ns, first, factors ++ [(op, rhs)], by simp, hfirst,
      hfactors.concat (.mk hatom), ?_⟩
    rw [List.foldl_append]
    rfl

theorem expr_accepts {e : Expr} (h : Product ls e) (hpass : Passes c ls c')
    (hc' : c'.IsTrimmed) (hstop : c'.Stops isNamePart) (hstar : c'.rest.head? ≠ some 42) :
    expr.Accepts c e c' := by
  obtain ⟨ks, ms, first, factors, rfl, hfirst, hfactors, rfl⟩ := h.exists_foldl
  obtain ⟨c₁, hpass, hpass'⟩ := Cursor.passes_append_iff.mp hpass
  have hstart : ∀ ⦃c c' ls f⦄, Factor ls f → Passes c ls c' → c.Stops isNamePart := by
    rintro c c' ls f ⟨_⟩ hpass
    obtain ⟨c₁, hstep, -⟩ := Cursor.passes_cons_iff.mp hpass
    exact hstep.stops rfl
  have hmany := factor_complete.many (fun _ _ h => by cases h; simp) hstart hfactors hpass' hstop
    (token_refuses rfl hc' hstar).bind
  have hnext := follow_of_repeated hstart hfactors hpass' hstop
  exact (atom_complete hfirst hpass hnext).bind (hmany.bind (accepts_pure _ _))

/-! ### Statements -/

/-- A semicolon ends an expression. -/
private theorem expr_accepts_semicolon {e : Expr} {semi : Span} {c'' : Cursor} (h : Product ls e)
    (hpass : Passes c ls c') (hsemi : Step c' ⟨.semicolon, semi⟩ c'') : expr.Accepts c e c' :=
  expr_accepts h hpass hsemi.isTrimmed_left (hsemi.stops rfl) (hsemi.head?_ne (by decide))

/-- In front of a binding, the name alone is read as an expression, and then the sign behind it is
no semicolon. -/
theorem evalStmt_refuses_equals {letters : Bytes} {h : IsName letters} {n eq : Span}
    {c'' : Cursor} (hname : Step c ⟨.word letters h, n⟩ c') (heq : Step c' ⟨.equals, eq⟩ c'') :
    evalStmt.Refuses c := by
  have hvar := expr_accepts (.atom (.name (h := h))) hname.passes hname.isTrimmed (heq.stops rfl)
    (heq.head?_ne (by decide))
  exact hvar.bind_refuses (token_refuses rfl hname.isTrimmed (heq.head?_ne (by decide))).bind

theorem stmt_complete : Complete stmt Statement fun _ => True := by
  intro c c' ls s h hpass _
  cases h with
  | @eval ls e semi hexpr =>
    obtain ⟨c₁, hpass₁, hlast⟩ := Cursor.passes_append_iff.mp hpass
    obtain ⟨c₂, hsemi, hnil⟩ := Cursor.passes_cons_iff.mp hlast
    obtain rfl := Cursor.passes_nil_iff.mp hnil
    have hc := hpass.isTrimmed_left (by simp)
    have hread : evalStmt.Accepts c _ c' := (expr_accepts_semicolon hexpr hpass₁ hsemi).bind
      ((token_accepts hsemi rfl).bind (accepts_pure _ _))
    have hspan : c.trimmedTo c' = across e.span semi := by
      obtain ⟨hfile, hstart⟩ := hexpr.span_eq hpass₁
      rw [hpass.trimmedTo_eq (m := ⟨.semicolon, semi⟩) (by simp), across, hfile, hstart]
    exact hspan ▸ (hread.orElse.located id).padded_of_isTrimmed hc (hpass.isTrimmed hc)
  | @assign letters hletters n eq semi ls e hexpr =>
    obtain ⟨c₁, hname, hrest⟩ := Cursor.passes_cons_iff.mp hpass
    obtain ⟨c₂, heq, hrest⟩ := Cursor.passes_cons_iff.mp hrest
    obtain ⟨c₃, hpass₁, hlast⟩ := Cursor.passes_append_iff.mp hrest
    obtain ⟨c₄, hsemi, hnil⟩ := Cursor.passes_cons_iff.mp hlast
    obtain rfl := Cursor.passes_nil_iff.mp hnil
    have hc := hname.isTrimmed_left
    have hread : assignStmt.Accepts c _ c' := (name_accepts hname (heq.stops rfl)).bind <|
      (token_accepts heq rfl).bind <| (expr_accepts_semicolon hexpr hpass₁ hsemi).bind <|
      (token_accepts hsemi rfl).bind (accepts_pure _ _)
    have hstmt := (evalStmt_refuses_equals hname heq).orElse_accepts hread
    have hspan := hpass.trimmedTo_eq_across (m := ⟨.semicolon, semi⟩) rfl
      (by simp [List.getLast?_cons])
    exact hspan ▸ (hstmt.located id).padded_of_isTrimmed hc (hpass.isTrimmed hc)

/-- At the end of a text there is no statement. -/
private theorem stmt_refuses_nil (h : c.rest = []) : stmt.Refuses c := by
  have hc : c.IsTrimmed := by rw [Cursor.IsTrimmed, h]; exact Text.startsBlank_nil
  have hhead : ∀ b, c.rest.head? ≠ some b := fun b => by rw [h]; simp
  have hword : ∀ b, c.rest.head? = some b → isNameStart b = false := fun b hb =>
    absurd hb (hhead b)
  have hatom : atom.Refuses c :=
    (((fill_refuses_head hc (hhead _)).orElse_refuses
      ((range_refuses_head hc (hhead _)).orElse_refuses (run_refuses hword).bind)).located
        id).padded hc
  have hexpr : expr.Refuses c := hatom.bind
  have hname : name.Refuses c := ((run_refuses hword).located Spanned.mk).padded hc
  exact ((hexpr.bind.orElse_refuses hname.bind).located id).padded hc

/-- **Derivations are readings**: statements that are derived from the lexemes up to the end of a
text are read, and no literal is rejected on the way. -/
theorem stmts_accepts {list : List Stmt} (h : Statements ls list) (hpass : Passes c ls c')
    (hend : c'.rest = []) : stmts.Accepts c list c' := by
  have hne : ∀ ⦃ls s⦄, Statement ls s → ls ≠ [] := fun _ _ h => by cases h <;> simp
  have hmany := stmt_complete.many hne (fun _ _ _ _ _ _ => trivial) h hpass trivial
    (stmt_refuses_nil hend)
  exact hmany.bind ((atEnd_accepts hend).bind (accepts_pure _ _))

end Grammar

/-! ### Texts -/

/-- **What is accepted**: a text is read as a program exactly if the grammar derives its statements,
with all spans, from some layout of the text. -/
theorem Program.parse_eq_ok_iff {file : Nat} {text : Bytes} {p : Program} :
    parse file text = .ok p ↔
      p.span = ⟨file, 0, text.length⟩ ∧ Grammar.Sentence file text p.stmts := by
  have htrim := (Cursor.start file text).isTrimmed_skipBlanks
  constructor
  · intro h
    rw [parse] at h
    split at h
    · rename_i stmts c hread
      obtain ⟨hend, ls, hls, hpass⟩ := Grammar.stmts_sound htrim hread
      cases h
      exact ⟨rfl, ls, Grammar.laid_of_passes hpass hend, hls⟩
    · cases h
  · rintro ⟨hspan, ls, hlaid, hls⟩
    have hread := (Grammar.stmts_accepts hls (Grammar.passes_of_laid hlaid) rfl).value_eq
    obtain ⟨stmts, span⟩ := p
    obtain rfl : span = ⟨file, 0, text.length⟩ := hspan
    simp only [parse, Cursor.start, hread]

namespace Grammar

theorem Sentence.parse_eq_ok {file : Nat} {text : Bytes} {stmts : List Stmt}
    (h : Sentence file text stmts) :
    Program.parse file text = .ok ⟨stmts, ⟨file, 0, text.length⟩⟩ :=
  Program.parse_eq_ok_iff.mpr ⟨rfl, h⟩

/-- **The reader accepts the language of the grammar**, read as an ordinary context-free grammar:
up to spans, the trees that are read from a text are those that the rules derive from it. No text
has two trees. -/
theorem parse_iff_sentence (file : Nat) (text : Bytes) :
    (∀ tree : List Stmt,
      (∃ p, Program.parse file text = .ok p ∧ p.stmts.map Stmt.erase = tree) ↔
        ∃ stmts, Sentence file text stmts ∧ stmts.map Stmt.erase = tree) ∧
    ∀ stmts stmts' : List Stmt,
      Sentence file text stmts → Sentence file text stmts' → stmts = stmts' := by
  refine ⟨fun tree => ⟨?_, ?_⟩, fun stmts stmts' h h' => ?_⟩
  · rintro ⟨p, hp, rfl⟩
    exact ⟨p.stmts, (Program.parse_eq_ok_iff.mp hp).2, rfl⟩
  · rintro ⟨stmts, h, rfl⟩
    exact ⟨_, h.parse_eq_ok, rfl⟩
  · have heq := h.parse_eq_ok.symm.trans h'.parse_eq_ok
    cases heq
    rfl

private theorem sentence_assign :
    Sentence 0 "a = b;".utf8
      [.assign ⟨0, 0, 6⟩ ⟨"a".utf8, ⟨0, 0, 1⟩⟩ (.var ⟨0, 4, 5⟩ "b".utf8)] := by
  have ha : IsName "a".utf8 := by decide
  have hb : IsName "b".utf8 := by decide
  have hblank : Text.Blanks " ".utf8 := @Text.Blanks.cons 32 [] rfl .nil
  have htext : "a = b;".utf8 = [] ++ (Terminal.word "a".utf8 ha).text ++ (" ".utf8 ++
      Terminal.equals.text ++ (" ".utf8 ++ (Terminal.word "b".utf8 hb).text ++ ([] ++
        Terminal.semicolon.text ++ []))) := rfl
  rw [htext]
  refine ⟨_, .cons .nil (.cons hblank (.cons hblank (.cons .nil (.nil .nil)))), ?_⟩
  exact Repeated.cons (Statement.assign (.atom .name)) .nil

/-- A binding is read although its name could begin an expression, and it is nothing else. -/
theorem parse_iff_sentence_assign :
    (∃ p, Program.parse 0 "a = b;".utf8 = .ok p ∧ p.stmts.map Stmt.erase =
      [.assign Span.none ⟨"a".utf8, Span.none⟩ (.var Span.none "b".utf8)]) ∧
    ∀ stmts, Sentence 0 "a = b;".utf8 stmts →
      stmts = [.assign ⟨0, 0, 6⟩ ⟨"a".utf8, ⟨0, 0, 1⟩⟩ (.var ⟨0, 4, 5⟩ "b".utf8)] := by
  obtain ⟨hread, hunique⟩ := parse_iff_sentence 0 "a = b;".utf8
  exact ⟨(hread _).mpr ⟨_, sentence_assign, rfl⟩, fun stmts h => hunique _ _ h sentence_assign⟩

end Grammar

end TensorLang
