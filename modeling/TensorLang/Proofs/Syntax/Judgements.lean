import TensorLang.Proofs.Syntax.Expectations

/-!
# What a rejected literal means

A reader that rejects a literal has read everything before it. What the rejection means for other
texts that begin alike is followed through the readers (`Reader.Judges`): the text up to the literal
is a way over lexemes, and every text that begins with the same lexemes and the same literal makes
the reader reject a literal, too.

There is one exception. The first number of a tensor is read twice, as a dimension and, if no filled
tensor comes of it, as the lower bound of a range, and the second reading allows less. If only the
second reading rejects the number, then the rule of the reader can go on behind it.

The proofs follow the readers like those of soundness (`Judges.many`, `fill_judges`, `range_judged`
and so on); the last one is `stmts_judged`.
-/

namespace TensorLang

open Cursor (Passes Step Stops)
open Grammar (Lexeme Terminal Repeated Anywhere)

namespace LiteralProblem

/-- The text that was rejected. -/
def text : LiteralProblem → Bytes
  | int32 digits | dimension digits => digits
  | dtype word => word

/-- The literal was meant to fit 32 bits, and would do for a dimension. -/
def FitsDimension : LiteralProblem → Prop
  | int32 digits => Decimal.value digits < 9223372036854775808
  | dimension _ | dtype _ => False

end LiteralProblem

/-! ### Texts that begin alike -/

theorem Cursor.Passes.isTrimmed_of_last {c c' : Cursor} {ls : List Lexeme} {last : Lexeme}
    (h : Passes c ls c') (hlast : ls.getLast? = some last) : c.IsTrimmed := by
  refine h.isTrimmed_left ?_
  rintro rfl
  cases hlast

/-- These bytes stand ahead, and the text behind them does not go on like a number or a name. -/
def Cursor.Shows (c : Cursor) (w : Bytes) : Prop :=
  ∃ tail : Bytes, c.rest = w ++ tail ∧ ∀ b, tail.head? = some b → Grammar.isNamePart b = false

/-- The literal that the problem is about stands ahead, under the span. -/
structure Cursor.Ahead (c : Cursor) (span : Span) (problem : LiteralProblem) : Prop where
  terminal : ∃ t : Terminal, t.text = problem.text
  rest_eq : ∃ tail, c.rest = problem.text ++ tail
  span_eq : span = c.spanOf problem.text.length

/-- A literal was rejected on the way. -/
def Reply.Rejects {α : Type} (r : Reply α) : Prop :=
  ∃ span problem, .rejected span problem ∈ r.log

namespace Reader

variable {α β : Type} {p q : Reader α} {f : α → Reader β} {c c' : Cursor} {a : α}

theorem rejects_bind_left (h : (p c).Rejects) : ((p >>= f) c).Rejects := by
  obtain ⟨span, problem, hmem⟩ := h
  exact ⟨span, problem, mem_log_bind.mpr (.inl hmem)⟩

theorem Accepts.rejects_bind (hp : p.Accepts c a c') (h : (f a c').Rejects) :
    ((p >>= f) c).Rejects := by
  obtain ⟨span, problem, hmem⟩ := h
  exact ⟨span, problem, mem_log_bind.mpr (.inr ⟨a, c', hp.value_eq, hmem⟩)⟩

theorem rejects_orElse_left (h : (p c).Rejects) : (orElse p q c).Rejects := by
  obtain ⟨span, problem, hmem⟩ := h
  exact ⟨span, problem, mem_log_orElse.mpr (.inl hmem)⟩

theorem Refuses.rejects_orElse (hp : p.Refuses c) (h : (q c).Rejects) :
    (orElse p q c).Rejects := by
  obtain ⟨log, fits, hp, -⟩ := hp
  obtain ⟨span, problem, hmem⟩ := h
  exact ⟨span, problem, mem_log_orElse.mpr (.inr ⟨congrArg Reply.value hp, hmem⟩)⟩

theorem rejects_optional (h : (p c).Rejects) : (optional p c).Rejects := by
  rwa [Reply.Rejects, log_optional]

theorem rejects_many (h : (p c).Rejects) : (many p c).Rejects := by
  obtain ⟨span, problem, hmem⟩ := h
  exact ⟨span, problem, mem_log_many.mpr (.inl hmem)⟩

theorem Accepts.rejects_many (hp : p.Accepts c a c') (hlt : c'.rest.length < c.rest.length)
    (h : (Reader.many p c').Rejects) : (Reader.many p c).Rejects := by
  obtain ⟨span, problem, hmem⟩ := h
  exact ⟨span, problem, mem_log_many.mpr (.inr ⟨a, c', hp.value_eq, hlt, hmem⟩)⟩

theorem rejects_padded (hc : c.IsTrimmed) (h : (p c).Rejects) : (padded p c).Rejects := by
  rwa [Reply.Rejects, log_padded hc]

theorem rejects_located {g : α → Span → β} (h : (p c).Rejects) : (located p g c).Rejects := by
  rwa [Reply.Rejects, log_located]

/-! ### Judgements -/

/-- What it means that the reader rejects a literal that stands behind the lexemes `ls`, the last of
which is `last`. If the literal may be a dimension and stands at the beginning of a tensor, then the
rule goes on with it. Otherwise the reader rejects a literal in every text that begins with the same
lexemes and the same literal. Such a text suits what is read before it. -/
structure Judgement (p : Reader α) (rule : List Lexeme → α → Prop) (follow : Cursor → Prop)
    (c : Cursor) (span : Span) (problem : LiteralProblem) (ls : List Lexeme) (last : Lexeme)
    (c' : Cursor) : Prop where
  passes : Passes c ls c'
  last_eq : ls.getLast? = some last
  ahead : c'.Ahead span problem
  follows : ∀ ⦃d d'⦄, Passes d ls d' → follow d
  goes : problem.FitsDimension → last.value = .openBracket →
    ∃ n, c.Promises n span.start (.token problem.text) rule
  bars : ¬ (problem.FitsDimension ∧ last.value = .openBracket) →
    ∀ ⦃d d'⦄, Passes d ls d' → d'.Shows problem.text → (p d).Rejects

/-- The rejected literal stands behind some lexemes. -/
def Judged (p : Reader α) (rule : List Lexeme → α → Prop) (follow : Cursor → Prop) (c : Cursor)
    (span : Span) (problem : LiteralProblem) : Prop :=
  ∃ ls last c', Judgement p rule follow c span problem ls last c'

/-- Everything that the reader rejects, from a place with no blank ahead, is judged. -/
def Judges (p : Reader α) (rule : List Lexeme → α → Prop) (follow : Cursor → Prop) : Prop :=
  ∀ ⦃c : Cursor⦄ ⦃span : Span⦄ ⦃problem : LiteralProblem⦄, c.IsTrimmed →
    .rejected span problem ∈ (p c).log → p.Judged rule follow c span problem

section

variable {rule : List Lexeme → α → Prop} {rule' : List Lexeme → β → Prop}
  {follow follow' : Cursor → Prop} {span : Span} {problem : LiteralProblem} {ls : List Lexeme}
  {last : Lexeme}

/-- What the first part of a sequence rejects; the terminals `us` complete that part. -/
theorem Judged.bind_left (h : p.Judged rule follow c span problem) (us : List Terminal)
    (hus : ∀ ls a, rule ls a → Anywhere us fun ms => ∃ b, rule' (ls ++ ms) b) :
    (p >>= f).Judged rule' follow c span problem := by
  obtain ⟨ls, last, c', h⟩ := h
  exact ⟨ls, last, c', { h with
    goes := fun hfits hopen => (h.goes hfits hopen).imp' _ fun _ hgoes => hgoes.within .nil us hus
    bars := fun hno _ _ hd hshows => rejects_bind_left (h.bars hno hd hshows) }⟩

/-- What is rejected behind lexemes that are always read alike. -/
theorem Judgement.behind {q : Reader β} {ks : List Lexeme} {rule₁ : List Lexeme → α → Prop}
    (h : Judgement p rule₁ follow c' span problem ls last c) {c₀ : Cursor}
    (hpass : Passes c₀ ks c') (hrule : ∀ ls a, rule₁ ls a → ∃ b, rule' (ks ++ ls) b)
    (hfollow' : ∀ ⦃d d'⦄, Passes d ks d' → follow' d)
    (hread : ∀ ⦃d d'⦄, Passes d ks d' → follow d' → (p d').Rejects → (q d).Rejects) :
    Judgement q rule' follow' c₀ span problem (ks ++ ls) last c where
  passes := hpass.append h.passes
  last_eq := by rw [List.getLast?_append, h.last_eq, Option.some_or]
  ahead := h.ahead
  follows d d' hd := by
    obtain ⟨d₁, hd₁, -⟩ := Cursor.passes_append_iff.mp hd
    exact hfollow' hd₁
  goes hfits hopen := (h.goes hfits hopen).imp fun _ hgoes => hgoes.behind hpass hrule
  bars hno d d' hd hshows := by
    obtain ⟨d₁, hd₁, hd₂⟩ := Cursor.passes_append_iff.mp hd
    exact hread hd₁ (h.follows hd₂) (h.bars hno hd₂ hshows)

/-- What the second part of a sequence rejects, given how the first part was read. -/
theorem Judged.bind_right {ks : List Lexeme} (rule₁ : List Lexeme → β → Prop)
    (h : (f a).Judged rule₁ follow c' span problem) (hp : p.Complete rule follow)
    (hks : rule ks a) (hpass : Passes c ks c')
    (hrule : ∀ ls b, rule₁ ls b → ∃ b', rule' (ks ++ ls) b')
    (hfollow' : ∀ ⦃d d'⦄, Passes d ks d' → follow' d) :
    (p >>= f).Judged rule' follow' c span problem := by
  obtain ⟨ls, last, c'', h⟩ := h
  refine ⟨ks ++ ls, last, c'', h.behind hpass hrule hfollow' fun d d' hd hstop hrejects => ?_⟩
  exact (hp hks hd hstop).rejects_bind hrejects

theorem Judged.padded (h : p.Judged rule follow c span problem) :
    (padded p).Judged rule follow c span problem := by
  obtain ⟨ls, last, c', h⟩ := h
  exact ⟨ls, last, c', { h with
    bars := fun hno _ _ hd hshows =>
      rejects_padded (hd.isTrimmed_of_last h.last_eq) (h.bars hno hd hshows) }⟩

/-- What is rejected before there is a span. -/
theorem Judged.located {p : Reader (Span → α)}
    (h : p.Judged (Derivable rule) follow c span problem) :
    (located p id).Judged rule follow c span problem := by
  obtain ⟨ls, last, c', h⟩ := h
  exact ⟨ls, last, c', { h with
    goes := fun hfits hopen =>
      (h.goes hfits hopen).imp fun _ hgoes => hgoes.behind .nil fun _ _ hls => hls
    bars := fun hno _ _ hd hshows => rejects_located (h.bars hno hd hshows) }⟩

theorem Judged.orElse_left (h : p.Judged rule follow c span problem) :
    (orElse p q).Judged rule follow c span problem := by
  obtain ⟨ls, last, c', h⟩ := h
  exact ⟨ls, last, c', { h with
    bars := fun hno _ _ hd hshows => rejects_orElse_left (h.bars hno hd hshows) }⟩

theorem Judged.imp {rule' : List Lexeme → α → Prop} (h : p.Judged rule follow c span problem)
    (hrule : ∀ ls a, rule ls a → rule' ls a) : p.Judged rule' follow c span problem := by
  obtain ⟨ls, last, c', h⟩ := h
  exact ⟨ls, last, c', { h with
    goes := fun hfits hopen =>
      (h.goes hfits hopen).imp fun _ hgoes =>
        hgoes.behind .nil fun ls a ha => ⟨a, hrule ls a ha⟩ }⟩

/-- What a repetition rejects: the rounds before it are read again wherever their lexemes stand. -/
theorem Judges.many (hp : p.Judges rule follow) (hsound : p.Sound rule)
    (hcomplete : p.Complete rule follow) (hne : ∀ ⦃ls a⦄, rule ls a → ls ≠ [])
    (hstart : ∀ ⦃c c' ls a⦄, rule ls a → Passes c ls c' → follow c) :
    Judges (many p) (Repeated rule) follow := by
  intro c span problem hc h
  induction c, h using log_many_induction with
  | here c _ h =>
    obtain ⟨ls, last, c', h⟩ := hp hc h
    refine ⟨ls, last, c', { h with goes := fun hfits hopen => ?_, bars := ?_ }⟩
    · refine (h.goes hfits hopen).imp fun _ hgoes => hgoes.behind .nil fun ls a ha => ⟨[a], ?_⟩
      simpa using Repeated.cons ha .nil
    · exact fun hno d d' hd hshows => rejects_many (h.bars hno hd hshows)
  | round c _ a c' hread _ ih =>
    obtain ⟨ks, hks, hpass⟩ := hsound hc hread
    obtain ⟨ls, last, c'', h⟩ := ih (hpass.isTrimmed hc)
    refine ⟨ks ++ ls, last, c'', h.behind hpass (fun ms as has => ⟨a :: as, .cons hks has⟩)
      (fun d d' hd => hstart hks hd) fun d d' hd hstop hrejects => ?_⟩
    exact (hcomplete hks hd hstop).rejects_many (hd.length_lt (hne hks)) hrejects

end

end Reader

/-! ### A literal ahead -/

namespace Reader

variable {α β : Type} {p : Reader α} {q : Reader β} {c c' : Cursor} {span : Span}
  {problem : LiteralProblem}

/-- The literal ahead is rejected, and so it is in every text that begins with it. -/
structure Faulty (q : Reader β) (c : Cursor) (span : Span) (problem : LiteralProblem) : Prop where
  ahead : c.Ahead span problem
  everywhere : ∀ ⦃d : Cursor⦄, d.IsTrimmed → d.Shows problem.text → (q d).Rejects

/-- A literal that is not spared, behind lexemes that the reader of the whole passes over. -/
theorem Faulty.judged {rule : List Lexeme → α → Prop} {follow : Cursor → Prop} {ls : List Lexeme}
    (h : q.Faulty c' span problem) (last : Lexeme) (hpass : Passes c ls c')
    (hlast : ls.getLast? = some last)
    (hno : ¬ (problem.FitsDimension ∧ last.value = .openBracket))
    (hfollow : ∀ ⦃d d'⦄, Passes d ls d' → follow d)
    (hread : ∀ ⦃d d'⦄, Passes d ls d' → (q d').Rejects → (p d).Rejects) :
    p.Judged rule follow c span problem := by
  refine ⟨ls, last, c', hpass, hlast, h.ahead, hfollow, ?_, ?_⟩
  · exact fun hfits hopen => absurd ⟨hfits, hopen⟩ hno
  · intro _ d d' hd hshows
    exact hread hd (h.everywhere (hd.isTrimmed (hd.isTrimmed_of_last hlast)) hshows)

end Reader

namespace Grammar

open Reader

variable {c c' : Cursor} {span : Span} {problem : LiteralProblem}

/-! ### Literals -/

section

variable {β : Type} {label : Label} {first rest : UInt8 → Bool}
  {g : Bytes → Except LiteralProblem β}

theorem literal_rejects {d : Cursor} {b : UInt8} {bs : Bytes}
    (hrest : ∀ x, rest x = true → isNamePart x = true) (hb : first b = true)
    (hbs : ∀ x ∈ bs, rest x = true) (hg : g (b :: bs) = .error problem) (hd : d.IsTrimmed)
    (hshows : d.Shows (b :: bs)) :
    (padded (located (convert (run label first rest) g) Spanned.mk) d).Rejects := by
  obtain ⟨tail, hsplit, hstops⟩ := hshows
  have hread : (run label first rest).Accepts d (b :: bs) (d.advance (b :: bs).length) := by
    refine run_accepts hsplit hb hbs fun x hx => Bool.eq_false_iff.mpr fun htrue => ?_
    exact absurd (hrest x htrue) (by simp [hstops x hx])
  have hrejects : .rejected (d.spanTo (d.advance (b :: bs).length)) problem ∈
      (convert (run label first rest) g d).log :=
    mem_log_convert.mpr (.inr ⟨_, _, problem, hread.value_eq, hg, rfl⟩)
  exact rejects_padded hd (rejects_located ⟨_, _, hrejects⟩)

/-- What a reader of literals rejects, and how it was written. -/
theorem exists_literal
    (hterminal : ∀ b bs, first b = true → (∀ x ∈ bs, rest x = true) →
      ∃ t : Terminal, t.text = b :: bs)
    (hrest : ∀ x, rest x = true → isNamePart x = true)
    (htext : ∀ w problem, g w = .error problem → problem.text = w) (hc : c.IsTrimmed)
    (h : .rejected span problem ∈
      (padded (located (convert (run label first rest) g) Spanned.mk) c).log) :
    (padded (located (convert (run label first rest) g) Spanned.mk)).Faulty c span problem ∧
      ∃ b bs, problem.text = b :: bs ∧ first b = true ∧ (∀ x ∈ bs, rest x = true) ∧
        g problem.text = .error problem := by
  rw [log_padded hc, log_located] at h
  obtain h | ⟨w, c', problem', hread, hg, heq⟩ := mem_log_convert.mp h
  · cases (mem_log_run.mp h).2
  · cases heq
    obtain ⟨b, bs, tail, hw, hb, hbs, hsplit, rfl⟩ := run_eq_some hread
    obtain rfl := htext _ _ hg
    refine ⟨⟨⟨?_, ⟨tail, hsplit⟩, rfl⟩, fun d hd hshows => ?_⟩, b, bs, hw, hb, hbs, hg⟩
    · rw [hw]
      exact hterminal b bs hb hbs
    · rw [hw] at hg hshows
      exact literal_rejects hrest hb hbs hg hd hshows

end

theorem isNamePart_of_isDigit (b : UInt8) (h : Decimal.isDigit b = true) :
    isNamePart b = true := by
  rw [isNamePart, h, Bool.or_true]

/-- A run of digits is a number. -/
theorem exists_number (b : UInt8) (bs : Bytes) (hb : Decimal.isDigit b = true)
    (hbs : ∀ x ∈ bs, Decimal.isDigit x = true) : ∃ t : Terminal, t.text = b :: bs :=
  ⟨.number (b :: bs) ⟨List.cons_ne_nil b bs, List.forall_mem_cons.mpr ⟨hb, hbs⟩⟩, rfl⟩

theorem int32_faulty (hc : c.IsTrimmed) (h : .rejected span problem ∈ (int32 c).log) :
    int32.Faulty c span problem ∧ ∃ digits, IsNumber digits ∧ problem = .int32 digits := by
  have hkind : ∀ w problem, toInt32 w = .error problem → problem = .int32 w := by
    intro w problem hw
    rw [toInt32] at hw
    split_ifs at hw
    cases hw
    rfl
  obtain ⟨hfaulty, b, bs, htext, hb, hbs, hg⟩ :=
    exists_literal exists_number isNamePart_of_isDigit
      (fun w problem hw => by rw [hkind w problem hw]; rfl) hc h
  refine ⟨hfaulty, problem.text, ?_, hkind _ _ hg⟩
  rw [htext]
  exact ⟨List.cons_ne_nil b bs, List.forall_mem_cons.mpr ⟨hb, hbs⟩⟩

theorem dimension_faulty (hc : c.IsTrimmed) (h : .rejected span problem ∈ (dimension c).log) :
    dimension.Faulty c span problem ∧ ¬ problem.FitsDimension := by
  have hkind : ∀ w problem, toDimension w = .error problem → problem = .dimension w := by
    intro w problem hw
    rw [toDimension] at hw
    split_ifs at hw
    cases hw
    rfl
  obtain ⟨hfaulty, _, _, -, -, -, hg⟩ :=
    exists_literal exists_number isNamePart_of_isDigit
      (fun w problem hw => by rw [hkind w problem hw]; rfl) hc h
  refine ⟨hfaulty, fun hfits => ?_⟩
  rw [hkind _ _ hg] at hfits
  exact hfits

theorem dtype_faulty (hc : c.IsTrimmed) (h : .rejected span problem ∈ (dtype c).log) :
    dtype.Faulty c span problem := by
  have htext : ∀ w problem, toDType w = .error problem → problem.text = w := by
    intro w problem hw
    rw [toDType] at hw
    split at hw
    · cases hw
    · cases hw
      rfl
  exact (exists_literal (fun b bs hb hbs => ⟨.word (b :: bs) ⟨hb, hbs⟩, rfl⟩) (fun _ hx => hx)
    htext hc h).1

/-- A number that is no dimension is rejected as one, whatever else rejected it. -/
theorem dimension_rejects {d : Cursor} {digits : Bytes} (hdigits : IsNumber digits)
    (hlarge : ¬ Decimal.value digits < 9223372036854775808) (hd : d.IsTrimmed)
    (hshows : d.Shows digits) : (dimension d).Rejects := by
  obtain ⟨b, bs, rfl⟩ := List.exists_cons_of_ne_nil hdigits.1
  obtain ⟨hb, hbs⟩ := List.forall_mem_cons.mp hdigits.2
  exact literal_rejects isNamePart_of_isDigit hb hbs (if_neg hlarge) hd hshows

/-! ### Signs -/

theorem not_mem_log_token {text : String} : .rejected span problem ∉ (token text c).log := by
  intro h
  have h' : .rejected span problem ∈ (exactly text.utf8 c.skipBlanks).log := h
  cases (mem_log_exactly.mp h').2

theorem sign_complete {text : String} {t : Terminal} (ht : t.text = text.utf8) :
    Complete (token text) (Sign t) fun _ => True := by
  rintro c c' _ s ⟨⟩ hpass _
  have hstep := Cursor.passes_singleton_iff.mp hpass
  exact token_accepts hstep ht

/-- What is rejected behind a sign. -/
theorem exists_step_of_rejected {α : Type} {text : String} (t : Terminal) {f : Span → Reader α}
    (ht : t.text = text.utf8) (hc : c.IsTrimmed)
    (h : .rejected span problem ∈ ((token text >>= f) c).log) :
    ∃ s c₁, Step c ⟨t, s⟩ c₁ ∧ .rejected span problem ∈ (f s c₁).log := by
  obtain h | ⟨s, c₁, hread, h⟩ := mem_log_bind.mp h
  · exact absurd h not_mem_log_token
  · exact ⟨s, c₁, token_sound t ht hc hread, h⟩

/-! ### Tensors -/

theorem moreDims_judges :
    Judges (token "x" >>= fun _ => dimension) MoreDims (Stops · Decimal.isDigit) := by
  intro c span problem hc h
  obtain ⟨s, c₁, hx, h⟩ := exists_step_of_rejected .times rfl hc h
  obtain ⟨hfaulty, hno⟩ := dimension_faulty hx.isTrimmed h
  refine hfaulty.judged _ hx.passes rfl (fun hspared => hno hspared.1) ?_ ?_
  · intro d d' hd
    obtain ⟨d₁, hstep, -⟩ := Cursor.passes_cons_iff.mp hd
    exact hstep.stops rfl
  · intro d d' hd hrejects
    have hstep := Cursor.passes_singleton_iff.mp hd
    exact (token_accepts hstep rfl).rejects_bind hrejects

/-- What is rejected among the dimensions: the first one, or one behind a sign. -/
theorem dims_rejected (hc : c.IsTrimmed)
    (h : .rejected span problem ∈ (separated dimension (token "x") c).log) :
    (dimension.Faulty c span problem ∧ ¬ problem.FitsDimension) ∨
      (separated dimension (token "x")).Judged Dims (fun _ => True) c span problem := by
  obtain hfirst | ⟨o, c₁, hread, hmore⟩ := mem_log_bind.mp h
  · rw [log_optional] at hfirst
    exact .inl (dimension_faulty hc hfirst)
  obtain ⟨d, rfl, hd⟩ | ⟨rfl, rfl, -⟩ := optional_eq_some.mp hread
  · obtain ⟨l, hl, hstep⟩ := dimension_sound hc hd
    have hcomplete : Complete (optional dimension)
        (fun ls o => ∃ l d, ls = [l] ∧ o = some d ∧ Dimension l d) (Stops · Decimal.isDigit) := by
      rintro c c' _ _ ⟨l, d, rfl, rfl, hl⟩ hpass hstop
      have hstep := Cursor.passes_singleton_iff.mp hpass
      exact (dimension_accepts hl hstep hstop).optional
    obtain hmany | ⟨_, _, -, hpure⟩ := mem_log_bind.mp hmore
    · have hstart : ∀ ⦃c c' ls d⦄, MoreDims ls d → Passes c ls c' → c.Stops Decimal.isDigit := by
        rintro c c' ls d ⟨⟩ hpass
        obtain ⟨c₁, hstep, -⟩ := Cursor.passes_cons_iff.mp hpass
        exact hstep.stops rfl
      have hjudged := moreDims_judges.many moreDims_sound moreDims_complete
        (fun _ _ h => by cases h; simp) hstart hstep.isTrimmed hmany
      refine .inr (Judged.bind_right (fun ms ds => Dims (l :: ms) ds)
        (hjudged.bind_left [] fun ls ds hds => ?_) hcomplete ⟨l, d, rfl, rfl, hl⟩ hstep.passes
        (fun ls ds hds => ⟨ds, hds⟩) fun _ _ _ => trivial)
      rw [Anywhere, List.append_nil]
      exact ⟨d :: ds, .some hl hds⟩
    · exact absurd hpure not_mem_log_pure
  · exact absurd hmore not_mem_log_pure

/-- What a filled tensor rejects behind its dimensions, which are read alike in every tensor that
begins alike. -/
theorem fill_judged_of_dims {α : Type} {q : Reader α} {first semi : Span} {ls ms : List Lexeme}
    {shape : List (Spanned Int64)} {last : Lexeme} (h : q.Faulty c' span problem)
    (hls : Dims ls shape)
    (hpass : Passes c (⟨.openBracket, first⟩ :: (ls ++ ⟨.semicolon, semi⟩ :: ms)) c')
    (hlast : (⟨.semicolon, semi⟩ :: ms).getLast? = some last) (hsign : last.value ≠ .openBracket)
    (hread : ∀ ⦃d d'⦄, Passes d ms d' → (q d').Rejects → ((int32 >>= fun value => do
      let dt ← optional (do let _ ← token ";"; dtype)
      let _ ← token "]"
      pure fun span => Expr.fill span value shape dt) d).Rejects) :
    fill.Judged (Derivable FillTensor) (fun _ => True) c span problem := by
  refine h.judged last hpass ?_ (fun hspared => hsign hspared.2) (fun _ _ _ => trivial) ?_
  · rw [← List.cons_append, List.getLast?_append, hlast, Option.some_or]
  · intro d d' hd hrejects
    obtain ⟨d₁, hopen, hd⟩ := Cursor.passes_cons_iff.mp hd
    obtain ⟨d₂, hpass, hd⟩ := Cursor.passes_append_iff.mp hd
    obtain ⟨d₃, hsemi, hd⟩ := Cursor.passes_cons_iff.mp hd
    have hdims := dims_accepts hls hopen.isTrimmed hpass (hsemi.stops rfl)
      (hsemi.head?_ne (by decide))
    exact (token_accepts hopen rfl).rejects_bind <| hdims.rejects_bind <|
      (token_accepts hsemi rfl).rejects_bind (hread hd hrejects)

theorem fill_judges : Judges fill (Derivable FillTensor) fun _ => True := by
  intro c span problem hc h
  obtain ⟨first, c₁, hopen, h⟩ := exists_step_of_rejected .openBracket rfl hc h
  obtain hdims | ⟨shape, c₂, hread, h⟩ := mem_log_bind.mp h
  · obtain ⟨hfaulty, hno⟩ | hjudged := dims_rejected hopen.isTrimmed hdims
    · refine hfaulty.judged _ hopen.passes rfl (fun hspared => hno hspared.1)
        (fun _ _ _ => trivial) ?_
      intro d d' hd hrejects
      have hopen := Cursor.passes_singleton_iff.mp hd
      have hfirst : (separated dimension (token "x") d').Rejects :=
        rejects_bind_left (rejects_optional hrejects)
      exact (token_accepts hopen rfl).rejects_bind (rejects_bind_left hfirst)
    · exact Judged.bind_right
        (fun ms node => Derivable FillTensor (⟨.openBracket, first⟩ :: ms) node)
        (hjudged.bind_left [.semicolon, zero, .closeBracket] fun ls ds hds => fill_zero first hds)
        (sign_complete rfl) .mk hopen.passes (fun ls e he => ⟨e, he⟩) fun _ _ _ => trivial
  obtain ⟨ls, hls, hpass⟩ := dims_sound hopen.isTrimmed hread
  obtain ⟨semi, c₃, hsemi, h⟩ :=
    exists_step_of_rejected .semicolon rfl (hpass.isTrimmed hopen.isTrimmed) h
  obtain hvalue | ⟨value, c₄, hread, h⟩ := mem_log_bind.mp h
  · obtain ⟨hfaulty, -⟩ := int32_faulty hsemi.isTrimmed hvalue
    refine fill_judged_of_dims hfaulty hls (.cons hopen (hpass.append hsemi.passes)) rfl nofun ?_
    intro d d' hd hrejects
    obtain rfl := Cursor.passes_nil_iff.mp hd
    exact rejects_bind_left hrejects
  obtain ⟨n, hn, hstep⟩ := int32_sound hsemi.isTrimmed hread
  obtain hdt | ⟨_, _, -, h⟩ := mem_log_bind.mp h
  · rw [log_optional] at hdt
    obtain ⟨semi', c₅, hsemi', hdt⟩ := exists_step_of_rejected .semicolon rfl hstep.isTrimmed hdt
    have hfaulty := dtype_faulty hsemi'.isTrimmed hdt
    refine fill_judged_of_dims hfaulty hls
      (.cons hopen (hpass.append (.cons hsemi (.cons hstep hsemi'.passes)))) rfl nofun ?_
    intro d d' hd hrejects
    obtain ⟨d₁, hstep, hd⟩ := Cursor.passes_cons_iff.mp hd
    have hsemi' := Cursor.passes_singleton_iff.mp hd
    have hoptional : (optional (token ";" >>= fun _ => dtype) d₁).Rejects :=
      rejects_optional ((token_accepts hsemi' rfl).rejects_bind hrejects)
    exact (int32_accepts hn hstep (hsemi'.stops rfl)).rejects_bind (rejects_bind_left hoptional)
  · obtain h | ⟨_, _, -, h⟩ := mem_log_bind.mp h
    · exact absurd h not_mem_log_token
    · exact absurd h not_mem_log_pure

/-- What a range rejects in its second or third number: the dots before it keep every tensor that
begins alike from being read as a filled one. -/
theorem range_judged_of_dots {α : Type} {q : Reader α} {first between : Span} {l : Lexeme}
    {lo : Spanned Int32} {ms : List Lexeme} {last : Lexeme} (h : q.Faulty c' span problem)
    (hlo : Int32Literal l lo)
    (hpass : Passes c (⟨.openBracket, first⟩ :: l :: ⟨.dots, between⟩ :: ms) c')
    (hlast : (⟨.dots, between⟩ :: ms).getLast? = some last) (hsign : last.value ≠ .openBracket)
    (hread : ∀ ⦃d d'⦄, Passes d ms d' → (q d').Rejects → ((int32 >>= fun hi => do
      let step ← optional (do let _ ← token ";"; int32)
      let _ ← token "]"
      pure fun span => Expr.range span lo hi step) d).Rejects) :
    (orElse fill (orElse range nameRef)).Judged (Derivable Atom) (fun _ => True) c span
      problem := by
  refine h.judged last hpass ?_ (fun hspared => hsign hspared.2) (fun _ _ _ => trivial) ?_
  · rw [List.getLast?_cons_cons, List.getLast?_cons_cons, hlast]
  · intro d d' hd hrejects
    refine (fill_refuses_dots hlo hd).rejects_orElse (rejects_orElse_left ?_)
    obtain ⟨d₁, hopen, hd⟩ := Cursor.passes_cons_iff.mp hd
    obtain ⟨d₂, hl, hd⟩ := Cursor.passes_cons_iff.mp hd
    obtain ⟨d₃, hdots, hd⟩ := Cursor.passes_cons_iff.mp hd
    exact (token_accepts hopen rfl).rejects_bind <|
      (int32_accepts hlo hl (hdots.stops rfl)).rejects_bind <|
      (token_accepts hdots rfl).rejects_bind (hread hd hrejects)

/-- What a range rejects, seen from the operand. Its first number is a dimension as well, unless it
is too large for that, too. -/
theorem range_judged (hc : c.IsTrimmed) (h : .rejected span problem ∈ (range c).log) :
    (orElse fill (orElse range nameRef)).Judged (Derivable Atom) (fun _ => True) c span
      problem := by
  obtain ⟨first, c₁, hopen, h⟩ := exists_step_of_rejected .openBracket rfl hc h
  obtain hlow | ⟨lo, c₂, hread, h⟩ := mem_log_bind.mp h
  · obtain ⟨hfaulty, digits, hdigits, rfl⟩ := int32_faulty hopen.isTrimmed hlow
    refine ⟨[⟨.openBracket, first⟩], _, c₁, hopen.passes, rfl, hfaulty.ahead,
      fun _ _ _ => trivial, ?_, ?_⟩
    -- as a dimension the number is followed by a value
    · intro hfits _
      refine ⟨_, [⟨.openBracket, first⟩], c₁, .number digits hdigits,
        [.semicolon, zero, .closeBracket], hopen.passes, ?_, rfl, Nat.le_refl _, fun s => ?_⟩
      · rw [hfaulty.ahead.span_eq]
        rfl
      · have hdims : Dims [⟨.number digits hdigits, s⟩]
            [⟨Int64.ofNat (Decimal.value digits), s⟩] := .some (.mk hfits) .nil
        refine (fill_zero first hdims).imp fun ms hms => ?_
        obtain ⟨_, e, he⟩ := hms
        exact exists_derivable (.fill he)
    -- the number is too large for a dimension, too, and that is what is read first
    · intro hno d d' hd hshows
      have hopen := Cursor.passes_singleton_iff.mp hd
      have hlarge : ¬ Decimal.value digits < 9223372036854775808 := fun hlt => hno ⟨hlt, rfl⟩
      have hrejects := dimension_rejects hdigits hlarge hopen.isTrimmed hshows
      have hdims : (separated dimension (token "x") d').Rejects :=
        rejects_bind_left (rejects_optional hrejects)
      exact rejects_orElse_left
        ((token_accepts hopen rfl).rejects_bind (rejects_bind_left hdims))
  obtain ⟨l, hl, hstep⟩ := int32_sound hopen.isTrimmed hread
  obtain ⟨between, c₃, hdots, h⟩ := exists_step_of_rejected .dots rfl hstep.isTrimmed h
  obtain hhigh | ⟨hi, c₄, hread, h⟩ := mem_log_bind.mp h
  · obtain ⟨hfaulty, -⟩ := int32_faulty hdots.isTrimmed hhigh
    refine range_judged_of_dots hfaulty hl (.cons hopen (.cons hstep hdots.passes)) rfl nofun ?_
    intro d d' hd hrejects
    obtain rfl := Cursor.passes_nil_iff.mp hd
    exact rejects_bind_left hrejects
  obtain ⟨m, hm, hstep'⟩ := int32_sound hdots.isTrimmed hread
  obtain hoptional | ⟨_, _, -, h⟩ := mem_log_bind.mp h
  · rw [log_optional] at hoptional
    obtain ⟨semi, c₅, hsemi, hlast⟩ :=
      exists_step_of_rejected .semicolon rfl hstep'.isTrimmed hoptional
    obtain ⟨hfaulty, -⟩ := int32_faulty hsemi.isTrimmed hlast
    refine range_judged_of_dots hfaulty hl
      (.cons hopen (.cons hstep (.cons hdots (.cons hstep' hsemi.passes)))) rfl nofun ?_
    intro d d' hd hrejects
    obtain ⟨d₁, hstep, hd⟩ := Cursor.passes_cons_iff.mp hd
    have hsemi := Cursor.passes_singleton_iff.mp hd
    have hoptional : (optional (token ";" >>= fun _ => int32) d₁).Rejects :=
      rejects_optional ((token_accepts hsemi rfl).rejects_bind hrejects)
    exact (int32_accepts hm hstep (hsemi.stops rfl)).rejects_bind (rejects_bind_left hoptional)
  · obtain h | ⟨_, _, -, h⟩ := mem_log_bind.mp h
    · exact absurd h not_mem_log_token
    · exact absurd h not_mem_log_pure

/-! ### Products and statements -/

theorem atom_judges : Judges atom Atom fun _ => True := by
  intro c span problem hc h
  rw [atom, log_padded hc, log_located] at h
  obtain hfill | ⟨-, h⟩ := mem_log_orElse.mp h
  · have hjudged : fill.Judged (Derivable Atom) (fun _ => True) c span problem :=
      (fill_judges hc hfill).imp fun _ _ ⟨e, he⟩ => ⟨e, .fill he⟩
    exact hjudged.orElse_left.located.padded
  obtain hrange | ⟨-, hname⟩ := mem_log_orElse.mp h
  · exact (range_judged hc hrange).located.padded
  · obtain hword | ⟨_, _, -, hpure⟩ := mem_log_bind.mp hname
    · cases (mem_log_run.mp hword).2
    · exact absurd hpure not_mem_log_pure

theorem factor_judges :
    Judges (token "*" >>= fun op => atom >>= fun rhs => pure (op, rhs)) Factor
      (Stops · isNamePart) := by
  intro c span problem hc h
  obtain ⟨op, c₁, hstar, h⟩ := exists_step_of_rejected .star rfl hc h
  obtain hatom | ⟨_, _, -, hpure⟩ := mem_log_bind.mp h
  · refine Judged.bind_right (fun ms f => Factor (⟨.star, op⟩ :: ms) f)
      ((atom_judges hstar.isTrimmed hatom).bind_left [] fun ls e he => ?_) (sign_complete rfl) .mk
      hstar.passes (fun ls f hf => ⟨f, hf⟩) fun d d' hd => ?_
    · rw [Anywhere, List.append_nil]
      exact ⟨_, .mk he⟩
    · obtain ⟨d₁, hstep, -⟩ := Cursor.passes_cons_iff.mp hd
      exact hstep.stops rfl
  · exact absurd hpure not_mem_log_pure

theorem expr_judges : Judges expr Product fun _ => True := by
  intro c span problem hc h
  obtain hatom | ⟨first, c₁, hread, h⟩ := mem_log_bind.mp h
  · refine (atom_judges hc hatom).bind_left [] fun ls e he => ?_
    rw [Anywhere, List.append_nil]
    exact ⟨e, .atom he⟩
  obtain ⟨ls, hls, hpass⟩ := atom_sound hc hread
  obtain hmany | ⟨_, _, -, hpure⟩ := mem_log_bind.mp h
  · have hstart : ∀ ⦃c c' ls f⦄, Factor ls f → Passes c ls c' → c.Stops isNamePart := by
      rintro c c' ls f ⟨_⟩ hpass
      obtain ⟨c₁, hstep, -⟩ := Cursor.passes_cons_iff.mp hpass
      exact hstep.stops rfl
    have hjudged := factor_judges.many factor_sound factor_complete
      (fun _ _ h => by cases h; simp) hstart (hpass.isTrimmed hc) hmany
    refine Judged.bind_right (fun ms e => Product (ls ++ ms) e)
      (hjudged.bind_left [] fun ms factors hfactors => ?_) atom_complete hls hpass
      (fun ms e he => ⟨e, he⟩) fun _ _ _ => trivial
    rw [Anywhere, List.append_nil]
    exact ⟨_, (Product.atom hls).foldl hfactors⟩
  · exact absurd hpure not_mem_log_pure

theorem evalStmt_judges : Judges evalStmt (Derivable Statement) fun _ => True := by
  intro c span problem hc h
  obtain hexpr | ⟨e, c₁, -, h⟩ := mem_log_bind.mp h
  · exact (expr_judges hc hexpr).bind_left [.semicolon]
      fun ls e he semi => exists_derivable (.eval he)
  obtain hsemi | ⟨_, _, -, hpure⟩ := mem_log_bind.mp h
  · exact absurd hsemi not_mem_log_token
  · exact absurd hpure not_mem_log_pure

/-- What a binding rejects: the sign behind the name keeps every statement that begins alike from
being read as an expression. -/
theorem assignStmt_judged (hc : c.IsTrimmed) (h : .rejected span problem ∈ (assignStmt c).log) :
    (orElse evalStmt assignStmt).Judged (Derivable Statement) (fun _ => True) c span problem := by
  obtain hname | ⟨n, c₁, hread, h⟩ := mem_log_bind.mp h
  · rw [name, log_padded hc, log_located] at hname
    cases (mem_log_run.mp hname).2
  obtain ⟨hn, hname⟩ := name_sound hc hread
  obtain ⟨eq, c₂, heq, h⟩ := exists_step_of_rejected .equals rfl hname.isTrimmed h
  obtain hexpr | ⟨e, c₃, -, h⟩ := mem_log_bind.mp h
  · obtain ⟨ls, last, c', hjudged⟩ : (expr >>= fun value => token ";" >>= fun _ =>
        pure fun span => Stmt.assign span n value).Judged
        (fun ms node =>
          Derivable Statement (⟨.word n.value hn, n.span⟩ :: ⟨.equals, eq⟩ :: ms) node)
        (fun _ => True) c₂ span problem :=
      (expr_judges heq.isTrimmed hexpr).bind_left [.semicolon]
        fun ls e he semi => exists_derivable (.assign he)
    refine ⟨_, last, c', hjudged.behind (.cons hname heq.passes) (fun ls s hs => ⟨s, hs⟩)
      (fun _ _ _ => trivial) ?_⟩
    intro d d' hd _ hrejects
    obtain ⟨d₁, hname, hd⟩ := Cursor.passes_cons_iff.mp hd
    have heq := Cursor.passes_singleton_iff.mp hd
    refine (evalStmt_refuses_equals hname heq).rejects_orElse ?_
    exact (name_accepts hname (heq.stops rfl)).rejects_bind <|
      (token_accepts heq rfl).rejects_bind hrejects
  obtain hsemi | ⟨_, _, -, hpure⟩ := mem_log_bind.mp h
  · exact absurd hsemi not_mem_log_token
  · exact absurd hpure not_mem_log_pure

theorem stmt_judges : Judges stmt Statement fun _ => True := by
  intro c span problem hc h
  rw [stmt, log_padded hc, log_located] at h
  obtain heval | ⟨-, hassign⟩ := mem_log_orElse.mp h
  · exact (evalStmt_judges hc heval).orElse_left.located.padded
  · exact (assignStmt_judged hc hassign).located.padded

theorem stmts_judged (hc : c.IsTrimmed) (h : .rejected span problem ∈ (stmts c).log) :
    Judged (many stmt) Statements (fun _ => True) c span problem := by
  obtain hmany | ⟨list, c₁, -, h⟩ := mem_log_bind.mp h
  · exact stmt_judges.many stmt_sound stmt_complete (fun _ _ h => by cases h <;> simp)
      (fun _ _ _ _ _ _ => trivial) hc hmany
  obtain hend | ⟨_, _, -, hpure⟩ := mem_log_bind.mp h
  · cases (mem_log_atEnd.mp hend).2
  · exact absurd hpure not_mem_log_pure

end Grammar

end TensorLang
