import TensorLang.Proofs.Syntax.Complaints
import TensorLang.Proofs.Syntax.Relocation

/-!
# Parsing a text as another file

Every reader of the grammar is related to itself, so the same text in another file is read alike:
the tree is the same with the spans moved over, and so are the errors
(`Relocation.parse_map`). For the errors this needs that moving spans keeps different ones apart,
since a literal that was rejected twice is reported once.
-/

namespace TensorLang

/-- The same error with another span. -/
def SyntaxError.respan (φ : Span → Span) : SyntaxError → SyntaxError
  | mismatch span expected found => mismatch (φ span) expected found
  | rejected span message => rejected (φ span) message

/-- The same errors with other spans. -/
def ParseError.respan (φ : Span → Span) (e : ParseError) : ParseError :=
  ⟨e.first.respan φ, e.more.map (SyntaxError.respan φ)⟩

namespace Relocation

open Reader Grammar

variable {m : Relocation}

/-! ### Trees -/

variable (m) in
/-- An expression and the same one moved. -/
def MovedExpr (e e' : Expr) : Prop := m.Covers e.span ∧ e' = e.respan m.map

variable (m) in
/-- A statement and the same one moved. -/
def MovedStmt (s s' : Stmt) : Prop := s' = s.respan m.map

theorem related_token (text : String) : m.Related m.MovedSpan (token text) (token text) :=
  (related_exactly text.utf8).padded

theorem related_word : m.Related Eq word word := related_run _ _ _

private theorem related_spanned {α : Type} {p : Reader α} (hp : m.Related Eq p p) :
    m.Related m.Moved (located p Spanned.mk) (located p Spanned.mk) :=
  hp.located fun a a' s ha hs => ⟨hs, by rw [← ha]; rfl⟩

theorem related_int32 : m.Related m.Moved int32 int32 :=
  (related_spanned ((related_run _ _ _).convert toInt32)).padded

theorem related_dimension : m.Related m.Moved dimension dimension :=
  (related_spanned ((related_run _ _ _).convert toDimension)).padded

theorem related_dtype : m.Related m.Moved dtype dtype :=
  (related_spanned (related_word.convert toDType)).padded

theorem related_name : m.Related m.Moved name name := (related_spanned related_word).padded

private theorem map_of_forall₂ {α : Type} {R : α → α → Prop} {f : α → α} {xs xs' : List α}
    (hR : ∀ ⦃x x'⦄, R x x' → x' = f x) (h : List.Forall₂ R xs xs') : xs' = xs.map f := by
  induction h with
  | nil => rfl
  | cons hx _ ih => rw [List.map_cons, hR hx, ih]

private theorem map_of_rel {α : Type} {o o' : Option (Spanned α)} (h : Option.Rel m.Moved o o') :
    o' = o.map (Spanned.respan m.map) := by
  cases h with
  | none => rfl
  | some hx => rw [Option.map_some, hx.2]

variable (m) in
/-- What becomes an expression with a span, and the same with the span moved. -/
def MovedNode (node node' : Span → Expr) : Prop :=
  ∀ s, m.Covers s → (node s).span = s ∧ node' (m.map s) = (node s).respan m.map

theorem related_fill : m.Related m.MovedNode fill fill := by
  refine (related_token "[").bind fun _ _ _ => ?_
  refine (related_dimension.separated (related_token "x")).bind fun shape shape' hshape => ?_
  refine (related_token ";").bind fun _ _ _ => ?_
  refine related_int32.bind fun value value' hvalue => ?_
  refine (Related.optional ((related_token ";").bind fun _ _ _ => related_dtype)).bind
    fun dt dt' hdt => ?_
  refine (related_token "]").bind fun _ _ _ => related_pure fun s _ => ⟨rfl, ?_⟩
  rw [Expr.respan, hvalue.2, map_of_rel hdt, map_of_forall₂ (fun _ _ h => h.2) hshape]

theorem related_range : m.Related m.MovedNode range range := by
  refine (related_token "[").bind fun _ _ _ => ?_
  refine related_int32.bind fun lo lo' hlo => ?_
  refine (related_token "..").bind fun _ _ _ => ?_
  refine related_int32.bind fun hi hi' hhi => ?_
  refine (Related.optional ((related_token ";").bind fun _ _ _ => related_int32)).bind
    fun step step' hstep => ?_
  refine (related_token "]").bind fun _ _ _ => related_pure fun s _ => ⟨rfl, ?_⟩
  rw [Expr.respan, hlo.2, hhi.2, map_of_rel hstep]

theorem related_atom : m.Related m.MovedExpr atom atom := by
  have hname : m.Related m.MovedNode nameRef nameRef := by
    refine related_word.bind fun n n' hn => related_pure fun s _ => ⟨rfl, ?_⟩
    rw [hn]
    rfl
  refine Related.padded ((related_fill.orElse (related_range.orElse hname)).located ?_)
  intro node node' s hnode hs
  obtain ⟨hspan, hmoved⟩ := hnode s hs
  exact ⟨hspan.symm ▸ hs, hmoved⟩

/-- Products are moved as their operands are. -/
private theorem movedExpr_foldl {e e' : Expr} {factors factors' : List (Span × Expr)}
    (he : m.MovedExpr e e')
    (h : List.Forall₂ (fun f f' => m.MovedSpan f.1 f'.1 ∧ m.MovedExpr f.2 f'.2) factors factors') :
    m.MovedExpr (factors.foldl product e) (factors'.foldl product e') := by
  induction h generalizing e e' with
  | nil => exact he
  | @cons f f' _ _ hf _ ih =>
    obtain ⟨hop, hrhs⟩ := hf
    obtain ⟨hcovers, hspan⟩ := he.1.cover hrhs.1
    refine ih ⟨hcovers, ?_⟩
    simp only [product, Expr.respan, he.2, hrhs.2, hop.2, Expr.span_respan, hspan]
    rfl

theorem related_expr : m.Related m.MovedExpr expr expr := by
  refine related_atom.bind fun e e' he => ?_
  have hfactor : m.Related (fun f f' => m.MovedSpan f.1 f'.1 ∧ m.MovedExpr f.2 f'.2)
      (token "*" >>= fun op => atom >>= fun rhs => pure (op, rhs))
      (token "*" >>= fun op => atom >>= fun rhs => pure (op, rhs)) :=
    (related_token "*").bind fun op op' hop => related_atom.bind fun rhs rhs' hrhs =>
      related_pure ⟨hop, hrhs⟩
  exact hfactor.many.bind fun factors factors' hfactors =>
    related_pure (movedExpr_foldl he hfactors)

theorem related_stmt : m.Related m.MovedStmt stmt stmt := by
  have heval : m.Related (fun node node' => ∀ s, node' (m.map s) = (node s).respan m.map)
      evalStmt evalStmt := by
    refine related_expr.bind fun e e' he => ?_
    refine (related_token ";").bind fun _ _ _ => related_pure fun s => ?_
    rw [Stmt.respan, he.2]
  have hassign : m.Related (fun node node' => ∀ s, node' (m.map s) = (node s).respan m.map)
      assignStmt assignStmt := by
    refine related_name.bind fun n n' hn => ?_
    refine (related_token "=").bind fun _ _ _ => ?_
    refine related_expr.bind fun e e' he => ?_
    refine (related_token ";").bind fun _ _ _ => related_pure fun s => ?_
    rw [Stmt.respan, he.2, hn.2]
  exact ((heval.orElse hassign).located fun node node' s hnode _ => hnode s).padded

theorem related_stmts : m.Related (List.Forall₂ m.MovedStmt) stmts stmts :=
  related_stmt.many.bind fun _ _ hlist => related_atEnd.bind fun _ _ _ => related_pure hlist

/-! ### Errors -/

/-- What was looked for in vain is told by places and labels, which stay the same. -/
theorem furthest_map (log : List Complaint) :
    Complaint.furthest (log.map m.moveComplaint) = Complaint.furthest log := by
  induction log using List.reverseRecOn with
  | nil => rfl
  | append_singleton log k ih =>
    rw [List.map_append, List.map_singleton, Complaint.furthest_concat, Complaint.furthest_concat,
      ih]
    cases k <;> rfl

theorem furthest_le {log : List Complaint} (h : ∀ k ∈ log, m.CoversComplaint k) {pos : Nat}
    {labels : List Label} (hfar : Complaint.furthest log = some (pos, labels)) : pos ≤ m.size := by
  obtain ⟨label, hmem⟩ := Complaint.mem_of_furthest hfar
  exact h _ hmem

theorem respan_inj {e e' : SyntaxError} (he : m.Covers e.span) (he' : m.Covers e'.span) :
    e.respan m.map = e'.respan m.map ↔ e = e' := by
  refine ⟨fun h => ?_, fun h => h ▸ rfl⟩
  cases e <;> cases e' <;>
    simp only [SyntaxError.respan, SyntaxError.mismatch.injEq, SyntaxError.rejected.injEq,
      reduceCtorEq] at h ⊢
  all_goals exact ⟨(he.map_inj he').mp h.1, h.2⟩

/-- Rejected literals are reported in the other file if they are in this one, each once. -/
theorem rejections_map {log : List Complaint} (h : ∀ k ∈ log, m.CoversComplaint k) :
    Complaint.rejections (log.map m.moveComplaint) =
      (Complaint.rejections log).map (SyntaxError.respan m.map) := by
  induction log using List.reverseRecOn with
  | nil => rfl
  | append_singleton log k ih =>
    have hlog : ∀ k ∈ log, m.CoversComplaint k := fun k hk => h k (List.mem_append_left _ hk)
    rw [List.map_append, List.map_singleton, Complaint.rejections_concat,
      Complaint.rejections_concat, ih hlog]
    cases k with
    | expected pos label => rfl
    | rejected span problem =>
      have hspan : m.Covers span := h (.rejected span problem) (by simp)
      -- the same error was reported before in both files, or in none
      have hcontains : ((Complaint.rejections log).map (SyntaxError.respan m.map)).contains
          (SyntaxError.rejected (m.map span) problem.message) =
          (Complaint.rejections log).contains (SyntaxError.rejected span problem.message) := by
        rw [Bool.eq_iff_iff, List.contains_iff_mem, List.contains_iff_mem, List.mem_map]
        refine ⟨?_, fun he => ⟨_, he, rfl⟩⟩
        rintro ⟨e, he, heq⟩
        obtain ⟨span', problem', hmem, rfl⟩ := Complaint.mem_of_rejections he
        have hspan' : m.Covers span' := hlog _ hmem
        have hsame : SyntaxError.rejected span' problem'.message =
            SyntaxError.rejected span problem.message := (respan_inj hspan' hspan).mp heq
        rwa [hsame] at he
      simp only [moveComplaint, Complaint.pushRejection, hcontains]
      split
      · rfl
      · rw [List.map_append]
        rfl

theorem coveredBytes_le (rest : Bytes) : ParseError.coveredBytes rest ≤ rest.length := by
  cases rest with
  | nil => exact Nat.le_refl 0
  | cons b bs =>
    rw [ParseError.coveredBytes, List.length_cons, Nat.add_comm]
    exact Nat.succ_le_succ (List.takeWhile_prefix _).length_le

theorem ofLog_map {text : Bytes} (hsize : m.size = text.length) {log : List Complaint}
    (h : ∀ k ∈ log, m.CoversComplaint k) :
    ParseError.ofLog m.target text (log.map m.moveComplaint) =
      (ParseError.ofLog m.source text log).respan m.map := by
  rw [ParseError.ofLog, ParseError.ofLog, rejections_map h, furthest_map]
  cases Complaint.rejections log with
  | cons first more => rfl
  | nil =>
    cases hfar : Complaint.furthest log with
    | none =>
      have hzero := m.map_mk 0 0 (Nat.zero_le _) (Nat.zero_le _)
      simp only [List.map_nil, ParseError.respan, SyntaxError.respan, hzero]
    | some far =>
      obtain ⟨pos, labels⟩ := far
      have hpos := furthest_le h hfar
      have hstop : pos + ParseError.coveredBytes (text.drop pos) ≤ m.size := by
        have := coveredBytes_le (text.drop pos)
        rw [List.length_drop] at this
        omega
      simp only [List.map_nil, ParseError.respan, SyntaxError.respan, m.map_mk pos _ hpos hstop]

/-! ### Programs -/

/-- **The same text in another file is read alike**, with the spans moved over. -/
theorem parse_map {text : Bytes} (hsize : m.size = text.length) :
    Program.parse m.target text =
      ((Program.parse m.source text).map (Program.respan m.map)).mapError
        (ParseError.respan m.map) := by
  have hstart : m.At (Cursor.start m.source text).skipBlanks := by
    refine At.skipBlanks ⟨rfl, ?_⟩
    simp only [Cursor.start, Nat.zero_add, hsize, Nat.le_refl]
  have hmove : (Cursor.start m.target text).skipBlanks =
      m.move (Cursor.start m.source text).skipBlanks := rfl
  rw [Program.parse, Program.parse, hmove]
  obtain ⟨log, s, s', hsource, htarget, hlog⟩ |
    ⟨log, s, s', list, list', c, hsource, htarget, -, hlist, -⟩ := (related_stmts _ hstart).cases
  · simp only [hsource, htarget, Except.map, Except.mapError, ofLog_map hsize hlog]
  · have hmap := map_of_forall₂ (fun _ _ h => h) hlist
    have hspan := m.map_mk 0 text.length (Nat.zero_le _) (Nat.le_of_eq hsize.symm)
    simp only [hsource, htarget, Except.map, Except.mapError, Program.respan, hmap, hspan]

end Relocation

end TensorLang
