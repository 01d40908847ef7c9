import TensorLang.Proofs.Emit.Declarations
import TensorLang.Proofs.Emit.Lookup
import TensorLang.Proofs.Syntax.Exactness

/-!
# Offsets of emitted code

When emitted code is refused, the offset of the mistake is traced back to the source by the fragment
that stands there. The code consists of blocks, one for each statement of the program and one for
each bound name (`Program.blocks`). An offset from the beginning of a block up to the beginning of
the next one is traced back to a span inside the statement that the block was emitted for, or to the
name where it is first bound (`Program.spanAt_fragments`).

Two things meet here: the fragment at an offset is one of the block, since fragments begin one
behind the other (`Fragment.mem_of_at?`), and all fragments of a block come from spans inside the
statement (`Target.origin_of_emitStmt`), since the spans of a tree that was read are exact.
-/

namespace TensorLang

/-! ### Blocks -/

namespace Target

variable {t : Target} {bound : List Bytes} {stmts : List Stmt} {blocks : List (List Fragment)}

/-- The fragments of statements in order, those of each statement apart. -/
def emitBlocks (t : Target) (bound : List Bytes) :
    List Stmt → Except EmitError (List (List Fragment))
  | [] => .ok []
  | s :: rest => do
    let here ← t.emitStmt bound s
    let more ← t.emitBlocks (s.bound bound) rest
    .ok (here :: more)

theorem emitStmts_eq (t : Target) (bound : List Bytes) (stmts : List Stmt) :
    t.emitStmts bound stmts = (t.emitBlocks bound stmts).map List.flatten := by
  induction stmts generalizing bound with
  | nil => rfl
  | cons s rest ih =>
    rw [emitStmts_cons, emitBlocks, ih]
    cases t.emitStmt bound s with
    | error => rfl
    | ok here => cases t.emitBlocks (s.bound bound) rest <;> rfl

theorem length_emitBlocks (h : t.emitBlocks bound stmts = .ok blocks) :
    blocks.length = stmts.length := by
  induction stmts generalizing bound blocks with
  | nil => cases h; rfl
  | cons s rest ih =>
    obtain ⟨here, -, h⟩ := Except.bind_eq_ok.mp h
    obtain ⟨more, hmore, h⟩ := Except.bind_eq_ok.mp h
    cases h
    rw [List.length_cons, List.length_cons, ih hmore]

/-- The block of a statement is what the statement is emitted as. -/
theorem exists_emitStmt_of_emitBlocks {j : Nat} {s : Stmt} {block : List Fragment}
    (h : t.emitBlocks bound stmts = .ok blocks) (hs : stmts[j]? = some s)
    (hblock : blocks[j]? = some block) : ∃ bound', t.emitStmt bound' s = .ok block := by
  induction stmts generalizing bound blocks j with
  | nil => cases hs
  | cons first rest ih =>
    obtain ⟨here, hhere, h⟩ := Except.bind_eq_ok.mp h
    obtain ⟨more, hmore, h⟩ := Except.bind_eq_ok.mp h
    cases h
    cases j with
    | zero =>
      cases hs
      cases hblock
      exact ⟨bound, hhere⟩
    | succ j => exact ih hmore hs hblock

/-- A first binding is an assignment to a name that was not bound before. -/
theorem exists_assign_of_mem_firstBindings {name : Spanned Bytes}
    (h : name ∈ firstBindings bound stmts) :
    ∃ before span value after, stmts = before ++ .assign span name value :: after ∧
      name.value ∉ before.foldl Stmt.bound bound := by
  induction stmts generalizing bound with
  | nil => cases h
  | cons s rest ih =>
    have hrest : name ∈ firstBindings (s.bound bound) rest →
        ∃ before span value after, s :: rest = before ++ .assign span name value :: after ∧
          name.value ∉ before.foldl Stmt.bound bound := by
      intro h
      obtain ⟨before, span, value, after, rfl, hnot⟩ := ih h
      exact ⟨s :: before, span, value, after, rfl, hnot⟩
    cases s with
    | eval | missing => exact hrest h
    | assign span first value =>
      rw [firstBindings] at h
      split_ifs at h with hbound
      · obtain ⟨before, span', value', after, rfl, hnot⟩ := ih h
        refine ⟨.assign span first value :: before, span', value', after, rfl, fun hmem => hnot ?_⟩
        -- the name was bound before already, so the assignment binds nothing new
        rw [mem_foldl_bound_iff]
        obtain hmem | ⟨s, hs, hmem⟩ := mem_foldl_bound_iff.mp hmem
        · exact .inl hmem
        · rcases List.mem_cons.mp hs with rfl | hs
          · exact .inl (by rw [List.mem_singleton.mp hmem]; simpa using hbound)
          · exact .inr ⟨s, hs, hmem⟩
      · rcases List.mem_cons.mp h with rfl | h
        · exact ⟨[], span, value, rest, rfl, by simpa using hbound⟩
        · exact hrest h

end Target

/-- The blocks of a program: one for each statement, then one for each bound name. -/
def Program.blocks (p : Program) (t : Target) : Except EmitError (List (List Fragment)) := do
  let body ← t.emitBlocks [] p.stmts
  .ok (body ++ (Target.firstBindings [] p.stmts).map Fragment.use)

/-- The fragments of a program are those of its blocks. -/
theorem Program.fragments_eq (p : Program) (t : Target) :
    p.fragments t = (p.blocks t).map List.flatten := by
  rw [fragments, blocks, Target.emitStmts_eq]
  cases t.emitBlocks [] p.stmts with
  | error => rfl
  | ok body =>
    refine congrArg Except.ok ?_
    rw [List.flatten_append, ← List.flatMap_def]

theorem Program.exists_blocks_of_fragments {p : Program} {t : Target} {fs : List Fragment}
    (h : p.fragments t = .ok fs) : ∃ blocks, p.blocks t = .ok blocks ∧ fs = blocks.flatten := by
  rw [fragments_eq] at h
  cases hblocks : p.blocks t with
  | error => rw [hblocks] at h; cases h
  | ok blocks =>
    rw [hblocks] at h
    exact ⟨blocks, rfl, (Except.ok.inj h).symm⟩

/-! ### Spans of a block -/

theorem Span.within_self (s : Span) : s.Within s := ⟨Nat.le_refl _, Nat.le_refl _⟩

namespace Target

variable {t : Target} {fs : List Fragment} {file : Nat} {text : Bytes}

/-- The fragment comes from some bytes of what stands under a span. -/
def Origin (file : Nat) (text : Bytes) (outer : Span) (f : Fragment) : Prop :=
  f.span.Tight file text ∧ f.span.Within outer

theorem Origin.mono {inner outer : Span} {f : Fragment} (h : Origin file text inner f)
    (hwithin : inner.Within outer) : Origin file text outer f :=
  ⟨h.1, Nat.le_trans hwithin.1 h.2.1, Nat.le_trans h.2.2 hwithin.2⟩

theorem origin_all {s outer : Span} {texts : List Bytes} (hs : s.Tight file text)
    (hwithin : s.Within outer) : ∀ f ∈ Fragment.all s texts, Origin file text outer f := by
  intro f hf
  obtain ⟨word, -, rfl⟩ := List.mem_map.mp hf
  exact ⟨hs, hwithin⟩

theorem origin_emitShape {outer : Span} {shape : List (Spanned Int64)}
    (hshape : ∀ d ∈ shape, d.span.Tight file text ∧ d.span.Within outer) (isFirst : Bool) :
    ∀ f ∈ emitShape isFirst shape, Origin file text outer f := by
  induction shape generalizing isFirst with
  | nil => nofun
  | cons d rest ih =>
    rw [List.forall_mem_cons] at hshape
    obtain ⟨⟨htight, hwithin⟩, hrest⟩ := hshape
    rw [emitShape, List.forall_mem_append, List.forall_mem_append]
    refine ⟨⟨?_, origin_all htight hwithin⟩, ih hrest false⟩
    cases isFirst with
    | true => nofun
    | false => exact origin_all htight hwithin

theorem origin_emitFill {span : Span} {value : Spanned Int32} {shape : List (Spanned Int64)}
    {dtype : Option (Spanned DType)} (h : (Expr.fill span value shape dtype).Exact file text)
    (dt : DType) : ∀ f ∈ t.emitFill span value shape dt, Origin file text span f := by
  obtain ⟨hspan, hvalue, hshape, -⟩ := h
  have hall {texts : List Bytes} : ∀ f ∈ Fragment.all span texts, Origin file text span f :=
    origin_all hspan (Span.within_self span)
  have hdims := origin_emitShape (fun d hd => ⟨(hshape d hd).tight, (hshape d hd).within⟩) true
  simp only [emitFill, emitCall, List.forall_mem_append]
  refine ⟨⟨⟨⟨⟨hall, hall⟩, hdims⟩, hall⟩, ?_⟩, hall⟩
  split_ifs
  · exact List.forall_mem_nil _
  · exact origin_all hvalue.tight hvalue.within

theorem origin_emitRange {span : Span} {first last : Spanned Int32} {step : Option (Spanned Int32)}
    (h : (Expr.range span first last step).Exact file text) :
    ∀ f ∈ t.emitRange span first last step, Origin file text span f := by
  obtain ⟨hspan, hfirst, hlast, hstep⟩ := h
  have hall {texts : List Bytes} : ∀ f ∈ Fragment.all span texts, Origin file text span f :=
    origin_all hspan (Span.within_self span)
  have hbounds : ∀ n ∈ [first, last] ++ step.toList,
      n.span.Part file text span (Decimal.Numeral n.value.toInt) := by
    simpa [hfirst, hlast] using hstep
  simp only [emitRange, emitCall, List.forall_mem_append]
  refine ⟨⟨hall, fun f hf => ?_⟩, hall⟩
  obtain ⟨n, hn, hf⟩ := List.mem_flatMap.mp hf
  exact origin_all (hbounds n hn).tight (hbounds n hn).within f hf

/-- **Every fragment of an expression comes from a part of it.** -/
theorem origin_of_emitExpr {e : Expr} (h : t.emitExpr e = .ok fs) (he : e.Exact file text) :
    ∀ f ∈ fs, Origin file text e.span f := by
  induction e generalizing fs with
  | fill span value shape dtype =>
    rw [emitExpr] at h
    split at h
    · cases h
    · cases h
      exact origin_emitFill he _
  | range span first last step =>
    cases h
    exact origin_emitRange he
  | var span name =>
    cases h
    intro f hf
    obtain rfl := List.mem_singleton.mp hf
    exact ⟨he.1, Span.within_self span⟩
  | binary span op lhs rhs ihl ihr =>
    obtain ⟨-, ⟨-, hop⟩, ⟨hlwithin, hrwithin⟩, -, hlhs, hrhs⟩ := he
    obtain ⟨l, hl, h⟩ := Except.bind_eq_ok.mp h
    obtain ⟨r, hr, h⟩ := Except.bind_eq_ok.mp h
    have hleft : ∀ f ∈ l, Origin file text span f := fun f hf => (ihl hl hlhs f hf).mono hlwithin
    have hright : ∀ f ∈ r, Origin file text span f := fun f hf => (ihr hr hrhs f hf).mono hrwithin
    have hsign {texts : List Bytes} : ∀ f ∈ Fragment.all op.span texts, Origin file text span f :=
      origin_all hop.tight hop.within
    split at h
    · cases h
      simp only [List.forall_mem_append]
      exact ⟨⟨⟨hleft, hsign⟩, hright⟩, hsign⟩
    · cases h
      simp only [List.forall_mem_append]
      exact ⟨⟨hleft, hsign⟩, hright⟩
  | missing => cases h

/-- **Every fragment of a statement comes from a part of it.** -/
theorem origin_of_emitStmt {bound : List Bytes} {s : Stmt} (h : t.emitStmt bound s = .ok fs)
    (hs : s.Exact file text) : ∀ f ∈ fs, Origin file text s.span f := by
  unfold emitStmt at h
  split at h
  · cases h
  · cases s with
    | eval span value =>
      obtain ⟨hspan, hwithin, hvalue⟩ := hs
      obtain ⟨body, hbody, h⟩ := Except.bind_eq_ok.mp h
      cases h
      have hall {texts : List Bytes} : ∀ f ∈ Fragment.all span texts, Origin file text span f :=
        origin_all hspan (Span.within_self span)
      simp only [List.forall_mem_append]
      exact ⟨⟨hall, fun f hf => (origin_of_emitExpr hbody hvalue f hf).mono hwithin⟩, hall⟩
    | assign span name value =>
      obtain ⟨hspan, hname, hwithin, hvalue⟩ := hs
      obtain ⟨body, hbody, h⟩ := Except.bind_eq_ok.mp h
      cases h
      simp only [List.forall_mem_append]
      exact ⟨⟨origin_all hname.tight hname.within,
        fun f hf => (origin_of_emitExpr hbody hvalue f hf).mono hwithin⟩,
        origin_all hspan (Span.within_self span)⟩
    | missing => cases h

end Target

/-! ### Programs -/

/-- Where a block begins in the layout of all blocks; behind the last one, where the layout ends. -/
def Fragment.blockStart (blocks : List (List Fragment)) (j : Nat) : Nat :=
  startOf blocks.flatten (blocks.take j).flatten.length

/-- An offset from the beginning of a block up to the beginning of the next one belongs to the
block. -/
theorem Fragment.mem_of_blockStart {blocks : List (List Fragment)} {j offset : Nat}
    (hstart : blockStart blocks j ≤ offset) (hstop : offset < blockStart blocks (j + 1)) :
    ∃ block f, blocks[j]? = some block ∧ f ∈ block ∧ spanAt blocks.flatten offset = f.span := by
  cases hblock : blocks[j]? with
  | none =>
    -- behind the last block there is nothing
    rw [List.getElem?_eq_none_iff] at hblock
    rw [blockStart, List.take_of_length_le hblock] at hstart
    rw [blockStart, List.take_of_length_le (Nat.le_succ_of_le hblock)] at hstop
    omega
  | some block =>
    have htake : (blocks.take (j + 1)).flatten = (blocks.take j).flatten ++ block := by
      rw [List.take_add_one, hblock]
      simp
    have hsplit : blocks.flatten =
        (blocks.take j).flatten ++ block ++ (blocks.drop (j + 1)).flatten := by
      rw [← htake, ← List.flatten_append, List.take_append_drop]
    rw [blockStart, htake] at hstop
    rw [blockStart] at hstart
    rw [hsplit] at hstart hstop
    obtain ⟨f, hf, hat⟩ := mem_of_at? _ block _ hstart hstop
    refine ⟨block, f, rfl, hf, ?_⟩
    rw [spanAt, hsplit, hat]
    rfl

/-- From where a block begins, the layout is that of the blocks from this one on. -/
theorem Fragment.drop_blockStart (blocks : List (List Fragment)) (j : Nat) :
    (layout blocks.flatten).drop (blockStart blocks j) = layout (blocks.drop j).flatten := by
  have hsplit : blocks.flatten = (blocks.take j).flatten ++ (blocks.drop j).flatten := by
    rw [← List.flatten_append, List.take_append_drop]
  rw [blockStart, drop_layout, hsplit, List.drop_left]

/-- **Emitted code is traced back to its statement.** The fragments of a program that was read from
a text are blocks, one for each statement and one for each bound name. An offset of the layout that
belongs to a block is traced back to a span that is not empty. If the block is that of a statement,
the span lies inside the span of the statement. If it is the use of a bound name, the span is that
of the name in the first assignment to it. The lookup finds these spans as long as the offset is a
64-bit word with another one behind it. -/
theorem Program.spanAt_fragments {file : Nat} {text : Bytes} {p : Program} {t : Target}
    {fs : List Fragment} (hparse : parse file text = .ok p) (hfs : p.fragments t = .ok fs) :
    ∃ blocks, p.blocks t = .ok blocks ∧ fs = blocks.flatten ∧
      blocks.length = p.stmts.length + (Target.firstBindings [] p.stmts).length ∧
      (∀ j, (Fragment.layout fs).drop (Fragment.blockStart blocks j) =
        Fragment.layout (blocks.drop j).flatten) ∧
      ∀ j offset : Nat, Fragment.blockStart blocks j ≤ offset →
        offset < Fragment.blockStart blocks (j + 1) →
        (Fragment.spanAt fs offset).start < (Fragment.spanAt fs offset).stop ∧
        (∀ s, p.stmts[j]? = some s → (Fragment.spanAt fs offset).file = s.span.file ∧
          (Fragment.spanAt fs offset).Within s.span) ∧
        (p.stmts.length ≤ j → ∃ before span name value after,
          p.stmts = before ++ .assign span name value :: after ∧
          name.value ∉ assignedNames before ∧ blocks[j]? = some (Fragment.use name) ∧
          Fragment.spanAt fs offset = name.span) ∧
        (offset + 1 < 2 ^ 63 → Fragment.lookup fs (.ofNat offset) = Fragment.spanAt fs offset) := by
  obtain ⟨-, hsentence⟩ := parse_eq_ok_iff.mp hparse
  have hexact : ∀ s ∈ p.stmts, s.Exact file text := by
    intro s hs
    obtain ⟨-, -, -, hexact⟩ := hsentence.stands hs
    exact hexact
  obtain ⟨blocks, hblocks, rfl⟩ := exists_blocks_of_fragments hfs
  obtain ⟨body, hbody, h⟩ := Except.bind_eq_ok.mp hblocks
  obtain rfl := Except.ok.inj h
  have hlen := Target.length_emitBlocks hbody
  refine ⟨_, hblocks, rfl, ?_, Fragment.drop_blockStart _, fun j offset hstart hstop => ?_⟩
  · rw [List.length_append, List.length_map, hlen]
  obtain ⟨block, f, hblock, hf, hspan⟩ := Fragment.mem_of_blockStart hstart hstop
  rw [hspan]
  -- the blocks of statements come first, those of bound names behind them
  by_cases hj : j < p.stmts.length
  · have hs : p.stmts[j]? = some p.stmts[j] := List.getElem?_eq_getElem hj
    rw [List.getElem?_append_left (hlen ▸ hj)] at hblock
    obtain ⟨bound, hemit⟩ := Target.exists_emitStmt_of_emitBlocks hbody hs hblock
    have hstmt := hexact _ (List.mem_of_getElem? hs)
    obtain ⟨htight, hwithin⟩ := Target.origin_of_emitStmt hemit hstmt f hf
    refine ⟨htight.start_lt_stop, fun s hs' => ?_, fun hle => absurd hj (Nat.not_lt.mpr hle),
      fun hlt => (Fragment.lookup_ofNat _ hlt).trans hspan⟩
    obtain rfl := Option.some.inj (hs.symm.trans hs')
    exact ⟨htight.file_eq.trans hstmt.tight.file_eq.symm, hwithin⟩
  · have hle : body.length ≤ j := hlen ▸ Nat.not_lt.mp hj
    rw [List.getElem?_append_right hle, List.getElem?_map, Option.map_eq_some_iff] at hblock
    obtain ⟨name, hname, rfl⟩ := hblock
    obtain ⟨before, span, value, after, hstmts, hfirst⟩ :=
      Target.exists_assign_of_mem_firstBindings (List.mem_of_getElem? hname)
    obtain ⟨-, hpart, -⟩ := hexact (.assign span name value) (by simp [hstmts])
    obtain ⟨word, -, rfl⟩ := List.mem_map.mp hf
    refine ⟨hpart.tight.start_lt_stop, fun s hs => ?_, fun _ => ?_,
      fun hlt => (Fragment.lookup_ofNat _ hlt).trans hspan⟩
    · rw [List.getElem?_eq_none (Nat.not_lt.mp hj)] at hs
      cases hs
    · refine ⟨before, span, name, value, after, hstmts, ?_, ?_, rfl⟩
      · rwa [← mem_foldl_bound_nil_iff]
      · rw [List.getElem?_append_right hle, List.getElem?_map, hname]
        rfl

/-- The second statement becomes the second line; the third line uses the name that the first
statement binds. -/
theorem Program.spanAt_fragments_lines :
    ∃ p fs, parse 0 "b = a;\na * b;".utf8 = .ok p ∧ p.fragments Target.standard = .ok fs ∧
      Fragment.layout fs = "b := a ;\n\t_ = a * b ;\n\t_ = b ;".utf8 ∧
      (∀ offset : Nat, 10 ≤ offset → offset < 23 →
        (Fragment.spanAt fs offset).Within ⟨0, 7, 13⟩) ∧
      ∀ offset : Nat, 23 ≤ offset → offset < 30 → Fragment.spanAt fs offset = ⟨0, 0, 1⟩ := by
  let p : Program := ⟨[.assign ⟨0, 0, 6⟩ ⟨"b".utf8, ⟨0, 0, 1⟩⟩ (.var ⟨0, 4, 5⟩ "a".utf8),
    .eval ⟨0, 7, 13⟩ (.binary ⟨0, 7, 12⟩ ⟨.mul, ⟨0, 9, 10⟩⟩ (.var ⟨0, 7, 8⟩ "a".utf8)
      (.var ⟨0, 11, 12⟩ "b".utf8))], ⟨0, 0, 13⟩⟩
  have hparse : parse 0 "b = a;\na * b;".utf8 = .ok p := by decide +kernel
  have hok : (p.fragments Target.standard).isOk = true := by decide +kernel
  obtain ⟨fs, hfs⟩ := Except.exists_of_isOk hok
  have hlayout : ((p.fragments Target.standard).toOption.map Fragment.layout) =
      some "b := a ;\n\t_ = a * b ;\n\t_ = b ;".utf8 := by decide +kernel
  obtain ⟨blocks, hblocks, rfl, -, -, hspan⟩ := spanAt_fragments hparse hfs
  have hstarts : (p.blocks Target.standard).toOption.map
      (fun blocks => [1, 2, 3].map (Fragment.blockStart blocks)) = some [10, 23, 30] := by
    decide +kernel
  rw [hfs] at hlayout
  rw [hblocks] at hstarts
  have hlines := Option.some.inj hstarts
  simp only [List.map_cons, List.map_nil, List.cons.injEq, and_true] at hlines
  obtain ⟨hfirst, hsecond, hthird⟩ := hlines
  refine ⟨p, _, hparse, hfs, Option.some.inj hlayout, fun offset hle hlt => ?_,
    fun offset hle hlt => ?_⟩
  · obtain ⟨-, hstmt, -⟩ := hspan 1 offset (hfirst ▸ hle) (hsecond ▸ hlt)
    exact (hstmt _ rfl).2
  · obtain ⟨-, -, huse, -⟩ := hspan 2 offset (hsecond ▸ hle) (hthird ▸ hlt)
    obtain ⟨before, span, name, value, after, hstmts, -, -, heq⟩ := huse (Nat.le_refl 2)
    rw [heq]
    -- only the first statement is an assignment
    rcases before with _ | ⟨s, _ | ⟨s', before⟩⟩
    · cases hstmts
      rfl
    · cases hstmts
    · cases before <;> cases hstmts

end TensorLang
