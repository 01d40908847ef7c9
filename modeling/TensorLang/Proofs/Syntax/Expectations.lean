import TensorLang.Proofs.Syntax.Completeness
import TensorLang.Proofs.Syntax.Logs

/-!
# What is expected can follow

Whatever a reader looks for in vain could have come at that place: up to there the text begins like
something that the rule of the reader derives, and there is a way to go on with what was looked for
(`Reader.Honest`). So every expectation in the log of a failed reading is one that some program
meets (`Program.parse_of_expected`), also those of alternatives that were tried and given up, and
seven more bytes are enough for it.

The proofs follow the readers like those of soundness. A complaint comes from one step of a reading;
the steps before it are derivations, and what the rule still needs behind it is filled in with the
shortest terminals, whose bytes are counted.
-/

namespace TensorLang

open Cursor (Passes Step)
open Grammar (Lexeme Terminal Repeated)

/-! ### Ways to go on -/

namespace Grammar

/-- The statement holds of lexemes for these terminals, whatever their places are. -/
def Anywhere : List Terminal → (List Lexeme → Prop) → Prop
  | [], P => P []
  | t :: ts, P => ∀ s : Span, Anywhere ts fun ms => P (⟨t, s⟩ :: ms)

theorem Anywhere.imp {ts : List Terminal} {P Q : List Lexeme → Prop} (h : Anywhere ts P)
    (hPQ : ∀ ms, P ms → Q ms) : Anywhere ts Q := by
  induction ts generalizing P Q with
  | nil => exact hPQ [] h
  | cons t ts ih => exact fun s => ih (h s) fun ms => hPQ (⟨t, s⟩ :: ms)

theorem Anywhere.append {ts us : List Terminal} {P : List Lexeme → Prop}
    (h : Anywhere ts fun ms => Anywhere us fun ns => P (ms ++ ns)) : Anywhere (ts ++ us) P := by
  induction ts generalizing P with
  | nil => exact h
  | cons t ts ih => exact fun s => ih (h s)

theorem Anywhere.apply {ts : List Terminal} {P : List Lexeme → Prop} (h : Anywhere ts P)
    {ms : List Lexeme} (hms : ms.map Spanned.value = ts) : P ms := by
  induction ms generalizing ts P with
  | nil => subst hms; exact h
  | cons m ms ih => subst hms; exact ih (h m.span) rfl

/-- How many bytes the terminals take. -/
def width (ts : List Terminal) : Nat := (ts.flatMap Terminal.text).length

theorem width_append (ts us : List Terminal) : width (ts ++ us) = width ts + width us := by
  rw [width, List.flatMap_append, List.length_append, width, width]

end Grammar

open Grammar (Anywhere width)

/-- May the terminal come where the label is expected? -/
def Label.Admits : Label → Terminal → Prop
  | token text, t => t.text = text
  | digit, t => ∃ digits h, t = .number digits h
  | identifier, t => ∃ letters h, t = .word letters h
  | endOfInput, _ => False

/-- Up to `pos` the text ahead begins like something that the rule derives, and from there one can
go on with a terminal that the label admits, and come to an end in `n` bytes. -/
def Cursor.Promises {α : Type} (c : Cursor) (n pos : Nat) (label : Label)
    (rule : List Lexeme → α → Prop) : Prop :=
  ∃ (ls : List Lexeme) (c' : Cursor) (t : Terminal) (ts : List Terminal),
    Passes c ls c' ∧ c'.pos = pos ∧ label.Admits t ∧ width (t :: ts) ≤ n ∧
      Anywhere (t :: ts) fun ms => ∃ a, rule (ls ++ ms) a

section

variable {α β : Type} {c c' : Cursor} {n m pos : Nat} {label : Label} {ks : List Lexeme}
  {rule : List Lexeme → α → Prop} {rule' : List Lexeme → β → Prop}

theorem Cursor.Promises.mono (h : c.Promises n pos label rule) (hle : n ≤ m) :
    c.Promises m pos label rule := by
  obtain ⟨ls, c', t, ts, hpass, hpos, hadmits, hwidth, hgoes⟩ := h
  exact ⟨ls, c', t, ts, hpass, hpos, hadmits, Nat.le_trans hwidth hle, hgoes⟩

/-- What is derived may be a part of something larger: with lexemes before it that were passed, and
with terminals behind it. -/
theorem Cursor.Promises.within (h : c'.Promises n pos label rule) (hks : Passes c ks c')
    (us : List Terminal)
    (hrule : ∀ ls a, rule ls a → Anywhere us fun ms => ∃ b, rule' (ks ++ (ls ++ ms)) b) :
    c.Promises (n + width us) pos label rule' := by
  obtain ⟨ls, c₁, t, ts, hpass, hpos, hadmits, hwidth, hgoes⟩ := h
  refine ⟨ks ++ ls, c₁, t, ts ++ us, hks.append hpass, hpos, hadmits, ?_, ?_⟩
  · rw [← List.cons_append, Grammar.width_append]
    exact Nat.add_le_add_right hwidth _
  rw [← List.cons_append]
  refine (hgoes.imp fun ms hms => ?_).append
  obtain ⟨a, ha⟩ := hms
  simpa only [List.append_assoc] using hrule (ls ++ ms) a ha

/-- What is derived may be the last part of something larger. -/
theorem Cursor.Promises.behind (h : c'.Promises n pos label rule) (hks : Passes c ks c')
    (hrule : ∀ ls a, rule ls a → ∃ b, rule' (ks ++ ls) b) : c.Promises n pos label rule' := by
  refine h.within hks [] fun ls a ha => ?_
  obtain ⟨b, hb⟩ := hrule ls a ha
  exact ⟨b, by rwa [List.append_nil]⟩

end

namespace Reader

variable {α β : Type} {p q : Reader α} {n m : Nat} {rule rule' : List Lexeme → α → Prop}

/-- What the reader looks for in vain, from a place with no blank ahead, could have come there, with
`n` bytes at most up to the end. -/
def Honest (p : Reader α) (n : Nat) (rule : List Lexeme → α → Prop) : Prop :=
  ∀ ⦃c : Cursor⦄ ⦃pos : Nat⦄ ⦃label : Label⦄, c.IsTrimmed → .expected pos label ∈ (p c).log →
    c.Promises n pos label rule

theorem Honest.mono (hp : p.Honest n rule) (hle : n ≤ m) : p.Honest m rule :=
  fun _ _ _ hc h => (hp hc h).mono hle

theorem Honest.imp (hp : p.Honest n rule) (hrule : ∀ ls a, rule ls a → rule' ls a) :
    p.Honest n rule' := by
  intro c pos label hc h
  exact (hp hc h).behind .nil fun ls a ha => ⟨a, hrule ls a ha⟩

theorem honest_pure (a : α) : (pure a : Reader α).Honest n rule :=
  fun _ _ _ _ h => absurd h not_mem_log_pure

/-- A sequence is honest if its first part can always be completed, with the terminals `us`, and the
rest is honest about what may come behind it. -/
theorem Honest.bind {f : α → Reader β} {rule' : List Lexeme → β → Prop} (hp : p.Honest n rule)
    (hsound : p.Sound rule) (us : List Terminal) (hm : n + width us ≤ m)
    (hus : ∀ ls a, rule ls a → Anywhere us fun ms => ∃ b, rule' (ls ++ ms) b)
    (hf : ∀ ls a, rule ls a → (f a).Honest m fun ms => rule' (ls ++ ms)) :
    (p >>= f).Honest m rule' := by
  intro c pos label hc h
  obtain h | ⟨a, c', hread, h⟩ := mem_log_bind.mp h
  · exact ((hp hc h).within .nil us hus).mono hm
  · obtain ⟨ls, hls, hpass⟩ := hsound hc hread
    exact (hf ls a hls (hpass.isTrimmed hc) h).behind hpass fun ms b hb => ⟨b, hb⟩

theorem Honest.orElse (hp : p.Honest n rule) (hq : q.Honest n rule) :
    (orElse p q).Honest n rule := by
  intro c pos label hc h
  obtain h | ⟨-, h⟩ := mem_log_orElse.mp h
  · exact hp hc h
  · exact hq hc h

theorem Honest.padded (hp : p.Honest n rule) : (padded p).Honest n rule :=
  fun _ _ _ hc h => hp hc (log_padded hc ▸ h)

/-- The rule derives something from the lexemes, whatever its span. -/
def Derivable (rule : List Lexeme → α → Prop) (ls : List Lexeme) (_ : Span → α) : Prop :=
  ∃ a, rule ls a

theorem exists_derivable {ls : List Lexeme} {a : α} (h : rule ls a) :
    ∃ node, Derivable rule ls node := ⟨fun _ => a, a, h⟩

theorem Honest.located {p : Reader (Span → α)} (hp : p.Honest n (Derivable rule)) :
    Honest (located p id) n rule := by
  intro c pos label hc h
  exact (hp hc (log_located p id c ▸ h)).behind .nil fun ls _ hls => hls

/-- A rule whose part may be absent. -/
inductive Maybe (rule : List Lexeme → α → Prop) : List Lexeme → Option α → Prop where
  | none : Maybe rule [] none
  | some {ls : List Lexeme} {a : α} : rule ls a → Maybe rule ls (some a)

theorem Sound.optional (hp : p.Sound rule) : (optional p).Sound (Maybe rule) := by
  intro c c' o hc h
  obtain ⟨a, rfl, hread⟩ | ⟨rfl, rfl, -⟩ := optional_eq_some.mp h
  · obtain ⟨ls, hls, hpass⟩ := hp hc hread
    exact ⟨ls, .some hls, hpass⟩
  · exact ⟨[], .none, .nil⟩

theorem Honest.optional (hp : p.Honest n rule) : (optional p).Honest n (Maybe rule) := by
  intro c pos label hc h
  exact (hp hc (log_optional p c ▸ h)).behind .nil fun ls a ha => ⟨some a, .some ha⟩

theorem Honest.many (hp : p.Honest n rule) (hsound : p.Sound rule) :
    Honest (many p) n (Repeated rule) := by
  intro c pos label hc h
  induction c, h using log_many_induction with
  | here c _ h =>
    refine (hp hc h).behind .nil fun ls a ha => ⟨[a], ?_⟩
    have hone := Repeated.cons ha .nil
    rwa [List.append_nil] at hone
  | round c _ a c' hread _ ih =>
    obtain ⟨ls, hls, hpass⟩ := hsound hc hread
    exact (ih (hpass.isTrimmed hc)).behind hpass fun ms as has => ⟨a :: as, .cons hls has⟩

end Reader

namespace Grammar

open Reader

/-! ### Terminals -/

/-- The number zero, the shortest literal. -/
def zero : Terminal := .number "0".utf8 ⟨by decide, List.all_eq_true.mp (by decide)⟩

/-- A short name. -/
def letter : Terminal := .word "a".utf8 (by decide)

/-- A rule for one lexeme. -/
inductive One {α : Type} (rule : Lexeme → α → Prop) : List Lexeme → α → Prop where
  | mk (l : Lexeme) {a : α} : rule l a → One rule [l] a

/-- The sign `t`, which stands for its place only. -/
inductive Sign (t : Terminal) : List Lexeme → Span → Prop where
  | mk {s : Span} : Sign t [⟨t, s⟩] s

/-- A sign and one lexeme behind it. -/
inductive Behind {α : Type} (t : Terminal) (rule : Lexeme → α → Prop) : List Lexeme → α → Prop where
  | mk {s : Span} {l : Lexeme} {a : α} : rule l a → Behind t rule [⟨t, s⟩, l] a

section

variable {α : Type} {rule : Lexeme → α → Prop} {text : String} {t : Terminal} {label : Label}

/-- A terminal that is looked for at the cursor. -/
theorem promises_here {rule : List Lexeme → α → Prop} (hadmits : label.Admits t)
    (hrule : ∀ s, ∃ a, rule [⟨t, s⟩] a) (c : Cursor) : c.Promises (width [t]) c.pos label rule :=
  ⟨[], c, t, [], .nil, rfl, hadmits, Nat.le_refl _, hrule⟩

theorem sign_sound (t : Terminal) (ht : t.text = text.utf8) : Sound (token text) (Sign t) := by
  intro c c' s hc h
  exact ⟨_, .mk, (token_sound t ht hc h).passes⟩

theorem sign_honest (t : Terminal) (ht : t.text = text.utf8) :
    Honest (token text) (width [t]) (Sign t) := by
  intro c pos label hc h
  rw [token, log_padded hc] at h
  obtain ⟨rfl, rfl⟩ : pos = c.pos ∧ label = .token text.utf8 := by
    simpa using (mem_log_exactly.mp h).2
  have hadmits : (Label.token text.utf8).Admits t := ht
  exact promises_here hadmits (fun s => ⟨s, .mk⟩) c

/-- What takes one step is derived from one lexeme. -/
theorem one_sound {p : Reader α}
    (h : ∀ c c' a, c.IsTrimmed → (p c).value = some (a, c') → ∃ l, rule l a ∧ Step c l c') :
    Sound p (One rule) := by
  intro c c' a hc hread
  obtain ⟨l, hl, hstep⟩ := h c c' a hc hread
  exact ⟨[l], .mk l hl, hstep.passes⟩

theorem behind_sound {p : Reader α} (t : Terminal) (ht : t.text = text.utf8)
    (hp : p.Sound (One rule)) : Sound (token text >>= fun _ => p) (Behind t rule) := by
  intro c c' a hc h
  obtain ⟨s, c₁, hsign, hread⟩ := bind_eq_some.mp h
  have hstep := token_sound t ht hc hsign
  obtain ⟨_, ⟨l, hl⟩, hpass⟩ := hp hstep.isTrimmed hread
  exact ⟨_, .mk hl, .cons hstep hpass⟩

/-- A sign and a literal behind it, for which there is a terminal `u` that is not rejected. -/
theorem behind_honest {p : Reader α} {u : Terminal} (t : Terminal) (ht : t.text = text.utf8)
    (hp : p.Honest (width [u]) (One rule)) (hu : ∀ s, ∃ a, rule ⟨u, s⟩ a) :
    Honest (token text >>= fun _ => p) (width [t] + width [u]) (Behind t rule) := by
  refine (sign_honest t ht).bind (sign_sound t ht) [u] (Nat.le_refl _) ?_ ?_
  · rintro _ _ ⟨⟩ s
    obtain ⟨a, ha⟩ := hu s
    exact ⟨a, .mk ha⟩
  · rintro _ _ ⟨⟩
    refine (hp.imp ?_).mono (Nat.le_add_left _ _)
    rintro _ a ⟨l, ha⟩
    exact .mk ha

/-- Literals: some terminal of the class is not rejected. -/
theorem literal_honest {β : Type} {first rest : UInt8 → Bool} {f : Bytes → Except LiteralProblem β}
    {rule : Lexeme → Spanned β → Prop} (hadmits : label.Admits t)
    (hrule : ∀ s, ∃ b, rule ⟨t, s⟩ b) :
    Honest (padded (located (convert (run label first rest) f) Spanned.mk)) (width [t])
      (One rule) := by
  intro c pos label' hc h
  rw [log_padded hc, log_located, expected_mem_log_convert] at h
  obtain ⟨rfl, rfl⟩ : pos = c.pos ∧ label' = label := by simpa using (mem_log_run.mp h).2
  refine promises_here hadmits (fun s => ?_) c
  obtain ⟨b, hb⟩ := hrule s
  exact ⟨b, .mk _ hb⟩

end

theorem int32Literal_zero (s : Span) : ∃ n, Int32Literal ⟨zero, s⟩ n := ⟨_, .mk (by decide)⟩

theorem dimension_zero (s : Span) : ∃ d, Dimension ⟨zero, s⟩ d := ⟨_, .mk (by decide)⟩

theorem annotation_f32 (s : Span) : ∃ dt, Annotation ⟨.word "f32".utf8 (by decide), s⟩ dt := by
  have hmem : (Bytes.toLowerAscii "f32".utf8, DType.float32) ∈ DType.spellings := by decide
  exact ⟨_, .mk hmem⟩

theorem int32_honest : Honest int32 (width [zero]) (One Int32Literal) :=
  literal_honest ⟨_, _, rfl⟩ int32Literal_zero

theorem dimension_honest : Honest dimension (width [zero]) (One Dimension) :=
  literal_honest ⟨_, _, rfl⟩ dimension_zero

theorem dtype_honest : Honest dtype (width [.word "f32".utf8 (by decide)]) (One Annotation) :=
  literal_honest ⟨_, _, rfl⟩ annotation_f32

theorem one_int32_sound : Sound int32 (One Int32Literal) := one_sound fun _ _ _ => int32_sound

theorem one_dimension_sound : Sound dimension (One Dimension) :=
  one_sound fun _ _ _ => dimension_sound

/-! ### Tensors -/

theorem moreDims_honest : Honest (token "x" >>= fun _ => dimension) 2 MoreDims := by
  refine (behind_honest .times rfl dimension_honest dimension_zero).imp ?_
  rintro _ d ⟨hd⟩
  exact .mk hd

theorem dims_honest : Honest (separated dimension (token "x")) 2 Dims := by
  refine dimension_honest.optional.bind one_dimension_sound.optional [] (by decide) ?_ ?_
  · rintro _ _ (_ | ⟨⟨l, hd⟩⟩)
    · exact ⟨_, .none⟩
    · exact ⟨_, .some hd .nil⟩
  rintro _ _ (_ | ⟨⟨l, hd⟩⟩)
  · exact honest_pure _
  · refine (moreDims_honest.many moreDims_sound).bind moreDims_sound.many [] (by decide) ?_ ?_
    · intro ls ds hds
      rw [Anywhere, List.append_nil]
      exact ⟨_, .some hd hds⟩
    · exact fun _ _ _ => honest_pure _

/-- The end of a tensor that is filled with zeros. -/
theorem fill_zero {ls : List Lexeme} {shape : List (Spanned Int64)} (first : Span)
    (hls : Dims ls shape) :
    Anywhere [.semicolon, zero, .closeBracket] fun ms =>
      ∃ node, Derivable FillTensor (⟨.openBracket, first⟩ :: (ls ++ ms)) node := by
  intro semi n last
  obtain ⟨value, hvalue⟩ := int32Literal_zero n
  exact exists_derivable (.plain hls hvalue)

theorem fill_honest : Honest fill 5 (Derivable FillTensor) := by
  refine (sign_honest .openBracket rfl).bind (sign_sound _ rfl)
    [.semicolon, zero, .closeBracket] (by decide) (fun | _, first, .mk => fill_zero first .none) ?_
  rintro _ first ⟨⟩
  refine dims_honest.bind dims_sound [.semicolon, zero, .closeBracket] (by decide)
    (fun _ _ hls => fill_zero first hls) ?_
  intro ls shape hls
  refine (sign_honest .semicolon rfl).bind (sign_sound _ rfl) [zero, .closeBracket] (by decide)
    (fun | _, semi, .mk => fill_zero first hls semi) ?_
  rintro _ semi ⟨⟩
  refine int32_honest.bind one_int32_sound [.closeBracket] (by decide)
    (fun | _, _, .mk n hn => fun last => exists_derivable (.plain hls hn)) ?_
  rintro _ value ⟨n, hn⟩
  have hend : ∀ ms dt, Maybe (Behind .semicolon Annotation) ms dt → ∀ last, ∃ node,
      Derivable FillTensor (⟨.openBracket, first⟩ ::
        (ls ++ ⟨.semicolon, semi⟩ :: n :: (ms ++ [⟨.closeBracket, last⟩]))) node := by
    rintro _ _ (_ | ⟨⟨ha⟩⟩) last
    · exact exists_derivable (.plain hls hn)
    · exact exists_derivable (.typed hls hn ha)
  refine (behind_honest .semicolon rfl dtype_honest annotation_f32).optional.bind
    (behind_sound _ rfl (one_sound fun _ _ _ => dtype_sound)).optional [.closeBracket] (by decide)
    hend ?_
  intro ms dt hdt
  refine (sign_honest .closeBracket rfl).bind (sign_sound _ rfl) [] (by decide)
    (fun | _, last, .mk => hend ms dt hdt last) ?_
  exact fun _ _ _ => honest_pure _

/-- The end of a range that starts at some number and ends at zero. -/
theorem range_zero {l : Lexeme} {lo : Spanned Int32} (first : Span) (hl : Int32Literal l lo) :
    Anywhere [.dots, zero, .closeBracket] fun ms =>
      ∃ node, Derivable RangeTensor (⟨.openBracket, first⟩ :: l :: ms) node := by
  intro between m last
  obtain ⟨hi, hhi⟩ := int32Literal_zero m
  exact exists_derivable (.plain hl hhi)

theorem range_honest : Honest range 6 (Derivable RangeTensor) := by
  refine (sign_honest .openBracket rfl).bind (sign_sound _ rfl)
    [zero, .dots, zero, .closeBracket] (by decide) ?_ ?_
  · rintro _ first ⟨⟩ l
    obtain ⟨lo, hlo⟩ := int32Literal_zero l
    exact range_zero first hlo
  rintro _ first ⟨⟩
  refine int32_honest.bind one_int32_sound [.dots, zero, .closeBracket] (by decide)
    (fun | _, _, .mk l hl => range_zero first hl) ?_
  rintro _ lo ⟨l, hl⟩
  refine (sign_honest .dots rfl).bind (sign_sound _ rfl) [zero, .closeBracket] (by decide)
    (fun | _, between, .mk => range_zero first hl between) ?_
  rintro _ between ⟨⟩
  refine int32_honest.bind one_int32_sound [.closeBracket] (by decide)
    (fun | _, _, .mk m hm => fun last => exists_derivable (.plain hl hm)) ?_
  rintro _ hi ⟨m, hm⟩
  have hend : ∀ ms step, Maybe (Behind .semicolon Int32Literal) ms step → ∀ last, ∃ node,
      Derivable RangeTensor (⟨.openBracket, first⟩ :: l :: ⟨.dots, between⟩ :: m ::
        (ms ++ [⟨.closeBracket, last⟩])) node := by
    rintro _ _ (_ | ⟨⟨hn⟩⟩) last
    · exact exists_derivable (.plain hl hm)
    · exact exists_derivable (.stepped hl hm hn)
  refine (behind_honest .semicolon rfl int32_honest int32Literal_zero).optional.bind
    (behind_sound _ rfl one_int32_sound).optional [.closeBracket] (by decide) hend ?_
  intro ms step hstep
  refine (sign_honest .closeBracket rfl).bind (sign_sound _ rfl) [] (by decide)
    (fun | _, last, .mk => hend ms step hstep last) ?_
  exact fun _ _ _ => honest_pure _

/-! ### Products and statements -/

theorem atom_honest : Honest atom 6 Atom := by
  have hname : Honest nameRef 1 (Derivable Atom) := by
    intro c pos label hc h
    obtain h | ⟨_, _, -, h⟩ := mem_log_bind.mp h
    · obtain ⟨rfl, rfl⟩ : pos = c.pos ∧ label = .identifier := by simpa using (mem_log_run.mp h).2
      have hadmits : Label.identifier.Admits letter := ⟨_, _, rfl⟩
      exact promises_here hadmits (fun s => exists_derivable .name) c
    · exact absurd h not_mem_log_pure
  have hfill : Honest fill 5 (Derivable Atom) :=
    fill_honest.imp fun _ _ ⟨e, he⟩ => ⟨e, .fill he⟩
  have hrange : Honest range 6 (Derivable Atom) :=
    range_honest.imp fun _ _ ⟨e, he⟩ => ⟨e, .range he⟩
  have hothers := hrange.orElse (hname.mono (by decide))
  exact ((hfill.mono (by decide)).orElse hothers).located.padded

theorem factor_honest :
    Honest (token "*" >>= fun op => atom >>= fun rhs => pure (op, rhs)) 6 Factor := by
  refine (sign_honest .star rfl).bind (sign_sound _ rfl) [letter] (by decide) ?_ ?_
  · rintro _ op ⟨⟩ s
    exact ⟨_, .mk .name⟩
  rintro _ op ⟨⟩
  refine atom_honest.bind atom_sound [] (by decide) ?_ fun _ _ _ => honest_pure _
  intro ls e he
  rw [Anywhere, List.append_nil]
  exact ⟨_, .mk he⟩

theorem expr_honest : Honest expr 6 Product := by
  refine atom_honest.bind atom_sound [] (by decide) ?_ ?_
  · intro ls e he
    rw [Anywhere, List.append_nil]
    exact ⟨e, .atom he⟩
  intro ls first hfirst
  refine (factor_honest.many factor_sound).bind factor_sound.many [] (by decide) ?_
    fun _ _ _ => honest_pure _
  intro ms factors hfactors
  rw [Anywhere, List.append_nil]
  exact ⟨_, (Product.atom hfirst).foldl hfactors⟩

theorem evalStmt_honest : Honest evalStmt 7 (Derivable Statement) := by
  refine expr_honest.bind expr_sound [.semicolon] (by decide)
    (fun ls e he semi => exists_derivable (.eval he)) ?_
  intro ls e he
  exact (sign_honest .semicolon rfl).bind (sign_sound _ rfl) [] (by decide)
    (fun | _, semi, .mk => exists_derivable (.eval he)) fun _ _ _ => honest_pure _

/-- A name, which stands for itself. -/
inductive Name : List Lexeme → Spanned Bytes → Prop where
  | mk {letters : Bytes} {h : IsName letters} {s : Span} :
      Name [⟨.word letters h, s⟩] ⟨letters, s⟩

theorem name_honest : Honest name 1 Name := by
  intro c pos label hc h
  rw [name, log_padded hc, log_located] at h
  obtain ⟨rfl, rfl⟩ : pos = c.pos ∧ label = .identifier := by simpa using (mem_log_run.mp h).2
  have hadmits : Label.identifier.Admits letter := ⟨_, _, rfl⟩
  exact promises_here hadmits (fun s => ⟨_, .mk⟩) c

theorem assignStmt_honest : Honest assignStmt 7 (Derivable Statement) := by
  have hsound : Sound name Name := by
    intro c c' w hc h
    obtain ⟨hw, hstep⟩ := name_sound hc h
    exact ⟨_, .mk, hstep.passes⟩
  refine name_honest.bind hsound [.equals, letter, .semicolon] (by decide) ?_ ?_
  · rintro _ _ ⟨⟩ eq s semi
    exact exists_derivable (.assign (.atom .name))
  rintro _ n ⟨⟩
  refine (sign_honest .equals rfl).bind (sign_sound _ rfl) [letter, .semicolon] (by decide) ?_ ?_
  · rintro _ _ ⟨⟩ s semi
    exact exists_derivable (.assign (.atom .name))
  rintro _ eq ⟨⟩
  refine expr_honest.bind expr_sound [.semicolon] (by decide)
    (fun ls e he semi => exists_derivable (.assign he)) ?_
  intro ls e he
  exact (sign_honest .semicolon rfl).bind (sign_sound _ rfl) [] (by decide)
    (fun | _, semi, .mk => exists_derivable (.assign he)) fun _ _ _ => honest_pure _

theorem stmt_honest : Honest stmt 7 Statement :=
  (evalStmt_honest.orElse assignStmt_honest).located.padded

/-! ### Texts -/

/-- Terminals can be written one after the other without blanks. -/
theorem exists_laid (file pos : Nat) (ts : List Terminal) :
    ∃ ms : List Lexeme, ms.map Spanned.value = ts ∧
      Laid file pos (ts.flatMap Terminal.text) ms := by
  induction ts generalizing pos with
  | nil => exact ⟨[], rfl, .nil .nil⟩
  | cons t ts ih =>
    obtain ⟨ms, rfl, hlaid⟩ := ih (pos + t.text.length)
    exact ⟨_, rfl, @Laid.cons _ pos [] _ t ms .nil hlaid⟩

/-- What was passed over can be followed by another layout. -/
theorem exists_passed {c c' : Cursor} {ls : List Lexeme} (h : Passes c ls c') :
    ∃ u, c.rest = u ++ c'.rest ∧ c'.pos = c.pos + u.length ∧
      ∀ text ms, Laid c.file c'.pos text ms → Laid c.file c.pos (u ++ text) (ls ++ ms) := by
  induction h with
  | nil => exact ⟨[], rfl, rfl, fun _ _ h => h⟩
  | @cons c c₁ c₂ l ls hstep _ ih =>
    cases hstep with
    | @mk t rest hrest =>
      obtain ⟨v, hv, hvpos, hvlaid⟩ := exists_skipped (c.advance t.text.length)
      obtain ⟨u, hu, hupos, hulaid⟩ := ih
      have hdrop : (c.advance t.text.length).rest = rest := by
        rw [Cursor.advance, hrest, List.drop_left]
      rw [hdrop, hu] at hv
      refine ⟨t.text ++ (v ++ u), ?_, ?_, fun text ms hlaid => ?_⟩
      · rw [hrest, hv]
        simp only [List.append_assoc]
      · rw [hupos, hvpos]
        simp only [Cursor.advance, List.length_append]
        omega
      · have hbehind := hvlaid _ _ (hulaid text ms hlaid)
        simp only [List.append_assoc] at hbehind ⊢
        exact @Laid.cons _ c.pos [] _ t _ .nil hbehind

/-- A text up to a place that was reached over some lexemes, with more behind them. -/
theorem laid_take {file : Nat} {text more : Bytes} {c : Cursor} {ls ms : List Lexeme}
    (h : Passes (Cursor.start file text).skipBlanks ls c) (hmore : Laid file c.pos more ms) :
    Laid file 0 (text.take c.pos ++ more) (ls ++ ms) := by
  obtain ⟨v, hv, hvpos, hvlaid⟩ := exists_skipped (Cursor.start file text)
  obtain ⟨u, hu, hupos, hulaid⟩ := exists_passed h
  have htext : text = (v ++ u) ++ c.rest := by
    rw [List.append_assoc, ← hu, ← hv]
    rfl
  have hpos : c.pos = (v ++ u).length := by
    rw [hupos, hvpos, List.length_append]
    exact congrArg (· + u.length) (Nat.zero_add v.length)
  have htake : text.take c.pos = v ++ u := by
    rw [htext, hpos, List.take_left]
  rw [htake, List.append_assoc]
  exact hvlaid _ _ (hulaid more ms hmore)

end Grammar

/-- The text begins with a token that the label stands for; for the end there is no text. -/
def Label.Opens : Label → Bytes → Prop
  | token text, w => text <+: w
  | digit, w => ∃ digits, Grammar.IsNumber digits ∧ digits <+: w
  | identifier, w => ∃ letters, Grammar.IsName letters ∧ letters <+: w
  | endOfInput, w => w = []

theorem Label.Admits.opens {label : Label} {t : Terminal} (h : label.Admits t) (rest : Bytes) :
    label.Opens (t.text ++ rest) := by
  have hpre := List.prefix_append t.text rest
  cases label with
  | token text => exact (show t.text = text from h) ▸ hpre
  | digit =>
    obtain ⟨digits, hdigits, rfl⟩ := h
    exact ⟨digits, hdigits, hpre⟩
  | identifier =>
    obtain ⟨letters, hletters, rfl⟩ := h
    exact ⟨letters, hletters, hpre⟩
  | endOfInput => exact h.elim

/-- **What is expected can follow**: the text up to a place where something was looked for in vain
is the beginning of a program that goes on with it there, and ends soon. -/
theorem Program.parse_of_expected {file pos : Nat} {text : Bytes} {label : Label}
    (h : .expected pos label ∈ (Grammar.stmts (Cursor.start file text).skipBlanks).log) :
    ∃ w, label.Opens w ∧ w.length ≤ 7 ∧ ∃ p, parse file (text.take pos ++ w) = .ok p := by
  have hc := (Cursor.start file text).isTrimmed_skipBlanks
  obtain h | ⟨list, c, hread, h⟩ := Reader.mem_log_bind.mp h
  · obtain ⟨ls, c, t, ts, hpass, rfl, hadmits, hwidth, hgoes⟩ :=
      Grammar.stmt_honest.many Grammar.stmt_sound hc h
    obtain ⟨ms, hms, hlaid⟩ := Grammar.exists_laid file c.pos (t :: ts)
    obtain ⟨stmts, hstmts⟩ := hgoes.apply hms
    have hsentence : Grammar.Sentence file _ stmts := ⟨_, Grammar.laid_take hpass hlaid, hstmts⟩
    exact ⟨_, hadmits.opens _, hwidth, _, hsentence.parse_eq_ok⟩
  · obtain ⟨ls, hls, hpass⟩ := Grammar.stmt_sound.many hc hread
    obtain h | ⟨_, _, -, h⟩ := Reader.mem_log_bind.mp h
    · obtain ⟨rfl, rfl⟩ : pos = c.pos ∧ label = .endOfInput := by
        simpa using (Reader.mem_log_atEnd.mp h).2
      rw [← List.append_nil ls] at hls
      have hsentence : Grammar.Sentence file _ list :=
        ⟨_, Grammar.laid_take hpass (.nil .nil), hls⟩
      exact ⟨[], rfl, Nat.zero_le 7, _, hsentence.parse_eq_ok⟩
    · exact absurd h Reader.not_mem_log_pure

end TensorLang
