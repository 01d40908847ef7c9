import TensorLang.Proofs.Syntax.Logs
import TensorLang.Proofs.Syntax.Tokens
import TensorLang.Proofs.Text.Validity

/-!
# More text at the end

What a reader finds inside a text does not depend on what follows the text. If everything that it
looked for in vain was looked for in front of some text, and in front of more than a single dot,
which might become a pair of dots, and if no literal was rejected, then the reader answers the same
with more text behind (`Reader.Steady`). What is read up to the very end may still become longer;
but then something is looked for at the end, unless the whole text is read.

So a text that is refused inside cannot be completed (`Program.parse_append_of_settled`).
-/

namespace TensorLang

/-! ### Places -/

namespace Cursor

/-- A place of a well-formed text, between two code points. -/
structure On (text : Bytes) (c : Cursor) : Prop where
  rest_eq : c.rest = text.drop c.pos
  valid : Utf8.isValid c.rest = true

/-- The same place with more text behind. -/
def extend (more : Bytes) (c : Cursor) : Cursor := ⟨c.file, c.pos, c.rest ++ more⟩

variable {text more : Bytes} {c : Cursor}

theorem extend_advance {n : Nat} (hn : n ≤ c.rest.length) (more : Bytes) :
    (c.advance n).extend more = (c.extend more).advance n := by
  simp only [extend, advance, List.drop_append_of_le_length hn]

/-- More text behind does not change the next byte. -/
theorem head?_extend (hne : c.rest ≠ []) : (c.extend more).rest.head? = c.rest.head? := by
  obtain ⟨b, bs, hrest⟩ := List.exists_cons_of_ne_nil hne
  rw [extend, hrest]
  rfl

theorem On.advance {n : Nat} (h : c.On text) (hvalid : Utf8.isValid (c.rest.drop n) = true) :
    (c.advance n).On text where
  rest_eq := by
    simp only [Cursor.advance, h.rest_eq, List.drop_drop, Nat.add_comm]
  valid := hvalid

theorem On.skipBlanks (h : c.On text) : c.skipBlanks.On text :=
  h.advance (Text.isValid_drop_blankLength h.valid)

/-- A span that something follows is the same one with more text behind. -/
theorem On.trimmedTo_extend {c' : Cursor} (h : c.On text) (h' : c'.On text)
    (hne : c'.rest ≠ []) : (c.extend more).trimmedTo (c'.extend more) = c.trimmedTo c' := by
  have hlen : c'.pos - c.pos ≤ c.rest.length := by
    have hpos := List.length_pos_iff.mpr hne
    rw [h'.rest_eq, List.length_drop] at hpos
    rw [h.rest_eq, List.length_drop]
    omega
  simp only [trimmedTo, extend, spanOf, List.take_append_of_le_length hlen]

/-- Blanks that something follows are the same ones with more text behind. -/
theorem On.extend_skipBlanks (h : c.On text) (hne : c.skipBlanks.rest ≠ []) :
    (c.extend more).skipBlanks = c.skipBlanks.extend more := by
  have hlen : Text.blankLength (c.rest ++ more) = Text.blankLength c.rest :=
    Text.blankLength_append_of_isValid h.valid hne more
  calc (c.extend more).skipBlanks
      = (c.extend more).advance (Text.blankLength (c.rest ++ more)) := rfl
    _ = (c.extend more).advance (Text.blankLength c.rest) := by rw [hlen]
    _ = c.skipBlanks.extend more := (extend_advance (Text.blankLength_le c.rest) more).symm

end Cursor

/-- The complaint does not depend on what follows the text: something else stands at its place, and
it is not a dot at the end. -/
def Complaint.Settled (text : Bytes) : Complaint → Prop
  | expected pos _ => text.drop pos ≠ [] ∧ text.drop pos ≠ ".".utf8
  | rejected _ _ => False

/-- No complaint of the answer depends on what follows the text. -/
def Reply.Settled {α : Type} (text : Bytes) (r : Reply α) : Prop := ∀ k ∈ r.log, k.Settled text

namespace Reader

variable {α β : Type} {text more : Bytes} {p q : Reader α} {f : α → Reader β} {c : Cursor}

theorem settled_of_bind (h : ((p >>= f) c).Settled text) :
    (p c).Settled text ∧ ∀ a c', (p c).value = some (a, c') → (f a c').Settled text := by
  refine ⟨fun k hk => h k (mem_log_bind.mpr (.inl hk)), fun a c' hread k hk => ?_⟩
  exact h k (mem_log_bind.mpr (.inr ⟨a, c', hread, hk⟩))

theorem settled_of_orElse (h : (orElse p q c).Settled text) :
    (p c).Settled text ∧ ((p c).value = none → (q c).Settled text) := by
  refine ⟨fun k hk => h k (mem_log_orElse.mpr (.inl hk)), fun hread k hk => ?_⟩
  exact h k (mem_log_orElse.mpr (.inr ⟨hread, hk⟩))

theorem settled_of_many (h : (many p c).Settled text) :
    (p c).Settled text ∧ ∀ a c', (p c).value = some (a, c') →
      c'.rest.length < c.rest.length → (many p c').Settled text := by
  refine ⟨fun k hk => h k (mem_log_many.mpr (.inl hk)), fun a c' hread hlt k hk => ?_⟩
  exact h k (mem_log_many.mpr (.inr ⟨a, c', hread, hlt, hk⟩))

/-- With more behind the text the reader answers the same, if all its complaints are settled. What
it reads up to the end is left open. -/
structure Steady (text more : Bytes) (p : Reader α) : Prop where
  none : ∀ ⦃c : Cursor⦄, c.On text → (p c).Settled text → (p c).value = none →
    c.rest ≠ [] ∧ (p (c.extend more)).value = none
  some : ∀ ⦃c c' : Cursor⦄ ⦃a : α⦄, c.On text → (p c).Settled text →
    (p c).value = some (a, c') →
      c'.On text ∧ c'.rest.length ≤ c.rest.length ∧
        (c'.rest ≠ [] → (p (c.extend more)).value = some (a, c'.extend more))

private theorem ne_nil_of_length_le {l m : Bytes} (hle : l.length ≤ m.length) (hl : l ≠ []) :
    m ≠ [] := by
  rintro rfl
  exact hl (List.length_eq_zero_iff.mp (Nat.le_zero.mp hle))

/-! ### Combinators -/

theorem steady_pure (a : α) : Steady text more (pure a) where
  none _ _ _ h := by cases h
  some c c' a' hc _ h := by
    obtain ⟨rfl, rfl⟩ := pure_eq_some.mp h
    exact ⟨hc, Nat.le_refl _, fun _ => rfl⟩

theorem Steady.bind (hp : Steady text more p) (hf : ∀ a, Steady text more (f a)) :
    Steady text more (p >>= f) where
  none c hc hlog h := by
    obtain ⟨hlogp, hlogf⟩ := settled_of_bind hlog
    obtain h | ⟨a, c', hread, h⟩ := bind_eq_none.mp h
    · obtain ⟨hne, hext⟩ := hp.none hc hlogp h
      exact ⟨hne, bind_eq_none.mpr (.inl hext)⟩
    · obtain ⟨hc', hle, hext⟩ := hp.some hc hlogp hread
      -- the second part failed, so there is text ahead of it and the first one stays
      obtain ⟨hne, hext'⟩ := (hf a).none hc' (hlogf a c' hread) h
      exact ⟨ne_nil_of_length_le hle hne, bind_eq_none.mpr (.inr ⟨a, _, hext hne, hext'⟩)⟩
  some c c'' b hc hlog h := by
    obtain ⟨hlogp, hlogf⟩ := settled_of_bind hlog
    obtain ⟨a, c', hread, h⟩ := bind_eq_some.mp h
    obtain ⟨hc', hle, hext⟩ := hp.some hc hlogp hread
    obtain ⟨hc'', hle', hext'⟩ := (hf a).some hc' (hlogf a c' hread) h
    refine ⟨hc'', Nat.le_trans hle' hle, fun hne => bind_eq_some.mpr ⟨a, _, ?_, hext' hne⟩⟩
    exact hext (ne_nil_of_length_le hle' hne)

theorem Steady.orElse (hp : Steady text more p) (hq : Steady text more q) :
    Steady text more (orElse p q) where
  none c hc hlog h := by
    obtain ⟨hlogp, hlogq⟩ := settled_of_orElse hlog
    obtain ⟨hpc, hqc⟩ := orElse_eq_none.mp h
    obtain ⟨hne, hextp⟩ := hp.none hc hlogp hpc
    obtain ⟨-, hextq⟩ := hq.none hc (hlogq hpc) hqc
    exact ⟨hne, orElse_eq_none.mpr ⟨hextp, hextq⟩⟩
  some c c' a hc hlog h := by
    obtain ⟨hlogp, hlogq⟩ := settled_of_orElse hlog
    obtain hread | ⟨hpc, hread⟩ := orElse_eq_some.mp h
    · obtain ⟨hc', hle, hext⟩ := hp.some hc hlogp hread
      exact ⟨hc', hle, fun hne => orElse_eq_some.mpr (.inl (hext hne))⟩
    · obtain ⟨-, hextp⟩ := hp.none hc hlogp hpc
      obtain ⟨hc', hle, hext⟩ := hq.some hc (hlogq hpc) hread
      exact ⟨hc', hle, fun hne => orElse_eq_some.mpr (.inr ⟨hextp, hext hne⟩)⟩

theorem Steady.optional (hp : Steady text more p) : Steady text more (optional p) where
  none c _ _ h := absurd h (optional_ne_none p c)
  some c c' o hc hlog h := by
    rw [Reply.Settled, log_optional] at hlog
    obtain ⟨a, rfl, hread⟩ | ⟨rfl, rfl, hread⟩ := optional_eq_some.mp h
    · obtain ⟨hc', hle, hext⟩ := hp.some hc hlog hread
      exact ⟨hc', hle, fun hne => optional_eq_some.mpr (.inl ⟨a, rfl, hext hne⟩)⟩
    · obtain ⟨-, hext⟩ := hp.none hc hlog hread
      exact ⟨hc, Nat.le_refl _, fun _ => optional_eq_some.mpr (.inr ⟨rfl, rfl, hext⟩)⟩

/-- A repetition stops where the reader fails or does not move, and both stay. -/
theorem Steady.many (hp : Steady text more p) : Steady text more (many p) where
  none c _ _ h := absurd h (many_ne_none p c)
  some c c'' as hc hlog h := by
    -- by induction on the text ahead, which every round shortens
    induction hn : c.rest.length using Nat.strongRecOn generalizing c as with
    | ind n ih =>
      obtain ⟨hlogp, hlogmore⟩ := settled_of_many hlog
      rw [value_many] at h
      rw [value_many]
      cases hread : (p c).value with
      | none =>
        rw [hread] at h
        obtain ⟨rfl, rfl⟩ : [] = as ∧ c = c'' := by simpa using h
        obtain ⟨-, hext⟩ := hp.none hc hlogp hread
        exact ⟨hc, Nat.le_of_eq hn, fun _ => by rw [hext]⟩
      | some v =>
        obtain ⟨a, c'⟩ := v
        obtain ⟨hc', hle, hext⟩ := hp.some hc hlogp hread
        simp only [hread] at h
        split_ifs at h with hlt
        · obtain ⟨⟨as', c₁⟩, hmore, heq⟩ := Option.map_eq_some_iff.mp h
          obtain ⟨rfl, rfl⟩ : a :: as' = as ∧ c₁ = c'' := by simpa using heq
          obtain ⟨hc₁, hle₁, hext₁⟩ :=
            ih _ (hn ▸ hlt) c' as' hc' (hlogmore a c' hread hlt) hmore rfl
          refine ⟨hc₁, by omega, fun hne => ?_⟩
          have hlt' : (c'.extend more).rest.length < (c.extend more).rest.length := by
            simpa [Cursor.extend] using hlt
          simp only [hext (ne_nil_of_length_le hle₁ hne), if_pos hlt', hext₁ hne, Option.map_some]
        · -- a reading that takes up nothing ends the repetition, here and with more text
          obtain ⟨rfl, rfl⟩ : [] = as ∧ c = c'' := by simpa using h
          have hsame : c.rest.length ≤ c'.rest.length := Nat.not_lt.mp hlt
          have hlt' : ¬ (c'.extend more).rest.length < (c.extend more).rest.length := by
            simpa [Cursor.extend] using hsame
          refine ⟨hc, Nat.le_of_eq hn, fun hne => ?_⟩
          simp only [hext (ne_nil_of_length_le hsame hne), if_neg hlt']

theorem Steady.separated {sep : Reader β} (hp : Steady text more p)
    (hsep : Steady text more sep) : Steady text more (separated p sep) := by
  refine hp.optional.bind fun o => ?_
  cases o with
  | none => exact steady_pure _
  | some a => exact (Steady.many (hsep.bind fun _ => hp)).bind fun as => steady_pure _

/-- Blanks that reach the end could become more; but then the reader would have to do with the
empty text, and nothing but the end is read there. -/
theorem Steady.padded (hp : Steady text more p) : Steady text more (padded p) where
  none c hc hlog h := by
    rw [value_padded, Option.map_eq_none_iff] at h
    obtain ⟨hne, hext⟩ := hp.none hc.skipBlanks hlog h
    refine ⟨ne_nil_of_length_le c.length_skipBlanks_le hne, ?_⟩
    rw [value_padded, hc.extend_skipBlanks hne, hext, Option.map_none]
  some c c'' a hc hlog h := by
    rw [value_padded] at h
    obtain ⟨⟨a, c'⟩, hread, heq⟩ := Option.map_eq_some_iff.mp h
    obtain ⟨rfl, rfl⟩ := Prod.mk.inj heq
    obtain ⟨hc', hle, hext⟩ := hp.some hc.skipBlanks hlog hread
    have hle' := c'.length_skipBlanks_le
    have hlec := c.length_skipBlanks_le
    -- text behind the last blanks is text behind all blanks and readings before them
    refine ⟨hc'.skipBlanks, Nat.le_trans hle' (Nat.le_trans hle hlec), fun hne => ?_⟩
    have hne' := ne_nil_of_length_le hle' hne
    rw [value_padded, hc.extend_skipBlanks (ne_nil_of_length_le hle hne'), hext hne',
      Option.map_some, hc'.extend_skipBlanks hne]

/-! ### Tokens -/

/-- Signs of the language are ASCII text, and no sign begins like a longer one except for the
dots. -/
def IsSign (sign : Bytes) : Prop :=
  sign.IsAscii ∧ ∀ n < sign.length, 0 < n → sign.take n = ".".utf8

instance : DecidablePred IsSign := fun sign =>
  -- not by trying all bytes
  @instDecidableAnd _ _ (List.decidableBAll (· < 0x80) sign) (Nat.decidableBallLT _ _)

theorem steady_exactly {sign : Bytes} (hsign : IsSign sign) : Steady text more (exactly sign) where
  none c hc hlog h := by
    obtain ⟨hne, hdot⟩ := hlog _ (mem_log_exactly.mpr ⟨h, rfl⟩)
    rw [← hc.rest_eq] at hne hdot
    refine ⟨hne, exactly_eq_none.mpr fun rest hrest => ?_⟩
    obtain ⟨w, hw, -⟩ | ⟨w, hw, -⟩ := List.append_eq_append_iff.mp hrest
    · cases w with
      | nil => exact exactly_eq_none.mp h [] (by rw [hw, List.append_nil, List.append_nil])
      | cons b w =>
        -- the text ends within the sign, so it is a single dot
        have hlen : c.rest.length < sign.length := by simp [hw]
        have htake := hsign.2 _ hlen (List.length_pos_iff.mpr hne)
        rw [hw, List.take_left] at htake
        exact hdot htake
    · exact exactly_eq_none.mp h w hw
  some c c' s hc hlog h := by
    obtain ⟨⟨rest, hrest⟩, rfl, rfl⟩ := exactly_eq_some.mp h
    have hlen : sign.length ≤ c.rest.length := by simp [hrest]
    have hvalid := hc.valid
    rw [hrest] at hvalid
    have hdrop : Utf8.isValid (c.rest.drop sign.length) = true := by
      rw [hrest, List.drop_left]
      exact Utf8.isValid_of_isAscii_append hsign.1 hvalid
    refine ⟨hc.advance hdrop, by simp [Cursor.advance], fun _ => ?_⟩
    rw [Cursor.extend_advance hlen]
    refine exactly_eq_some.mpr ⟨⟨rest ++ more, ?_⟩, rfl, rfl⟩
    rw [Cursor.extend, hrest, List.append_assoc]

/-- A run of ASCII bytes that does not reach the end is not longer with more text behind. -/
theorem steady_run {label : Label} {first rest : UInt8 → Bool}
    (hfirst : ∀ b, first b = true → b < 0x80) (hrest : ∀ b, rest b = true → b < 0x80) :
    Steady text more (run label first rest) where
  none c hc hlog h := by
    obtain ⟨hne, -⟩ := hlog _ (mem_log_run.mpr ⟨h, rfl⟩)
    rw [← hc.rest_eq] at hne
    refine ⟨hne, run_eq_none.mpr fun b hb => run_eq_none.mp h b ?_⟩
    rwa [Cursor.head?_extend hne] at hb
  some c c' w hc hlog h := by
    have hstops := stops_of_run h
    obtain ⟨b, bs, tail, rfl, hb, hbs, hsplit, rfl⟩ := run_eq_some h
    have hascii : Bytes.IsAscii (b :: bs) :=
      List.forall_mem_cons.mpr ⟨hfirst b hb, fun x hx => hrest x (hbs x hx)⟩
    have htail : c.rest.drop (b :: bs).length = tail := by rw [hsplit, List.drop_left]
    have hvalid : Utf8.isValid (c.rest.drop (b :: bs).length) = true := by
      rw [htail]
      exact Utf8.isValid_of_isAscii_append hascii (hsplit ▸ hc.valid)
    refine ⟨hc.advance hvalid, by simp [Cursor.advance], fun hne => ?_⟩
    have hlen : (b :: bs).length ≤ c.rest.length := by simp [hsplit]
    rw [Cursor.extend_advance hlen]
    have hbehind : ((c.extend more).advance (b :: bs).length).rest = tail ++ more := by
      rw [← Cursor.extend_advance hlen, Cursor.extend, Cursor.advance, htail]
    have hstops' : ((c.extend more).advance (b :: bs).length).Stops rest := by
      rw [← Cursor.extend_advance hlen, Cursor.Stops, Cursor.head?_extend hne]
      exact hstops
    rw [Cursor.Stops, hbehind] at hstops'
    have hsplit' : (c.extend more).rest = b :: bs ++ (tail ++ more) := by
      rw [Cursor.extend, hsplit, List.append_assoc]
    exact (run_accepts hsplit' hb hbs hstops').value_eq

theorem Steady.convert (hp : Steady text more p) (g : α → Except LiteralProblem β) :
    Steady text more (convert p g) where
  none c hc hlog h := by
    obtain h | ⟨a, c', problem, hread, hg⟩ := convert_eq_none.mp h
    · obtain ⟨hne, hext⟩ := hp.none hc (fun k hk => hlog k (mem_log_convert.mpr (.inl hk))) h
      exact ⟨hne, convert_eq_none.mpr (.inl hext)⟩
    · exact (hlog _ (mem_log_convert.mpr (.inr ⟨a, c', problem, hread, hg, rfl⟩))).elim
  some c c' b hc hlog h := by
    obtain ⟨a, hread, hg⟩ := convert_eq_some h
    obtain ⟨hc', hle, hext⟩ :=
      hp.some hc (fun k hk => hlog k (mem_log_convert.mpr (.inl hk))) hread
    exact ⟨hc', hle, fun hne => convert_of_ok (hext hne) hg⟩

/-- The span of what was read does not depend on what follows it. -/
theorem Steady.located (hp : Steady text more p) (g : α → Span → β) :
    Steady text more (located p g) where
  none c hc hlog h := by
    rw [Reply.Settled, log_located] at hlog
    obtain ⟨hne, hext⟩ := hp.none hc hlog (located_eq_none.mp h)
    exact ⟨hne, located_eq_none.mpr hext⟩
  some c c' b hc hlog h := by
    rw [Reply.Settled, log_located] at hlog
    obtain ⟨a, hread, rfl⟩ := located_eq_some.mp h
    obtain ⟨hc', hle, hext⟩ := hp.some hc hlog hread
    refine ⟨hc', hle, fun hne => located_eq_some.mpr ⟨a, hext hne, ?_⟩⟩
    rw [hc.trimmedTo_extend hc' hne]

theorem steady_atEnd : Steady text more atEnd where
  none c hc hlog h := by
    have hne := atEnd_eq_none.mp h
    exact ⟨hne, atEnd_eq_none.mpr (List.append_ne_nil_of_left_ne_nil hne more)⟩
  some c c' u hc hlog h := by
    obtain ⟨hend, rfl⟩ := atEnd_eq_some.mp h
    exact ⟨hc, Nat.le_refl _, fun hne => absurd hend hne⟩

end Reader

/-! ### The grammar -/

namespace Grammar

open Reader

variable {text more : Bytes}

theorem steady_token {sign : String} (h : IsSign sign.utf8) : Steady text more (token sign) :=
  (steady_exactly h).padded

theorem lt_of_isDigit (b : UInt8) (h : Decimal.isDigit b = true) : b < 0x80 := by
  have hb := isDigit_iff.mp h
  simp only [UInt8.lt_iff_toNat_lt, UInt8.reduceToNat]
  omega

theorem lt_of_isNamePart (b : UInt8) (h : isNamePart b = true) : b < 0x80 := by
  have hb := isNamePart_iff.mp h
  simp only [UInt8.lt_iff_toNat_lt, UInt8.reduceToNat]
  omega

theorem steady_digits : Steady text more digits := steady_run lt_of_isDigit lt_of_isDigit

theorem steady_word : Steady text more word :=
  steady_run (fun b h => lt_of_isNamePart b (isNamePart_of_isNameStart b h)) lt_of_isNamePart

theorem steady_int32 : Steady text more int32 :=
  ((steady_digits.convert toInt32).located Spanned.mk).padded

theorem steady_dimension : Steady text more dimension :=
  ((steady_digits.convert toDimension).located Spanned.mk).padded

theorem steady_dtype : Steady text more dtype :=
  ((steady_word.convert toDType).located Spanned.mk).padded

theorem steady_fill : Steady text more fill := by
  have hsemi : Steady text more (token ";") := steady_token (by decide)
  refine (steady_token (by decide)).bind fun first => ?_
  refine (steady_dimension.separated (steady_token (by decide))).bind fun shape => ?_
  refine hsemi.bind fun _ => steady_int32.bind fun value => ?_
  refine (hsemi.bind fun _ => steady_dtype).optional.bind fun dt => ?_
  exact (steady_token (by decide)).bind fun last => steady_pure _

theorem steady_range : Steady text more range := by
  refine (steady_token (by decide)).bind fun first => steady_int32.bind fun lo => ?_
  refine (steady_token (by decide)).bind fun _ => steady_int32.bind fun hi => ?_
  refine ((steady_token (by decide)).bind fun _ => steady_int32).optional.bind fun step => ?_
  exact (steady_token (by decide)).bind fun last => steady_pure _

theorem steady_atom : Steady text more atom :=
  ((steady_fill.orElse (steady_range.orElse (steady_word.bind fun _ => steady_pure _))).located
    id).padded

theorem steady_expr : Steady text more expr := by
  refine steady_atom.bind fun first => (Steady.many ?_).bind fun factors => steady_pure _
  exact (steady_token (by decide)).bind fun op => steady_atom.bind fun rhs => steady_pure _

theorem steady_stmt : Steady text more stmt := by
  have hsemi : Steady text more (token ";") := steady_token (by decide)
  have hassign : Steady text more assignStmt := by
    refine (steady_word.located Spanned.mk).padded.bind fun n => ?_
    refine (steady_token (by decide)).bind fun _ => ?_
    exact steady_expr.bind fun value => hsemi.bind fun semi => steady_pure _
  have heval : Steady text more evalStmt :=
    steady_expr.bind fun value => hsemi.bind fun semi => steady_pure _
  exact ((heval.orElse hassign).located id).padded

theorem steady_stmts : Steady text more stmts :=
  steady_stmt.many.bind fun _ => steady_atEnd.bind fun _ => steady_pure _

end Grammar

theorem Program.of_parse_eq_error {file : Nat} {text : Bytes} {e : ParseError}
    (h : parse file text = .error e) :
    (Grammar.stmts (Cursor.start file text).skipBlanks).value = none ∧
      e = .ofLog file text (Grammar.stmts (Cursor.start file text).skipBlanks).log := by
  rw [parse] at h
  split at h
  · cases h
  · next hnone =>
    cases h
    exact ⟨hnone, rfl⟩

/-- **A text that is refused inside cannot be completed**: if all complaints about a text are
settled, then no text that begins with it is read. -/
theorem Program.parse_append_of_settled {file : Nat} {text : Bytes} {e : ParseError}
    (hvalid : Utf8.isValid text = true) (h : parse file text = .error e)
    (hlog : (Grammar.stmts (Cursor.start file text).skipBlanks).Settled text)
    (more : Bytes) (p : Program) : parse file (text ++ more) ≠ .ok p := by
  have hstart : (Cursor.start file text).On text := ⟨rfl, hvalid⟩
  obtain ⟨hnone, -⟩ := of_parse_eq_error h
  have hsteady : Reader.Steady text more Grammar.stmts := Grammar.steady_stmts
  obtain ⟨hne, hext⟩ := hsteady.none hstart.skipBlanks hlog hnone
  rw [← hstart.extend_skipBlanks hne] at hext
  have hstart' : (Cursor.start file text).extend more = Cursor.start file (text ++ more) := rfl
  rw [hstart'] at hext
  simp [parse, hext]

end TensorLang
