import TensorLang.Proofs.Syntax.Trimming

/-!
# What readers answer

The laws of the reader combinators in two forms.

* The equivalences `Reader.bind_eq_some`, `Reader.orElse_eq_some` and so on take a successful
  reading apart.
* `Reader.Accepts` and `Reader.Refuses` say that a reader answers something, or nothing, and that
  **no literal was rejected on the way**: all it complains about is what it did not find. Their laws
  put readings together.
-/

namespace TensorLang

namespace Complaint

/-- Is the complaint that something was not found? -/
def isMiss : Complaint → Bool
  | expected _ _ => true
  | rejected _ _ => false

end Complaint

namespace Reader

variable {α β : Type} {p q : Reader α} {f : α → Reader β} {c c' c'' : Cursor} {a : α} {b : β}

/-- The reader answers `a` and the cursor `c'`, and rejects no literal on the way. -/
def Accepts (p : Reader α) (c : Cursor) (a : α) (c' : Cursor) : Prop :=
  ∃ log fits, p c = ⟨some (a, c'), log, fits⟩ ∧ log.all Complaint.isMiss = true

/-- The reader answers nothing, and rejects no literal on the way. -/
def Refuses (p : Reader α) (c : Cursor) : Prop :=
  ∃ log fits, p c = ⟨none, log, fits⟩ ∧ log.all Complaint.isMiss = true

private theorem all_isMiss_append {l m : List Complaint} (hl : l.all Complaint.isMiss = true)
    (hm : m.all Complaint.isMiss = true) : (l ++ m).all Complaint.isMiss = true := by
  rw [List.all_append, hl, hm, Bool.and_self]

theorem Accepts.value_eq (h : p.Accepts c a c') : (p c).value = some (a, c') := by
  obtain ⟨log, fits, h, -⟩ := h
  rw [h]

/-! ### Sequences -/

private theorem bind_apply (p : Reader α) (f : α → Reader β) (c : Cursor) :
    (p >>= f) c = Reader.bind p f c := rfl

theorem bind_eq_some :
    ((p >>= f) c).value = some (b, c'') ↔
      ∃ a c', (p c).value = some (a, c') ∧ (f a c').value = some (b, c'') := by
  rw [bind_apply, Reader.bind]
  rcases p c with ⟨_ | ⟨a, c'⟩, log⟩ <;> simp

theorem pure_eq_some {a' : α} :
    ((pure a : Reader α) c).value = some (a', c') ↔ a = a' ∧ c = c' := by
  change some (a, c) = some (a', c') ↔ _
  rw [Option.some.injEq, Prod.mk.injEq]

theorem accepts_pure (a : α) (c : Cursor) : (pure a : Reader α).Accepts c a c :=
  ⟨[], true, rfl, rfl⟩

theorem Accepts.bind (hp : p.Accepts c a c') (hf : (f a).Accepts c' b c'') :
    (p >>= f).Accepts c b c'' := by
  obtain ⟨l, s, hp, hl⟩ := hp
  obtain ⟨m, t, hf, hm⟩ := hf
  refine ⟨l ++ m, s && t, ?_, all_isMiss_append hl hm⟩
  simp only [bind_apply, Reader.bind, hp, hf]

theorem Refuses.bind (hp : p.Refuses c) : (p >>= f).Refuses c := by
  obtain ⟨l, s, hp, hl⟩ := hp
  exact ⟨l, s, by simp only [bind_apply, Reader.bind, hp], hl⟩

theorem Accepts.bind_refuses (hp : p.Accepts c a c') (hf : (f a).Refuses c') :
    (p >>= f).Refuses c := by
  obtain ⟨l, s, hp, hl⟩ := hp
  obtain ⟨m, t, hf, hm⟩ := hf
  refine ⟨l ++ m, s && t, ?_, all_isMiss_append hl hm⟩
  simp only [bind_apply, Reader.bind, hp, hf]

/-! ### Choices -/

theorem orElse_eq_some :
    (orElse p q c).value = some (a, c') ↔
      (p c).value = some (a, c') ∨ (p c).value = none ∧ (q c).value = some (a, c') := by
  rw [orElse]
  rcases p c with ⟨_ | ⟨a, c'⟩, log⟩ <;> simp

theorem Accepts.orElse (hp : p.Accepts c a c') : (orElse p q).Accepts c a c' := by
  obtain ⟨l, s, hp, hl⟩ := hp
  exact ⟨l, s, by simp only [Reader.orElse, hp], hl⟩

theorem Refuses.orElse_accepts (hp : p.Refuses c) (hq : q.Accepts c a c') :
    (orElse p q).Accepts c a c' := by
  obtain ⟨l, s, hp, hl⟩ := hp
  obtain ⟨m, t, hq, hm⟩ := hq
  refine ⟨l ++ m, s && t, ?_, all_isMiss_append hl hm⟩
  simp only [Reader.orElse, hp, hq]

theorem Refuses.orElse_refuses (hp : p.Refuses c) (hq : q.Refuses c) :
    (orElse p q).Refuses c := by
  obtain ⟨l, s, hp, hl⟩ := hp
  obtain ⟨m, t, hq, hm⟩ := hq
  refine ⟨l ++ m, s && t, ?_, all_isMiss_append hl hm⟩
  simp only [Reader.orElse, hp, hq]

theorem optional_eq_some {o : Option α} :
    (optional p c).value = some (o, c') ↔
      (∃ a, o = some a ∧ (p c).value = some (a, c')) ∨
        o = none ∧ c' = c ∧ (p c).value = none := by
  rw [optional]
  rcases p c with ⟨_ | ⟨a, c₁⟩, log⟩
  · simp only [Option.some.injEq, Prod.mk.injEq, reduceCtorEq, and_false, exists_false, false_or,
      and_true]
    exact ⟨fun ⟨h, h'⟩ => ⟨h.symm, h'.symm⟩, fun ⟨h, h'⟩ => ⟨h.symm, h'.symm⟩⟩
  · simp only [Option.some.injEq, Prod.mk.injEq, reduceCtorEq, and_false, or_false]
    constructor
    · rintro ⟨rfl, rfl⟩
      exact ⟨a, rfl, rfl, rfl⟩
    · rintro ⟨_, rfl, rfl, rfl⟩
      exact ⟨rfl, rfl⟩

theorem Accepts.optional (hp : p.Accepts c a c') : (optional p).Accepts c (some a) c' := by
  obtain ⟨l, s, hp, hl⟩ := hp
  exact ⟨l, s, by simp only [Reader.optional, hp], hl⟩

theorem Refuses.optional (hp : p.Refuses c) : (Reader.optional p).Accepts c none c := by
  obtain ⟨l, s, hp, hl⟩ := hp
  exact ⟨l, s, by simp only [Reader.optional, hp], hl⟩

/-! ### Repetitions -/

/-- What a repetition answers: nothing more if the reader fails or does not move. -/
theorem many_eq_some {as : List α} :
    (many p c).value = some (as, c'') →
      (as = [] ∧ c'' = c) ∨
        ∃ a as' c', as = a :: as' ∧ (p c).value = some (a, c') ∧
          c'.rest.length < c.rest.length ∧ (many p c').value = some (as', c'') := by
  rw [many]
  rcases p c with ⟨_ | ⟨a, c'⟩, log⟩
  · simp only [Option.some.injEq, Prod.mk.injEq]
    rintro ⟨rfl, rfl⟩
    exact .inl ⟨rfl, rfl⟩
  · dsimp only
    split_ifs with hlt
    · simp only [Option.map_eq_some_iff, Prod.exists, Prod.mk.injEq]
      rintro ⟨as', c₁, hmore, rfl, rfl⟩
      exact .inr ⟨a, as', c', rfl, rfl, hlt, hmore⟩
    · simp only [Option.some.injEq, Prod.mk.injEq]
      rintro ⟨rfl, rfl⟩
      exact .inl ⟨rfl, rfl⟩

/-- Induction on the rounds that a repetition answers. -/
theorem many_induction
    {motive : (c : Cursor) → (as : List α) → (many p c).value = some (as, c'') → Prop}
    (stop : ∀ h, motive c'' [] h)
    (round : ∀ c a c' as h, (p c).value = some (a, c') →
      ∀ hmore : (many p c').value = some (as, c''), motive c' as hmore → motive c (a :: as) h)
    (c : Cursor) (as : List α) (h : (many p c).value = some (as, c'')) : motive c as h := by
  -- by induction on the text ahead, which every round shortens
  induction hn : c.rest.length using Nat.strongRecOn generalizing c as with
  | ind n ih =>
    obtain ⟨rfl, rfl⟩ | ⟨a, as', c', rfl, hread, hlt, hmore⟩ := many_eq_some h
    · exact stop h
    · exact round c a c' as' h hread hmore (ih _ (hn ▸ hlt) c' as' hmore rfl)

theorem Refuses.many (hp : p.Refuses c) : Accepts (Reader.many p) c [] c := by
  obtain ⟨l, s, hp, hl⟩ := hp
  refine ⟨l, s, ?_, hl⟩
  rw [Reader.many, hp]

theorem Accepts.many {as : List α} (hp : p.Accepts c a c')
    (hlt : c'.rest.length < c.rest.length) (hmore : Accepts (Reader.many p) c' as c'') :
    Accepts (Reader.many p) c (a :: as) c'' := by
  obtain ⟨l, s, hp, hl⟩ := hp
  obtain ⟨m, t, hmore, hm⟩ := hmore
  refine ⟨l ++ m, s && t, ?_, all_isMiss_append hl hm⟩
  rw [Reader.many, hp]
  simp only [hlt, if_true, hmore, Option.map_some]

/-! ### Blanks around a reading -/

theorem padded_eq_some (hc : c.IsTrimmed) :
    (padded p c).value = some (a, c'') ↔
      ∃ c', (p c).value = some (a, c') ∧ c'' = c'.skipBlanks := by
  simp only [padded, hc.skipBlanks_eq, Option.map_eq_some_iff, Prod.exists, Prod.mk.injEq]
  constructor
  · rintro ⟨_, c', h, rfl, rfl⟩
    exact ⟨c', h, rfl⟩
  · rintro ⟨c', h, rfl⟩
    exact ⟨a, c', h, rfl, rfl⟩

theorem Accepts.padded (hc : c.IsTrimmed) (hp : p.Accepts c a c') :
    (padded p).Accepts c a c'.skipBlanks := by
  obtain ⟨l, s, hp, hl⟩ := hp
  exact ⟨l, s, by simp only [Reader.padded, hc.skipBlanks_eq, hp, Option.map_some], hl⟩

theorem Accepts.padded_of_isTrimmed (hc : c.IsTrimmed) (hc' : c'.IsTrimmed)
    (hp : p.Accepts c a c') : (Reader.padded p).Accepts c a c' := by
  have h := hp.padded hc
  rwa [hc'.skipBlanks_eq] at h

theorem Refuses.padded (hc : c.IsTrimmed) (hp : p.Refuses c) : (padded p).Refuses c := by
  obtain ⟨l, s, hp, hl⟩ := hp
  exact ⟨l, s, by simp only [Reader.padded, hc.skipBlanks_eq, hp, Option.map_none], hl⟩

/-! ### Values with their spans -/

variable {g : α → Span → β}

theorem value_located (p : Reader α) (g : α → Span → β) (c : Cursor) :
    (located p g c).value = (p c).value.map fun v => (g v.1 (c.trimmedTo v.2), v.2) := by
  rw [located]
  rcases p c with ⟨_ | ⟨a, c'⟩, log, fits⟩ <;> rfl

theorem located_eq_some :
    (located p g c).value = some (b, c') ↔
      ∃ a, (p c).value = some (a, c') ∧ g a (c.trimmedTo c') = b := by
  simp only [value_located, Option.map_eq_some_iff, Prod.exists, Prod.mk.injEq]
  constructor
  · rintro ⟨a, _, h, hb, rfl⟩
    exact ⟨a, h, hb⟩
  · rintro ⟨a, h, hb⟩
    exact ⟨a, c', h, hb, rfl⟩

/-- A choice has the span of the alternative that was taken. -/
theorem located_orElse (p q : Reader α) (g : α → Span → β) :
    located (orElse p q) g = orElse (located p g) (located q g) := by
  funext c
  simp only [located, orElse]
  rcases p c with ⟨_ | ⟨a, c'⟩, log, fits⟩
  · rcases q c with ⟨_ | ⟨a, c'⟩, log', fits'⟩ <;> simp only [Bool.and_assoc]
  · rfl

theorem Accepts.located (hp : p.Accepts c a c') (g : α → Span → β) :
    (located p g).Accepts c (g a (c.trimmedTo c')) c' := by
  obtain ⟨l, s, hp, hl⟩ := hp
  exact ⟨l, s && (c.trimmedTo c').fits, by simp only [Reader.located, hp], hl⟩

theorem Refuses.located (hp : p.Refuses c) (g : α → Span → β) : (located p g).Refuses c := by
  obtain ⟨l, s, hp, hl⟩ := hp
  exact ⟨l, s, by simp only [Reader.located, hp], hl⟩

end Reader

end TensorLang
