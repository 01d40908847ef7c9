import TensorLang.Proofs.Syntax.Logs

/-!
# Conditions on places

What a reader complains about can depend on where it begins. `Reader.Triple` follows a reader with
a condition on the place before it and one on the place behind: from a place of the first kind all
complaints are good ones, also those of alternatives that are given up, and where the reader answers
it has reached a place of the second kind. There is one rule for every combinator; the conditions
and what counts as good are left open.
-/

namespace TensorLang.Reader

/-- From a place that satisfies `pre` the reader makes none but `good` complaints, and where it
answers, the place behind satisfies `post`. -/
structure Triple {α : Type} (good : Complaint → Prop) (pre : Cursor → Prop) (p : Reader α)
    (post : Cursor → Prop) : Prop where
  log : ∀ ⦃c : Cursor⦄, pre c → ∀ k ∈ (p c).log, good k
  value : ∀ ⦃c c' : Cursor⦄ ⦃a : α⦄, pre c → (p c).value = some (a, c') → post c'

variable {α β : Type} {good : Complaint → Prop} {pre mid post : Cursor → Prop} {p q : Reader α}

theorem triple_pure (a : α) : Triple good pre (pure a : Reader α) pre where
  log _ _ _ hk := absurd hk not_mem_log_pure
  value c c' a' hc h := by
    obtain ⟨-, rfl⟩ := pure_eq_some.mp h
    exact hc

theorem Triple.bind {f : α → Reader β} (hp : Triple good pre p mid)
    (hf : ∀ a, Triple good mid (f a) post) : Triple good pre (p >>= f) post where
  log c hc k hk := by
    obtain hk | ⟨a, c', hread, hk⟩ := mem_log_bind.mp hk
    · exact hp.log hc k hk
    · exact (hf a).log (hp.value hc hread) k hk
  value c c'' b hc h := by
    obtain ⟨a, c', hread, h⟩ := bind_eq_some.mp h
    exact (hf a).value (hp.value hc hread) h

theorem Triple.orElse (hp : Triple good pre p post) (hq : Triple good pre q post) :
    Triple good pre (orElse p q) post where
  log c hc k hk := by
    obtain hk | ⟨-, hk⟩ := mem_log_orElse.mp hk
    · exact hp.log hc k hk
    · exact hq.log hc k hk
  value c c' a hc h := by
    obtain h | ⟨-, h⟩ := orElse_eq_some.mp h
    · exact hp.value hc h
    · exact hq.value hc h

theorem Triple.optional (hp : Triple good pre p post) (hpre : ∀ c, pre c → post c) :
    Triple good pre (optional p) post where
  log c hc k hk := by
    rw [log_optional] at hk
    exact hp.log hc k hk
  value c c' o hc h := by
    obtain ⟨a, -, h⟩ | ⟨-, rfl, -⟩ := optional_eq_some.mp h
    · exact hp.value hc h
    · exact hpre _ hc

theorem Triple.many (hp : Triple good pre p pre) : Triple good pre (many p) pre where
  log c hc k hk := by
    induction c, hk using log_many_induction with
    | here c _ hk => exact hp.log hc k hk
    | round c _ a c' hread _ ih => exact ih (hp.value hc hread)
  value c c'' as hc h := by
    induction c, as, h using many_induction with
    | stop => exact hc
    | round c a c' as _ hread _ ih => exact ih (hp.value hc hread)

theorem Triple.separated {sep : Reader β} (hp : Triple good pre p post)
    (hsep : Triple good post sep pre) (hpre : ∀ c, pre c → post c) :
    Triple good pre (separated p sep) post := by
  refine (hp.optional hpre).bind fun o => ?_
  cases o with
  | none => exact triple_pure _
  | some a => exact (Triple.many (hsep.bind fun _ => hp)).bind fun as => triple_pure _

/-- Blanks on both sides of a reading, if the conditions do not depend on them. -/
theorem Triple.padded (hp : Triple good pre p post) (hpre : ∀ c, pre c → pre c.skipBlanks)
    (hpost : ∀ c, post c → post c.skipBlanks) : Triple good pre (padded p) post where
  log c hc k hk := hp.log (hpre c hc) k hk
  value c c'' a hc h := by
    rw [value_padded] at h
    obtain ⟨⟨a, c'⟩, hread, heq⟩ := Option.map_eq_some_iff.mp h
    obtain ⟨rfl, rfl⟩ := Prod.mk.inj heq
    exact hpost c' (hp.value (hpre c hc) hread)

theorem Triple.located (hp : Triple good pre p post) (g : α → Span → β) :
    Triple good pre (located p g) post where
  log c hc k hk := hp.log hc k (log_located p g c ▸ hk)
  value c c' b hc h := by
    obtain ⟨a, hread, -⟩ := located_eq_some.mp h
    exact hp.value hc hread

end TensorLang.Reader
