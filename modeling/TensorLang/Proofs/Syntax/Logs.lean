import TensorLang.Proofs.Syntax.Tokens

/-!
# What readers complain about

The log of every combinator, from those of its parts: a complaint of the whole is a complaint of one
of the parts, made at a place that the parts before it reached. The laws for failure belong to this,
since a part of a sequence is reached if those before it answer something, and an alternative if
those before it answer nothing.
-/

namespace TensorLang.Reader

variable {α β : Type} {p q : Reader α} {f : α → Reader β} {c : Cursor} {k : Complaint}

/-! ### Sequences and choices -/

theorem not_mem_log_pure {a : α} : k ∉ ((pure a : Reader α) c).log := List.not_mem_nil

theorem mem_log_bind :
    k ∈ ((p >>= f) c).log ↔
      k ∈ (p c).log ∨ ∃ a c', (p c).value = some (a, c') ∧ k ∈ (f a c').log := by
  change k ∈ (Reader.bind p f c).log ↔ _
  rw [Reader.bind]
  rcases p c with ⟨_ | ⟨a, c'⟩, log⟩ <;> simp

theorem bind_eq_none :
    ((p >>= f) c).value = none ↔
      (p c).value = none ∨ ∃ a c', (p c).value = some (a, c') ∧ (f a c').value = none := by
  change (Reader.bind p f c).value = none ↔ _
  rw [Reader.bind]
  rcases p c with ⟨_ | ⟨a, c'⟩, log⟩ <;> simp

theorem mem_log_orElse :
    k ∈ (orElse p q c).log ↔ k ∈ (p c).log ∨ (p c).value = none ∧ k ∈ (q c).log := by
  rw [orElse]
  rcases p c with ⟨_ | ⟨a, c'⟩, log⟩ <;> simp

theorem orElse_eq_none :
    (orElse p q c).value = none ↔ (p c).value = none ∧ (q c).value = none := by
  rw [orElse]
  rcases p c with ⟨_ | ⟨a, c'⟩, log⟩ <;> simp

theorem log_optional (p : Reader α) (c : Cursor) : (optional p c).log = (p c).log := by
  rw [optional]
  rcases p c with ⟨_ | ⟨a, c'⟩, log⟩ <;> rfl

theorem optional_ne_none (p : Reader α) (c : Cursor) : (optional p c).value ≠ none := by
  rw [optional]
  rcases p c with ⟨_ | ⟨a, c'⟩, log⟩ <;> simp

/-! ### Repetitions -/

theorem mem_log_many :
    k ∈ (many p c).log ↔
      k ∈ (p c).log ∨ ∃ a c', (p c).value = some (a, c') ∧ c'.rest.length < c.rest.length ∧
        k ∈ (many p c').log := by
  rw [many]
  rcases p c with ⟨_ | ⟨a, c'⟩, log⟩
  · simp
  · dsimp only
    split_ifs with hlt <;> simp [hlt]

/-- Induction on the rounds in front of a complaint of a repetition. -/
theorem log_many_induction {motive : (c : Cursor) → k ∈ (many p c).log → Prop}
    (here : ∀ c h, k ∈ (p c).log → motive c h)
    (round : ∀ c h a c', (p c).value = some (a, c') →
      ∀ hmore : k ∈ (many p c').log, motive c' hmore → motive c h)
    (c : Cursor) (h : k ∈ (many p c).log) : motive c h := by
  -- by induction on the text ahead, which every round shortens
  induction hn : c.rest.length using Nat.strongRecOn generalizing c with
  | ind n ih =>
    obtain hhere | ⟨a, c', hread, hlt, hmore⟩ := mem_log_many.mp h
    · exact here c h hhere
    · exact round c h a c' hread hmore (ih _ (hn ▸ hlt) c' hmore rfl)

theorem value_many (p : Reader α) (c : Cursor) :
    (many p c).value =
      match (p c).value with
      | none => some ([], c)
      | some (a, c') =>
        if c'.rest.length < c.rest.length then
          (many p c').value.map fun v => (a :: v.1, v.2)
        else some ([], c) := by
  rw [many]
  rcases p c with ⟨_ | ⟨a, c'⟩, log⟩
  · rfl
  · dsimp only
    split_ifs <;> rfl

/-- A repetition always answers something. -/
theorem many_ne_none (p : Reader α) (c : Cursor) : (many p c).value ≠ none := by
  fun_induction many p c with
  | case1 => simp
  | case2 c a c' log fits hread hlt more ih => simpa [more] using ih
  | case3 => simp

/-! ### Blanks, spans and literals -/

theorem log_padded (hc : c.IsTrimmed) : (padded p c).log = (p c).log := by
  rw [padded, hc.skipBlanks_eq]

theorem value_padded (p : Reader α) (c : Cursor) :
    (padded p c).value = (p c.skipBlanks).value.map fun v => (v.1, v.2.skipBlanks) := rfl

theorem log_located (p : Reader α) (g : α → Span → β) (c : Cursor) :
    (located p g c).log = (p c).log := by
  rw [located]
  rcases p c with ⟨_ | ⟨a, c'⟩, log⟩ <;> rfl

theorem located_eq_none {g : α → Span → β} :
    (located p g c).value = none ↔ (p c).value = none := by
  rw [value_located, Option.map_eq_none_iff]

theorem mem_log_convert {g : α → Except LiteralProblem β} :
    k ∈ (convert p g c).log ↔
      k ∈ (p c).log ∨ ∃ a c' problem, (p c).value = some (a, c') ∧ g a = .error problem ∧
        k = .rejected (c.spanTo c') problem := by
  rw [convert]
  rcases p c with ⟨_ | ⟨a, c'⟩, log⟩
  · simp
  · cases hg : g a <;> simp [hg]

theorem expected_mem_log_convert {g : α → Except LiteralProblem β} {pos : Nat} {label : Label} :
    .expected pos label ∈ (convert p g c).log ↔ .expected pos label ∈ (p c).log := by
  simp [mem_log_convert]

theorem convert_eq_none {g : α → Except LiteralProblem β} :
    (convert p g c).value = none ↔
      (p c).value = none ∨ ∃ a c' problem, (p c).value = some (a, c') ∧ g a = .error problem := by
  rw [convert]
  rcases p c with ⟨_ | ⟨a, c'⟩, log⟩
  · simp
  · cases hg : g a <;> simp [hg]

theorem convert_of_ok {g : α → Except LiteralProblem β} {a : α} {b : β} {c' : Cursor}
    (hread : (p c).value = some (a, c')) (hg : g a = .ok b) :
    (convert p g c).value = some (b, c') := by
  rw [convert]
  generalize p c = reply at hread ⊢
  obtain ⟨value, log, fits⟩ := reply
  obtain rfl : value = some (a, c') := hread
  simp only [hg]

/-! ### Tokens -/

theorem mem_log_exactly {text : Bytes} :
    k ∈ (exactly text c).log ↔
      (exactly text c).value = none ∧ k = .expected c.pos (.token text) := by
  rw [exactly]
  split_ifs <;> simp

theorem exactly_eq_none {text : Bytes} :
    (exactly text c).value = none ↔ ∀ rest, c.rest ≠ text ++ rest := by
  rw [← not_exists, ← Bytes.startsWith_iff, exactly]
  split_ifs with h <;> simp [h]

theorem mem_log_run {label : Label} {first rest : UInt8 → Bool} :
    k ∈ (run label first rest c).log ↔
      (run label first rest c).value = none ∧ k = .expected c.pos label := by
  rw [run]
  split
  · split_ifs <;> simp
  · simp

theorem run_eq_none {label : Label} {first rest : UInt8 → Bool} :
    (run label first rest c).value = none ↔ c.Stops first := by
  rw [run, Cursor.Stops]
  cases c.rest with
  | nil => simp
  | cons b bs => cases h : first b <;> simp [h]

/-- A run goes on as long as it can. -/
theorem stops_of_run {label : Label} {first rest : UInt8 → Bool} {w : Bytes} {c' : Cursor}
    (h : (run label first rest c).value = some (w, c')) : c'.Stops rest := by
  rw [run] at h
  split at h
  · next b bs hrest =>
    split_ifs at h
    simp only [Option.some.injEq, Prod.mk.injEq] at h
    obtain ⟨-, rfl⟩ := h
    have hdrop : (c.advance (b :: bs.takeWhile rest).length).rest = bs.dropWhile rest := by
      have hleft : (bs.takeWhile rest ++ bs.dropWhile rest).drop (bs.takeWhile rest).length =
          bs.dropWhile rest := List.drop_left
      rw [List.takeWhile_append_dropWhile] at hleft
      simpa only [Cursor.advance, hrest, List.length_cons, List.drop_succ_cons] using hleft
    intro x hx
    rw [hdrop] at hx
    have hhead := List.head?_dropWhile_not rest bs
    rwa [hx] at hhead
  · cases h

theorem mem_log_atEnd :
    k ∈ (atEnd c).log ↔ (atEnd c).value = none ∧ k = .expected c.pos .endOfInput := by
  rw [atEnd]
  split <;> simp

theorem atEnd_eq_none : (atEnd c).value = none ↔ c.rest ≠ [] := by
  rw [atEnd]
  split <;> simp [*]

end TensorLang.Reader
