/-!
# Threads that share a state

A thread acts on a state that others change as well. It is a tree: after each of its actions it goes
on with what it saw, and between two actions anything may have happened to the state.

A crew is a state with threads that work on it. A schedule says who acts next: a thread, or, for
`none`, the outside. The crew remembers who changed the state and how.
-/

namespace TensorLang

/-- A thread: it has an answer, or it changes the state once and goes on with what it saw. -/
inductive Thread (σ α : Type) where
  | done (answer : α)
  | act (change : σ → σ) (next : σ → Thread σ α)

namespace Thread

variable {σ α β : Type}

/-- Goes on with the answer of a thread. -/
def andThen : Thread σ α → (α → Thread σ β) → Thread σ β
  | done a, k => k a
  | act change next, k => act change fun s => (next s).andThen k

instance : Monad (Thread σ) where
  pure := done
  bind := andThen

/-- Looks at the state. -/
def look (f : σ → α) : Thread σ α := act id fun s => done (f s)

/-- The answer of a thread that is done. -/
def answer? : Thread σ α → Option α
  | done a => some a
  | act _ _ => none

end Thread

/-! ### Crews -/

/-- Threads on one state, and all changes so far: who made them (`none` for the outside), and the
state before and after. -/
structure Crew (σ α : Type) where
  state : σ
  threads : List (Thread σ α)
  past : List (Option Nat × σ × σ) := []

namespace Crew

variable {σ α : Type}

/-- The state is changed by someone. -/
def changed (c : Crew σ α) (who : Option Nat) (s : σ) : Crew σ α :=
  { c with state := s, past := c.past ++ [(who, c.state, s)] }

/-- A thread acts, unless it is done. -/
def advance (c : Crew σ α) (i : Nat) : Crew σ α :=
  match c.threads[i]? with
  | some (.act change next) =>
    { c.changed (some i) (change c.state) with threads := c.threads.set i (next c.state) }
  | _ => c

/-- One move: a thread acts, or the outside does. -/
def move (outside : σ → σ) (c : Crew σ α) : Option Nat → Crew σ α
  | none => c.changed none (outside c.state)
  | some i => c.advance i

/-- Follows a schedule. -/
def run (outside : σ → σ) (c : Crew σ α) (schedule : List (Option Nat)) : Crew σ α :=
  schedule.foldl (move outside) c

/-- The answers of all threads, if all are done. -/
def answers? (c : Crew σ α) : Option (List α) := c.threads.mapM Thread.answer?

end Crew

end TensorLang
