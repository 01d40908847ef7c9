import TensorLang.Trace.Event

/-!
# Rings

A ring keeps the most recent events in a fixed number of slots. Once all slots are taken, each new
event replaces the oldest one.

* `Ring.snapshot` lists what is kept, oldest first.
-/

namespace TensorLang.Trace

/-- The most recent events. `total` counts all events ever kept, so that `total % size` is the slot
of the next one. -/
structure Ring where
  size : Nat
  level : Level
  slots : List Event := []
  total : Nat := 0
  deriving Repr

namespace Ring

/-- The number of slots if none is asked for. -/
def standardSize : Nat := 4096

/-- An empty ring; without a positive number of slots it has the standard one. -/
def empty (size : Int) (level : Level) : Ring :=
  { size := if size ≤ 0 then standardSize else size.toNat, level }

/-- Stores an event in the next slot. -/
def push (r : Ring) (e : Event) : Ring :=
  { r with
    slots := if r.total < r.size then r.slots ++ [e] else r.slots.set (r.total % r.size) e
    total := r.total + 1 }

/-- Takes an event if it passes the level of the ring. -/
def emit (r : Ring) (e : Event) : Ring := if r.level.passes e then r.push e else r

/-- The events that are kept, oldest first. -/
def snapshot (r : Ring) : List Event :=
  if r.total ≤ r.size then r.slots
  else r.slots.drop (r.total % r.size) ++ r.slots.take (r.total % r.size)

end Ring

end TensorLang.Trace
