import TensorLang.Text.LetterCase
import TensorLang.Text.Quoted

/-!
# Trace events

What a run tells about its progress: spans of work that begin and end, single points, and
heartbeats. A level decides by the scope of an event whether it is told at all.
-/

namespace TensorLang.Trace

/-- How much is told. -/
inductive Level where
  | off
  /-- Only what a crash needs: nothing on the regular path. -/
  | error
  /-- Commands and passes. -/
  | phase
  /-- Files too. -/
  | detail
  /-- Everything. -/
  | debug
  /-- A number that names no level. -/
  | other (number : Nat)
  deriving DecidableEq, Inhabited, Repr

/-- What an event is about, from coarse to fine. -/
inductive Scope where
  /-- A whole command. -/
  | driver
  /-- One pass over one file. -/
  | pass
  /-- All passes over one file. -/
  | file
  /-- One decision of the checker. -/
  | node
  /-- A number that names no scope. -/
  | other (number : Nat)
  deriving DecidableEq, Inhabited, Repr

/-- What happened. -/
inductive Kind where
  | spanBegin
  | spanEnd
  | point
  | heartbeat
  /-- A number that names no kind. -/
  | other (number : Nat)
  deriving DecidableEq, Inhabited, Repr

namespace Level

/-- The names of the levels by number. -/
def names : List String := ["off", "error", "phase", "detail", "debug"]

/-- The level with the given number. -/
def ofNumber : Nat → Level
  | 0 => off
  | 1 => error
  | 2 => phase
  | 3 => detail
  | 4 => debug
  | n => other n

/-- The number of a level. -/
def number : Level → Nat
  | off => 0
  | error => 1
  | phase => 2
  | detail => 3
  | debug => 4
  | other n => n

/-- The name of a level. -/
def text (l : Level) : Bytes := (names[l.number]?.getD "unknown").utf8

/-- Reads the name of a level in any case. -/
def parse (name : Bytes) : Except Bytes Level :=
  match names.findIdx? fun known => Text.equalFold name known.utf8 with
  | some n => .ok (ofNumber n)
  | none => .error ("invalid trace level: ".utf8 ++ Quoted.string name ++ " (expected: ".utf8 ++
      Bytes.joinWith "|".utf8 (names.map String.utf8) ++ ")".utf8)

/-- Is anything told at all? -/
def isOn (l : Level) : Bool := 0 < l.number

end Level

namespace Scope

/-- The scope with the given number. -/
def ofNumber : Nat → Scope
  | 1 => driver
  | 2 => pass
  | 3 => file
  | 4 => node
  | n => other n

/-- The number of a scope; coarser scopes have smaller numbers. -/
def number : Scope → Nat
  | driver => 1
  | pass => 2
  | file => 3
  | node => 4
  | other n => n

/-- The name of a scope. -/
def text : Scope → Bytes
  | driver => "driver".utf8
  | pass => "pass".utf8
  | file => "file".utf8
  | node => "node".utf8
  | other _ => "unknown".utf8

end Scope

namespace Kind

/-- The kind with the given number. -/
def ofNumber : Nat → Kind
  | 1 => spanBegin
  | 2 => spanEnd
  | 3 => point
  | 4 => heartbeat
  | n => other n

/-- The name of a kind. -/
def text : Kind → Bytes
  | spanBegin => "begin".utf8
  | spanEnd => "end".utf8
  | point => "point".utf8
  | heartbeat => "heartbeat".utf8
  | other _ => "unknown".utf8

/-- The sign of a kind in the text format. -/
def mark : Kind → Bytes
  | spanBegin => "→".utf8
  | spanEnd => "←".utf8
  | point => "•".utf8
  | heartbeat => "♡".utf8
  | other _ => []

end Kind

/-- Are events of this scope told at this level? -/
def Level.emits (l : Level) (s : Scope) : Bool :=
  match l with
  | .phase => s.number ≤ 2
  | .detail => s.number ≤ 3
  | .debug => true
  | _ => false

/-- One event. Times are nanoseconds, and numbers count from the beginning of the process. -/
structure Event where
  /-- Nanoseconds since the beginning of 1970. -/
  time : Int := 0
  seq : Nat := 0
  kind : Kind
  scope : Scope
  /-- The span that begins or ends; zero for other events. -/
  id : Nat := 0
  /-- The span around the event, or zero. -/
  parent : Nat := 0
  name : Bytes
  detail : Bytes := []
  /-- How long a span took, in nanoseconds. -/
  elapsed : Int := 0
  fields : Option (List (Bytes × Bytes)) := none
  deriving DecidableEq, Inhabited, Repr

/-- Does an event pass a filter at this level? Heartbeats always do. -/
def Level.passes (l : Level) (e : Event) : Bool := e.kind == .heartbeat || l.emits e.scope

end TensorLang.Trace
