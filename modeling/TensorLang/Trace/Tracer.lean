import TensorLang.Trace.Line
import TensorLang.Trace.Ring

/-!
# Tracers

A tracer writes events to an output as they come, keeps the last of them in a ring, or does both. A
session adds the counters that number events and spans.

* `Session.begin`, `Session.finish` and `Session.point` tell of a span or a point, unless the level
  of the tracer leaves its scope out; a span that is left out has number zero and its end is not
  told either.
-/

namespace TensorLang.Trace

/-- Where events go. -/
inductive Mode where
  | stream
  | ring
  | both
  deriving DecidableEq, Inhabited, Repr

namespace Mode

/-- The name of a mode. -/
def text : Mode → Bytes
  | stream => "stream".utf8
  | ring => "ring".utf8
  | both => "both".utf8

/-- The mode with exactly this name. -/
def ofName? (name : Bytes) : Option Mode := [stream, ring, both].find? fun m => m.text == name

/-- Reads the name of a mode in any case. -/
def parse (name : Bytes) : Except Bytes Mode :=
  match ofName? (Text.lower name) with
  | some m => .ok m
  | none => .error ("invalid storage mode: ".utf8 ++ Quoted.string name ++
      " (expected: stream|ring|both)".utf8)

/-- Does a tracer of this mode write? -/
def writes (m : Mode) : Bool := m != ring

/-- Does a tracer of this mode keep events? -/
def keeps (m : Mode) : Bool := m != stream

end Mode

/-- An output for lines, which counts how often it was flushed and closed and may fail to do so. -/
structure Output where
  written : Bytes := []
  flushes : Nat := 0
  closes : Nat := 0
  flushFailure : Option Bytes := none
  closeFailure : Option Bytes := none
  deriving Repr

/-- A tracer: its level, an output with its format, and a ring. Without both it tells nothing. -/
structure Tracer where
  level : Level := .off
  output : Option (Output × Format) := none
  ring : Option Ring := none
  deriving Repr

namespace Tracer

/-- The tracer that tells nothing. -/
def silent : Tracer := {}

/-- Builds a tracer. At level `off` it is the silent one, whatever the mode. -/
def create (level : Level) (mode : Bytes) (format : Format) (path : Bytes) (ringSize : Int)
    (output : Output) : Except Bytes Tracer :=
  if level == .off then .ok silent
  else
    match Mode.ofName? mode with
    | none => .error ("unknown storage mode: ".utf8 ++ Quoted.string mode)
    | some m => .ok
        { level
          output := if m.writes then some (output, format.forPath path) else none
          ring := if m.keeps then some (Ring.empty ringSize level) else none }

/-- Can the tracer tell anything? -/
def isEnabled (t : Tracer) : Bool := t.level.isOn

/-- Are events of this scope told? -/
def isActive (t : Tracer) (scope : Scope) : Bool := t.isEnabled && t.level.emits scope

/-- Hands an event to the output and to the ring. -/
def emit (t : Tracer) (e : Event) : Tracer :=
  { t with
    output := t.output.map fun (o, f) =>
      (if t.level.passes e then { o with written := o.written ++ e.line f } else o, f)
    ring := t.ring.map fun r => r.emit e }

/-- What the output has taken so far. -/
def written (t : Tracer) : Bytes := (t.output.map fun o => o.1.written).getD []

/-- What the ring keeps. -/
def snapshot (t : Tracer) : List Event := (t.ring.map Ring.snapshot).getD []

/-- Flushes the output; the failure, if there is one. -/
def flush (t : Tracer) : Tracer × Option Bytes :=
  match t.output with
  | none => (t, none)
  | some (o, f) =>
    ({ t with output := some ({ o with flushes := o.flushes + 1 }, f) }, o.flushFailure)

/-- Flushes and closes the output; what cannot be flushed is not closed. -/
def close (t : Tracer) : Tracer × Option Bytes :=
  match t.flush with
  | (t, some failure) => (t, some failure)
  | (t, none) =>
    match t.output with
    | none => (t, none)
    | some (o, f) =>
      ({ t with output := some ({ o with closes := o.closes + 1 }, f) }, o.closeFailure)

/-- The first heartbeat of a tracer that beats at the given interval, if it beats at all. -/
def firstBeat? (t : Tracer) (interval : Int) : Option Event :=
  if t.isEnabled && 0 < interval then
    some { kind := .heartbeat, scope := .driver, name := "heartbeat".utf8, detail := "#1".utf8 }
  else none

end Tracer

/-- A span that has begun. One that the level leaves out has number zero. -/
structure OpenSpan where
  id : Nat := 0
  parent : Nat := 0
  scope : Scope := .driver
  name : Bytes := []
  fields : Option (List (Bytes × Bytes)) := none
  deriving Inhabited, Repr

namespace OpenSpan

/-- Is the span left out? -/
def isInert (s : OpenSpan) : Bool := s.id == 0

/-- Adds a field for the end of the span, in place of one of the same name. -/
def withField (s : OpenSpan) (key value : Bytes) : OpenSpan :=
  if s.isInert then s
  else { s with fields := some ((s.fields.getD []).filter (fun f => f.1 != key) ++ [(key, value)]) }

end OpenSpan

/-- A tracer with the numbers of the last event and the last span, and all events told so far. -/
structure Session where
  tracer : Tracer
  lastSeq : Nat := 0
  lastSpan : Nat := 0
  told : List Event := []
  deriving Repr

namespace Session

/-- Numbers an event and hands it to the tracer. -/
def tell (s : Session) (e : Event) : Session :=
  let e := { e with seq := s.lastSeq + 1 }
  { s with tracer := s.tracer.emit e, lastSeq := s.lastSeq + 1, told := s.told ++ [e] }

/-- Begins a span under `parent`, zero for none. -/
def begin (s : Session) (scope : Scope) (name : Bytes) (parent : Nat) : Session × OpenSpan :=
  if s.tracer.isActive scope then
    let id := s.lastSpan + 1
    ({ s with lastSpan := id }.tell { kind := .spanBegin, scope, id, parent, name },
      { id, parent, scope, name })
  else (s, {})

/-- Ends a span. -/
def finish (s : Session) (span : OpenSpan) (detail : Bytes) : Session :=
  if span.isInert then s
  else
    s.tell
      { kind := .spanEnd, scope := span.scope, id := span.id, parent := span.parent
        name := span.name, detail, fields := span.fields }

/-- Tells of a point under `parent`. -/
def point (s : Session) (scope : Scope) (name detail : Bytes) (parent : Nat) : Session :=
  if s.tracer.isActive scope then s.tell { kind := .point, scope, parent, name, detail } else s

end Session

end TensorLang.Trace
