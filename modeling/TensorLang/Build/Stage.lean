import TensorLang.Text.Bytes

/-!
# Stages of a build

A file goes through the stages in order, and its status tells where it is. `Stage.sixths` counts the
stages; the share of work that is done is a fraction of their number plus one, because entering the
last stage does not finish it.
-/

namespace TensorLang.Build

/-- What is done with a file. -/
inductive Stage where
  | parse
  | check
  | generate
  /-- Lays out and checks the emitted text. -/
  | print
  /-- Stores the emitted text. -/
  | write
  /-- A name that is no stage. -/
  | other (name : Bytes)
  deriving DecidableEq, Inhabited, Repr

namespace Stage

/-- All stages in order. -/
def all : List Stage := [parse, check, generate, print, write]

/-- The name of a stage. -/
def name : Stage → Bytes
  | parse => "parse".utf8
  | check => "check".utf8
  | generate => "generate".utf8
  | print => "print".utf8
  | write => "write".utf8
  | other name => name

/-- The stage with the given name. -/
def ofName (name : Bytes) : Stage := (all.find? fun s => s.name == name).getD (other name)

/-- How many sixths of a file's work lie behind it when it has entered the stage. -/
def sixths : Stage → Nat
  | parse => 1
  | check => 2
  | generate => 3
  | print => 4
  | write => 5
  | other _ => 0

end Stage

/-- How a file fares. -/
inductive Status where
  | queued
  | working
  | done
  | error
  /-- A name that is no status. -/
  | other (name : Bytes)
  deriving DecidableEq, Inhabited, Repr

namespace Status

/-- The name of a status. -/
def name : Status → Bytes
  | queued => "queued".utf8
  | working => "working".utf8
  | done => "done".utf8
  | error => "error".utf8
  | other name => name

/-- The status with the given name. -/
def ofName (name : Bytes) : Status :=
  ([queued, working, done, error].find? fun s => s.name == name).getD (other name)

/-- Does nothing more happen to the file? -/
def isFinished (s : Status) : Bool := s == done || s == error

end Status

/-- What a build tells about a file, or about itself if no file is named. -/
structure Event where
  file : Bytes
  stage : Stage
  status : Status
  failure : Option Bytes := none
  deriving DecidableEq, Inhabited, Repr

/-- Durations by stage, summed over all files. -/
structure Timings where
  entries : List (Stage × Int) := []
  deriving DecidableEq, Inhabited, Repr

namespace Timings

/-- The duration of a stage. -/
def duration (t : Timings) (s : Stage) : Int := (t.entries.lookup s).getD 0

/-- Was the stage recorded? -/
def has (t : Timings) (s : Stage) : Bool := (t.entries.lookup s).isSome

/-- Adds to the duration of a stage. -/
def add (t : Timings) (s : Stage) (d : Int) : Timings :=
  ⟨(s, t.duration s + d) :: t.entries.filter fun e => e.1 != s⟩

/-- The sum of all durations. -/
def total (t : Timings) : Int := (t.entries.map Prod.snd).foldr (· + ·) 0

end Timings

end TensorLang.Build
