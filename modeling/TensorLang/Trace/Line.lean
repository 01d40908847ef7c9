import TensorLang.Json.Value
import TensorLang.Source.Path
import TensorLang.Time.Instant
import TensorLang.Trace.Event

/-!
# Trace lines

An event is written as one line, either for people to read or as a JSON object. Fields are written
in the order of their names.
-/

namespace TensorLang.Trace

/-- How events are written. -/
inductive Format where
  /-- Whatever suits the output; plain text if nothing is known about it. -/
  | auto
  | text
  /-- One JSON object a line. -/
  | json
  deriving DecidableEq, Inhabited, Repr

/-- The format with the given number. -/
def Format.ofNumber (n : Nat) : Format := if n == 0 then .auto else if n == 2 then .json else .text

/-- The format for an output with the given path. -/
def Format.forPath (f : Format) (path : Bytes) : Format :=
  match f with
  | .auto =>
    if Path.ext path == ".json".utf8 || Path.ext path == ".ndjson".utf8 then .json else .text
  | f => f

namespace Event

/-- The fields of an event in the order of their names. -/
def sortedFields (e : Event) : List (Bytes × Bytes) :=
  (e.fields.getD []).mergeSort fun a b => Bytes.le a.1 b.1

/-- A line for people: number, mark, scope and name, then detail, duration and fields. -/
def plainLine (e : Event) : Bytes :=
  "#".utf8 ++ Bytes.padRight 5 (Decimal.ofNat e.seq) ++ " ".utf8 ++
    (if 0 < e.parent then "  ".utf8 else []) ++ e.kind.mark ++ " ".utf8 ++ e.scope.text ++
    ":".utf8 ++ e.name ++
    (if e.detail.isEmpty then [] else " (".utf8 ++ e.detail ++ ")".utf8) ++
    (if e.kind == .spanEnd then
      " [".utf8 ++ Duration.text (Duration.roundTo 1000 e.elapsed) ++ "]".utf8 else []) ++
    (match e.sortedFields with
      | [] => []
      | fields => " \x7b".utf8 ++
          Bytes.joinWith ", ".utf8 (fields.map fun f => f.1 ++ "=".utf8 ++ f.2) ++ "\x7d".utf8) ++
    [10]

/-- The event as a JSON object; empty parts are left out. -/
def json (e : Event) : Json :=
  let given (key : String) (isGiven : Bool) (value : Json) : List (String × Json) :=
    if isGiven then [(key, value)] else []
  Json.record
    ([("time", .string (Instant.text e.time)), ("seq", .nat e.seq), ("kind", .string e.kind.text),
      ("scope", .string e.scope.text)] ++
      given "span_id" (0 < e.id) (.nat e.id) ++ given "parent_id" (0 < e.parent) (.nat e.parent) ++
      [("name", .string e.name)] ++ given "detail" (!e.detail.isEmpty) (.string e.detail) ++
      given "elapsed_us" (Duration.micros e.elapsed != 0) (.int (Duration.micros e.elapsed)) ++
      given "fields" (!e.sortedFields.isEmpty)
        (.object (e.sortedFields.map fun f => (f.1, .string f.2))))

/-- One line for an event. -/
def line (e : Event) (format : Format) : Bytes :=
  match format with
  | .json => e.json.compact ++ [10]
  | _ => e.plainLine

end Event

end TensorLang.Trace
