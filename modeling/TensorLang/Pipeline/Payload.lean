import TensorLang.Diagnostic.Bag
import TensorLang.Emit.Target
import TensorLang.Storage.Unpack

/-!
# Stored results

The result of a run can be stored: its diagnostics and its output, together with the hashes of what
it was made from. Diagnostics are stored without the number of their file and are bound to a file
when they are taken out again.

* `Payload.encode` and `Payload.decode?` are the stored form.
* `Payload.ofResult` and `Payload.diagnosticsIn` go to and fro between a bag and its stored form.
-/

namespace TensorLang

/-- A stored note. -/
structure StoredNote where
  start : Nat
  stop : Nat
  message : Bytes
  deriving DecidableEq, Inhabited, Repr

/-- A stored diagnostic. -/
structure StoredDiagnostic where
  severity : Nat
  code : Nat
  message : Bytes
  label : Bytes
  start : Nat
  stop : Nat
  /-- The notes; nothing stands for none at all. -/
  notes : Option (List StoredNote) := none
  deriving DecidableEq, Inhabited, Repr

/-- A stored result. -/
structure Payload where
  schema : Nat := 0
  contentHash : Bytes := List.replicate 32 0
  targetHash : Bytes := List.replicate 32 0
  /-- The diagnostics; nothing stands for none at all. -/
  diagnostics : Option (List StoredDiagnostic) := none
  output : Option Bytes := none
  deriving DecidableEq, Inhabited, Repr

/-- A list as it is stored: nothing if it is empty. -/
def storedList {α : Type} (xs : List α) : Option (List α) := if xs.isEmpty then none else some xs

namespace StoredDiagnostic

/-- What is stored of a diagnostic; numbers are cut to the width they have in the stored form. -/
def ofDiagnostic (d : Diagnostic) : StoredDiagnostic where
  severity := d.severity.number % UInt8.size
  code := d.code.number % UInt16.size
  message := d.message
  label := d.label
  start := d.primary.start % UInt32.size
  stop := d.primary.stop % UInt32.size
  notes := storedList (d.notes.map fun n =>
    ⟨n.span.start % UInt32.size, n.span.stop % UInt32.size, n.message⟩)

/-- The diagnostic about a file. -/
def toDiagnostic (file : Nat) (s : StoredDiagnostic) : Diagnostic where
  severity := Severity.ofNumber s.severity
  code := ⟨s.code⟩
  message := s.message
  label := s.label
  primary := ⟨file, s.start, s.stop⟩
  notes := (s.notes.getD []).map fun n => ⟨⟨file, n.start, n.stop⟩, n.message⟩

end StoredDiagnostic

namespace Payload

open Storage (Pack Slots Unpack)

/-- The version of the stored form. -/
def currentSchema : Nat := 2

/-! ### Writing -/

/-- The stored form of a list, or of nothing. -/
def packList {α : Type} (f : α → Pack) : Option (List α) → Pack
  | none => .nil
  | some xs => .array (xs.map f)

/-- The stored form of a note. -/
def packNote (n : StoredNote) : Pack :=
  .record [("Start", .word 4 n.start), ("End", .word 4 n.stop), ("Msg", .text n.message)]

/-- The stored form of a diagnostic. -/
def packDiagnostic (d : StoredDiagnostic) : Pack :=
  .record [("Severity", .word 1 d.severity), ("Code", .word 2 d.code), ("Message", .text d.message),
    ("Label", .text d.label), ("Start", .word 4 d.start), ("End", .word 4 d.stop),
    ("Notes", packList packNote d.notes)]

/-- The stored form of a result. -/
def pack (p : Payload) : Pack :=
  .record [("Schema", .word 2 p.schema), ("ContentHash", .binary p.contentHash),
    ("TargetHash", .binary p.targetHash), ("Diagnostics", packList packDiagnostic p.diagnostics),
    ("Output", match p.output with
      | some text => .binary text
      | none => .nil)]

/-- The bytes of a result. -/
def encode (p : Payload) : Bytes := p.pack.encode

/-! ### Reading -/

/-- A diagnostic that is being read. -/
structure DiagnosticDraft where
  value : StoredDiagnostic := default
  notes : Option (Slots StoredNote) := none
  deriving Inhabited

/-- The diagnostic that was read. -/
def DiagnosticDraft.finish (d : DiagnosticDraft) : StoredDiagnostic :=
  { d.value with notes := d.notes.map Slots.toList }

/-- A result that is being read. -/
structure Draft where
  value : Payload := {}
  diagnostics : Option (Slots DiagnosticDraft) := none
  deriving Inhabited

/-- The result that was read. -/
def Draft.finish (d : Draft) : Payload :=
  { d.value with
    diagnostics := d.diagnostics.map fun s => s.toList.map DiagnosticDraft.finish }

/-- Reads a note. -/
def unpackNote : StoredNote → Unpack StoredNote :=
  Unpack.record
    [("Start", fun n => return { n with start := ← Unpack.word 4 }),
      ("End", fun n => return { n with stop := ← Unpack.word 4 }),
      ("Msg", fun n => return { n with message := ← Unpack.text })]
    default

/-- Changes the part of a draft that is no list. -/
def DiagnosticDraft.onValue (change : StoredDiagnostic → Unpack StoredDiagnostic)
    (d : DiagnosticDraft) : Unpack DiagnosticDraft :=
  return { d with value := ← change d.value }

/-- Reads a diagnostic. -/
def unpackDiagnostic : DiagnosticDraft → Unpack DiagnosticDraft :=
  Unpack.record
    [("Severity", DiagnosticDraft.onValue fun v => return { v with severity := ← Unpack.word 1 }),
      ("Code", DiagnosticDraft.onValue fun v => return { v with code := ← Unpack.word 2 }),
      ("Message", DiagnosticDraft.onValue fun v => return { v with message := ← Unpack.text }),
      ("Label", DiagnosticDraft.onValue fun v => return { v with label := ← Unpack.text }),
      ("Start", DiagnosticDraft.onValue fun v => return { v with start := ← Unpack.word 4 }),
      ("End", DiagnosticDraft.onValue fun v => return { v with stop := ← Unpack.word 4 }),
      ("Notes", fun d => return { d with notes := ← Unpack.slots unpackNote default d.notes })]
    {}

/-- Changes the part of a draft that is no list. -/
def Draft.onValue (change : Payload → Unpack Payload) (d : Draft) : Unpack Draft :=
  return { d with value := ← change d.value }

/-- Reads a result. -/
def unpack : Draft → Unpack Draft :=
  Unpack.record
    [("Schema", Draft.onValue fun v => return { v with schema := ← Unpack.word 2 }),
      ("ContentHash", Draft.onValue fun v =>
        return { v with contentHash := ← Unpack.overlay v.contentHash }),
      ("TargetHash", Draft.onValue fun v =>
        return { v with targetHash := ← Unpack.overlay v.targetHash }),
      ("Diagnostics", fun d =>
        return { d with diagnostics := ← Unpack.slots unpackDiagnostic {} d.diagnostics }),
      ("Output", Draft.onValue fun v => return { v with output := ← Unpack.binary })]
    {}

/-- Reads the bytes of a result. -/
def decode? (bytes : Bytes) : Option Payload := ((unpack {}).run? bytes).map Draft.finish

/-- What is stored of a bag and an output. -/
def ofResult (contentHash targetHash : Bytes) (bag : Bag) (output : Option Bytes) : Payload :=
  ⟨currentSchema, contentHash, targetHash,
    storedList (bag.items.map StoredDiagnostic.ofDiagnostic), output⟩

/-- Was the result stored in this form, for this content and this target? -/
def isFor (p : Payload) (contentHash targetHash : Bytes) : Bool :=
  p.schema == currentSchema && p.contentHash == contentHash && p.targetHash == targetHash

/-- The stored diagnostics as diagnostics about a file. -/
def diagnosticsIn (p : Payload) (file : Nat) : List Diagnostic :=
  (p.diagnostics.getD []).map (StoredDiagnostic.toDiagnostic file)

end Payload

end TensorLang
