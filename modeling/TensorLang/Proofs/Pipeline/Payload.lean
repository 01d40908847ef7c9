import TensorLang.Pipeline.Payload
import TensorLang.Proofs.Storage.Unpack

/-!
# Stored results are read again

`Payload.decode?_encode`: a result whose numbers fit their widths and whose texts fit a length of 32
bits is read as it was written.
-/

namespace TensorLang

open Storage (Pack Slots Unpack)
open Storage.Unpack (Reads ReadsFields)

/-! ### What fits -/

/-- Notes whose numbers and text fit the stored form. -/
structure StoredNote.Fits (n : StoredNote) : Prop where
  start : n.start < UInt32.size
  stop : n.stop < UInt32.size
  message : n.message.length < UInt32.size

/-- Diagnostics whose numbers and texts fit the stored form. -/
structure StoredDiagnostic.Fits (d : StoredDiagnostic) : Prop where
  severity : d.severity < UInt8.size
  code : d.code < UInt16.size
  message : d.message.length < UInt32.size
  label : d.label.length < UInt32.size
  start : d.start < UInt32.size
  stop : d.stop < UInt32.size
  notes : ∀ notes ∈ d.notes, notes.length < UInt32.size ∧ ∀ n ∈ notes, n.Fits

/-- Results whose numbers and texts fit the stored form. -/
structure Payload.Fits (p : Payload) : Prop where
  schema : p.schema < UInt16.size
  contentHash : p.contentHash.length = 32
  targetHash : p.targetHash.length = 32
  diagnostics : ∀ ds ∈ p.diagnostics, ds.length < UInt32.size ∧ ∀ d ∈ ds, d.Fits
  output : ∀ text ∈ p.output, text.length < UInt32.size

namespace Payload

/-! ### Reading -/

/-- A list that was read once. -/
private def drafts {α β : Type} (draft : α → β) (xs : Option (List α)) : Option (Slots β) :=
  xs.map fun xs => ⟨xs.map draft, xs.length⟩

private theorem toList_drafts {α β : Type} (draft : α → β) (xs : Option (List α)) :
    (drafts draft xs).map Slots.toList = xs.map (List.map draft) := by
  cases xs with
  | none => rfl
  | some xs => simp [drafts, Slots.toList, List.take_of_length_le]

private theorem reads_list {α β : Type} {item : β → Unpack β} {empty : β} {pack : α → Pack}
    {draft : α → β} {xs : Option (List α)}
    (h : ∀ list ∈ xs, list.length < UInt32.size ∧
      ∀ x ∈ list, Reads (item empty) (pack x).encode (draft x)) :
    Reads (Unpack.slots item empty none) (packList pack xs).encode (drafts draft xs) := by
  cases xs with
  | none => exact Reads.slots_nil
  | some xs =>
    obtain ⟨hcount, hitems⟩ := h xs rfl
    exact Reads.slots hcount hitems

theorem reads_note {n : StoredNote} (h : n.Fits) :
    Reads (unpackNote default) (packNote n).encode n := by
  refine Reads.record (by decide) (by decide) (by decide) ?_
  exact .cons ((Reads.word (by decide) h.start).map _) <|
    .cons ((Reads.word (by decide) h.stop).map _) <|
    .cons ((Reads.text h.message).map _) (.nil _)

/-- The diagnostic as it stands when it has been read. -/
private def draftDiagnostic (d : StoredDiagnostic) : DiagnosticDraft :=
  ⟨{ d with notes := none }, drafts id d.notes⟩

theorem reads_diagnostic {d : StoredDiagnostic} (h : d.Fits) :
    Reads (unpackDiagnostic {}) (packDiagnostic d).encode (draftDiagnostic d) := by
  have hnotes : Reads (Unpack.slots unpackNote default none) (packList packNote d.notes).encode
      (drafts id d.notes) := by
    refine reads_list fun notes hmem => ?_
    obtain ⟨hcount, hfits⟩ := h.notes notes hmem
    exact ⟨hcount, fun n hn => reads_note (hfits n hn)⟩
  refine Reads.record (by decide) (by decide) (by decide) ?_
  -- each field is read into what the fields before it left
  exact .cons (((Reads.word (by decide) h.severity).map _).map _) <|
    .cons (((Reads.word (by decide) h.code).map _).map _) <|
    .cons (((Reads.text h.message).map _).map _) <|
    .cons (((Reads.text h.label).map _).map _) <|
    .cons (((Reads.word (by decide) h.start).map _).map _) <|
    .cons (((Reads.word (by decide) h.stop).map _).map _) <|
    .cons (hnotes.map _) (.nil _)

/-- The result as it stands when it has been read. -/
private def draft (p : Payload) : Draft :=
  ⟨{ p with diagnostics := none }, drafts draftDiagnostic p.diagnostics⟩

theorem reads_payload {p : Payload} (h : p.Fits) : Reads (unpack {}) p.encode (draft p) := by
  have hdiagnostics : Reads (Unpack.slots unpackDiagnostic {} none)
      (packList packDiagnostic p.diagnostics).encode (drafts draftDiagnostic p.diagnostics) := by
    refine reads_list fun ds hmem => ?_
    obtain ⟨hcount, hfits⟩ := h.diagnostics ds hmem
    exact ⟨hcount, fun d hd => reads_diagnostic (hfits d hd)⟩
  have hhash {hash : Bytes} (hlength : hash.length = 32) :
      Reads (Unpack.overlay (List.replicate 32 0)) (Pack.encode (.binary hash)) hash := by
    refine Reads.overlay (by rw [hlength, List.length_replicate]) ?_
    rw [hlength]
    decide
  refine Reads.record (by decide) (by decide) (by decide) ?_
  refine .cons (((Reads.word (by decide) h.schema).map _).map _) <|
    .cons (((hhash h.contentHash).map _).map _) <|
    .cons (((hhash h.targetHash).map _).map _) <|
    .cons (hdiagnostics.map _) <|
    .cons ((Reads.map _ ?_).map _) (.nil _)
  have hfits := h.output
  split
  · rename_i text houtput
    rw [houtput]
    exact Reads.binary (hfits text houtput)
  · rename_i houtput
    rw [houtput]
    exact Reads.binary_nil

private theorem finish_draftDiagnostic (d : StoredDiagnostic) : (draftDiagnostic d).finish = d := by
  rw [draftDiagnostic, DiagnosticDraft.finish, toList_drafts]
  simp

private theorem finish_draft (p : Payload) : (draft p).finish = p := by
  have hdiagnostics : ((drafts draftDiagnostic p.diagnostics).map fun s =>
      s.toList.map DiagnosticDraft.finish) = p.diagnostics := by
    have hfinish : DiagnosticDraft.finish ∘ draftDiagnostic = id := funext finish_draftDiagnostic
    rw [← Function.comp_def (List.map DiagnosticDraft.finish), ← Option.map_map, toList_drafts]
    simp [hfinish, Function.comp_def]
  rw [draft, Draft.finish, hdiagnostics]

/-- **A stored result is read as it was written.** -/
theorem decode?_encode {p : Payload} (h : p.Fits) : decode? p.encode = some p := by
  rw [decode?, (reads_payload h).run?_eq, Option.map_some, finish_draft]

end Payload

end TensorLang
