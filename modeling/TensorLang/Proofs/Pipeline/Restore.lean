import TensorLang.Proofs.Pipeline.Payload
import TensorLang.Proofs.Pipeline.Relocation

/-!
# Stored results are results

A run that was stored and is taken out for another file with the same content gives the bag and the
output that a run of that file would give (`RunResult.ofPayload_payload`). Three things have to be
shown: stored numbers are wide enough for what a run reports, binding diagnostics to a file is
moving their spans, and the bag has room for what was stored. What is stored can be read again
(`RunOptions.decode?_payload`).
-/

namespace TensorLang

/-! ### Stored diagnostics -/

/-- Spans as they are stored, bound to the file `target`. -/
def Span.stored (target : Nat) (s : Span) : Span :=
  ⟨target, s.start % UInt32.size, s.stop % UInt32.size⟩

/-- Diagnostics whose numbers fit the stored form. -/
structure Diagnostic.Storable (d : Diagnostic) : Prop where
  severity : d.severity = .error
  code : d.code.number < UInt16.size

theorem getD_storedList {α : Type} (xs : List α) : (storedList xs).getD [] = xs := by
  unfold storedList
  cases xs <;> rfl

/-- A diagnostic that is stored and taken out is the same one with other spans. -/
theorem StoredDiagnostic.toDiagnostic_ofDiagnostic {d : Diagnostic} (h : d.Storable)
    (target : Nat) :
    toDiagnostic target (ofDiagnostic d) = d.respan (Span.stored target) := by
  obtain ⟨severity, code, message, primary, label, notes⟩ := d
  obtain rfl : severity = .error := h.severity
  have hcode : code.number % UInt16.size = code.number := Nat.mod_eq_of_lt h.code
  simp only [toDiagnostic, ofDiagnostic, Diagnostic.respan, getD_storedList, List.map_map, hcode]
  rfl

/-- All diagnostics of a run fit the stored form. -/
theorem storable_compileFile (file : File) (o : RunOptions) :
    ∀ d ∈ (compileFile file o).bag.items, d.Storable := by
  refine forall_mem_compileFile ⟨?_, ?_, ?_, ?_⟩ ?_
  · intro e _ s _
    unfold Outcome.syntaxDiagnostic
    split <;> exact ⟨rfl, Nat.le_of_ble_eq_true rfl⟩
  · intro p _ e _
    cases e <;> exact ⟨rfl, Nat.le_of_ble_eq_true rfl⟩
  · intro p _ e _
    cases e <;> exact ⟨rfl, Nat.le_of_ble_eq_true rfl⟩
  · intro p _ fs _ _ m _
    exact ⟨rfl, Nat.le_of_ble_eq_true rfl⟩
  · intro d hd
    unfold Outcome.promote
    split
    · exact ⟨rfl, hd.code⟩
    · exact hd

/-! ### Stored runs -/

/-- Storing spans of a file and binding them to another one moves them there, because offsets in
files fit 32 bits. -/
def Relocation.storage (file : File) (target : Nat) (h : file.content.length < UInt32.size) :
    Relocation where
  source := file.id
  target := target
  size := file.content.length
  map := Span.stored target
  map_mk a b ha hb := by
    rw [Span.stored, Nat.mod_eq_of_lt (Nat.lt_of_le_of_lt ha h),
      Nat.mod_eq_of_lt (Nat.lt_of_le_of_lt hb h)]

theorem RunOptions.diagnosticsIn_payload {file file' : File} (o : RunOptions)
    (hcontent : file'.content = file.content) (hsize : file.content.length < UInt32.size) :
    (o.payload file).diagnosticsIn file'.id = (compileFile file' o).bag.items := by
  have hfits : (Relocation.storage file file'.id hsize).Fits file := ⟨rfl, rfl⟩
  have hmap := (Relocation.compileFile_map hfits rfl hcontent o).1
  rw [hmap, payload, Payload.ofResult, Payload.diagnosticsIn, getD_storedList, List.map_map]
  exact List.map_congr_left fun d hd =>
    StoredDiagnostic.toDiagnostic_ofDiagnostic (storable_compileFile file o d hd) file'.id

/-- **A stored result is the result** of every file with the same content. -/
theorem RunResult.ofPayload_payload {file file' : File} (o : RunOptions)
    (hcontent : file'.content = file.content) (hsize : file.content.length < UInt32.size) :
    (RunResult.ofPayload file' o (o.payload file)).bag = (compileFile file' o).bag ∧
      (RunResult.ofPayload file' o (o.payload file)).output = (compileFile file' o).output := by
  have hfits : (Relocation.storage file file'.id hsize).Fits file := ⟨rfl, rfl⟩
  have houtput := (Relocation.compileFile_map hfits rfl hcontent o).2
  obtain ⟨hbag, hlimit⟩ := compileFile_bag file' o
  refine ⟨?_, houtput.symm⟩
  -- what a bag kept fits into a bag with the same limit
  rw [RunResult.ofPayload, o.diagnosticsIn_payload hcontent hsize, ← hlimit, Bag.refill hbag]

/-! ### Reading stored runs -/

theorem Sha256.length_hash (message : Bytes) : (hash message).length = 32 := rfl

/-- Diagnostics whose texts fit a length of 32 bits. -/
structure Diagnostic.ShortTexts (d : Diagnostic) : Prop where
  message : d.message.length < UInt32.size
  label : d.label.length < UInt32.size
  notes : d.notes.length < UInt32.size ∧ ∀ n ∈ d.notes, n.message.length < UInt32.size

theorem mem_storedList {α : Type} {xs ys : List α} (h : ys ∈ storedList xs) : ys = xs := by
  unfold storedList at h
  split_ifs at h
  · cases h
  · exact (Option.some.inj h).symm

theorem StoredDiagnostic.fits_ofDiagnostic {d : Diagnostic} (h : d.ShortTexts) :
    (ofDiagnostic d).Fits where
  severity := Nat.mod_lt _ (by decide)
  code := Nat.mod_lt _ (by decide)
  message := h.message
  label := h.label
  start := Nat.mod_lt _ (by decide)
  stop := Nat.mod_lt _ (by decide)
  notes := by
    intro notes hmem
    obtain rfl := mem_storedList hmem
    obtain ⟨hcount, hmessages⟩ := h.notes
    refine ⟨by rwa [List.length_map], fun n hn => ?_⟩
    obtain ⟨note, hnote, rfl⟩ := List.mem_map.mp hn
    exact ⟨Nat.mod_lt _ (by decide), Nat.mod_lt _ (by decide), hmessages note hnote⟩

/-- What is stored of a run can be read again, unless the run has a text or a list that is too long
for the stored form. -/
theorem RunOptions.decode?_payload {file : File} {o : RunOptions}
    (hcount : (compileFile file o).bag.items.length < UInt32.size)
    (htexts : ∀ d ∈ (compileFile file o).bag.items, d.ShortTexts)
    (houtput : ∀ text ∈ (compileFile file o).output, text.length < UInt32.size) :
    Payload.decode? (o.payload file).encode = some (o.payload file) := by
  have hschema : Payload.currentSchema < UInt16.size := by decide
  refine Payload.decode?_encode
    ⟨hschema, Sha256.length_hash _, Sha256.length_hash _, ?_, houtput⟩
  intro ds hmem
  obtain rfl := mem_storedList hmem
  refine ⟨by rwa [List.length_map], fun d hd => ?_⟩
  obtain ⟨found, hfound, rfl⟩ := List.mem_map.mp hd
  exact StoredDiagnostic.fits_ofDiagnostic (htexts found hfound)

end TensorLang
