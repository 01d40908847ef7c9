import TensorLang.Proofs.Pipeline.Cache

/-!
# Whose diagnostics they are

Every diagnostic of a run is about the file that was run, whichever pass reported it and whether the
result was made or was taken from the cache (`Workspace.isAbout_run`). In a batch this holds for
every path that can be read (`Workspace.runFiles_attribution`).

A path that cannot be read has no file to be about. Its diagnostic has the span that says nothing,
and since files are numbered from zero, that span lies in the file of the first path that can be
read: in a batch with such a path, the diagnostic of every path that cannot be read is shown with
the path and the text of another one (`Workspace.runFiles_misplaced`).
-/

namespace TensorLang

open Storage (Tree)

/-- All spans of the diagnostic are in the file. -/
structure Diagnostic.IsAbout (file : Nat) (d : Diagnostic) : Prop where
  primary : d.primary.file = file
  notes : ∀ n ∈ d.notes, n.span.file = file

/-! ### One run -/

/-- What the passes report is about their file. -/
theorem isAbout_compileFile (file : File) (o : RunOptions) :
    ∀ d ∈ (compileFile file o).bag.items, d.IsAbout file.id := by
  intro d hd
  have hfits : file.clamp.Fits file := ⟨rfl, rfl⟩
  have hcovers := Relocation.coversDiagnostic_compileFile hfits o d hd
  exact ⟨hcovers.primary.file, fun n hn => (hcovers.notes n hn).file⟩

namespace RunResult

theorem isAbout_timingsOf (t : Timer) (file : File) : (timingsOf t file).IsAbout file.id := by
  refine ⟨rfl, fun n hn => ?_⟩
  obtain ⟨phase, -, rfl⟩ := List.mem_map.mp hn
  rfl

theorem isAbout_ofOutcome (file : File) (o : RunOptions) :
    ∀ d ∈ (ofOutcome file o (compileFile file o)).bag.items, d.IsAbout file.id := by
  intro d hd
  cases htimings : o.timings with
  | false =>
    simp only [ofOutcome, htimings, Bool.false_eq_true, if_false] at hd
    exact isAbout_compileFile file o d hd
  | true =>
    simp only [ofOutcome, htimings, if_true, addTimings_eq] at hd
    rcases List.mem_append.mp hd with hd | hd
    · exact isAbout_compileFile file o d hd
    · rw [List.mem_singleton.mp hd]
      exact isAbout_timingsOf _ file

/-- Whatever is stored is bound to the file when it is taken out. -/
theorem isAbout_ofPayload (file : File) (o : RunOptions) (p : Payload) :
    ∀ d ∈ (ofPayload file o p).bag.items, d.IsAbout file.id := by
  intro d hd
  rcases Bag.mem_foldl_push hd with hd | hd
  · cases hd
  · obtain ⟨s, -, rfl⟩ := List.mem_map.mp hd
    refine ⟨rfl, fun n hn => ?_⟩
    obtain ⟨stored, -, rfl⟩ := List.mem_map.mp hn
    rfl

end RunResult

/-- **A run reports about its file**, whatever the cache holds. -/
theorem Workspace.isAbout_run (w : Workspace) (around : Nat) (file : File) (o : RunOptions) :
    ∀ d ∈ (w.run around file o).2.bag.items, d.IsAbout file.id := by
  obtain ⟨session, ⟨c, p, -, -, hrun⟩ | hrun | ⟨c, -, -, hrun⟩⟩ := w.run_cases ⟨around, file, o⟩
  · rw [hrun]
    exact RunResult.isAbout_ofPayload file o p
  · rw [hrun]
    exact RunResult.isAbout_ofOutcome file o
  · rw [hrun]
    exact RunResult.isAbout_ofOutcome file o

/-! ### Reading the files of a batch -/

/-- Can the path be read? -/
def Storage.Tree.canRead (t : Tree) (path : Bytes) : Bool :=
  match t.read path with
  | .ok _ => true
  | .error _ => false

/-- The file that the content of a path becomes. -/
def File.ofRead (id : Nat) (path content : Bytes) : File :=
  ⟨id, Path.clean path, (Source.normalize content).1, (Source.normalize content).2⟩

namespace Batch

variable {t : Tree} {paths : List Bytes} {path : Bytes} {i : Nat}

/-- The number that the file of a path gets: how many paths before it can be read. -/
def idAt (t : Tree) (paths : List Bytes) (i : Nat) : Nat := (paths.take i).countP t.canRead

/-- A path that can be read becomes the next file. -/
theorem loadAll_cons_of_read (fs : FileSet) {content : Bytes} (h : t.read path = .ok content)
    (rest : List Bytes) :
    ∃ fs' : FileSet, fs'.size = fs.size + 1 ∧ (∀ id < fs.size, fs'.get? id = fs.get? id) ∧
      fs'.get? fs.size = some (.ofRead fs.size path content) ∧
      loadAll t fs (path :: rest) =
        ((loadAll t fs' rest).1, .ok fs.size :: (loadAll t fs' rest).2) := by
  have hload : fs.load t path =
      .ok ({ fs with files := fs.files.push (.ofRead fs.size path content) }, fs.size) := by
    rw [FileSet.load, h]
    rfl
  refine ⟨{ fs with files := fs.files.push (.ofRead fs.size path content) }, ?_, ?_, ?_, ?_⟩
  · exact Array.size_push _
  · intro id hid
    have hne : id ≠ fs.files.size := Nat.ne_of_lt hid
    simp only [FileSet.get?, Array.getElem?_push, hne, if_false]
  · exact Array.getElem?_push_size
  · rw [loadAll, hload]

/-- A path that cannot be read becomes none. -/
theorem loadAll_cons_of_error (fs : FileSet) {f : Storage.Failure} (h : t.read path = .error f)
    (rest : List Bytes) :
    loadAll t fs (path :: rest) = ((loadAll t fs rest).1, .error f :: (loadAll t fs rest).2) := by
  have hload : fs.load t path = .error f := by
    rw [FileSet.load, h]
    rfl
  rw [loadAll, hload]

theorem length_loadAll (t : Tree) (fs : FileSet) (paths : List Bytes) :
    (loadAll t fs paths).2.length = paths.length := by
  induction paths generalizing fs with
  | nil => rfl
  | cons path rest ih =>
    cases hread : t.read path with
    | error f =>
      rw [loadAll_cons_of_error fs hread, List.length_cons, List.length_cons, ih]
    | ok content =>
      obtain ⟨fs', -, -, -, hcons⟩ := loadAll_cons_of_read fs hread rest
      rw [hcons, List.length_cons, List.length_cons, ih]

/-- Reading more files changes none of those that are there. -/
theorem loadAll_get?_of_lt (fs : FileSet) {id : Nat} (hid : id < fs.size) :
    (loadAll t fs paths).1.get? id = fs.get? id := by
  induction paths generalizing fs with
  | nil => rfl
  | cons path rest ih =>
    cases hread : t.read path with
    | error f =>
      rw [loadAll_cons_of_error fs hread]
      exact ih fs hid
    | ok content =>
      obtain ⟨fs', hsize, hkept, -, hcons⟩ := loadAll_cons_of_read fs hread rest
      rw [hcons]
      exact (ih fs' (by omega)).trans (hkept id hid)

/-- The file of a path that can be read has the number `idAt`. -/
theorem loadAll_of_read (fs : FileSet) {content : Bytes} (hpath : paths[i]? = some path)
    (hread : t.read path = .ok content) :
    (loadAll t fs paths).2[i]? = some (.ok (fs.size + idAt t paths i)) ∧
      (loadAll t fs paths).1.get? (fs.size + idAt t paths i) =
        some (.ofRead (fs.size + idAt t paths i) path content) := by
  induction paths generalizing fs i with
  | nil => cases hpath
  | cons first rest ih =>
    cases i with
    | zero =>
      obtain rfl : first = path := by simpa using hpath
      obtain ⟨fs', hsize, -, hfile, hcons⟩ := loadAll_cons_of_read fs hread rest
      have hkept := @loadAll_get?_of_lt t rest fs' fs.size (by omega)
      rw [hcons]
      exact ⟨rfl, hkept.trans hfile⟩
    | succ i =>
      rw [List.getElem?_cons_succ] at hpath
      cases hfirst : t.read first with
      | error f =>
        have hid : idAt t (first :: rest) (i + 1) = idAt t rest i := by
          rw [idAt, List.take_succ_cons, List.countP_cons, if_neg (by simp [Tree.canRead, hfirst])]
          rfl
        rw [loadAll_cons_of_error fs hfirst, hid]
        exact ih fs hpath
      | ok text =>
        obtain ⟨fs', hsize, -, -, hcons⟩ := loadAll_cons_of_read fs hfirst rest
        have hid : fs.size + idAt t (first :: rest) (i + 1) = fs'.size + idAt t rest i := by
          rw [idAt, List.take_succ_cons, List.countP_cons, if_pos (by simp [Tree.canRead, hfirst]),
            hsize, idAt]
          omega
        rw [hcons, hid]
        exact ih fs' hpath

theorem loadAll_of_error (fs : FileSet) {f : Storage.Failure} (hpath : paths[i]? = some path)
    (hread : t.read path = .error f) : (loadAll t fs paths).2[i]? = some (.error f) := by
  induction paths generalizing fs i with
  | nil => cases hpath
  | cons first rest ih =>
    cases i with
    | zero =>
      obtain rfl : first = path := by simpa using hpath
      rw [loadAll_cons_of_error fs hread]
      rfl
    | succ i =>
      rw [List.getElem?_cons_succ] at hpath
      cases hfirst : t.read first with
      | error g =>
        rw [loadAll_cons_of_error fs hfirst]
        exact ih fs hpath
      | ok text =>
        obtain ⟨fs', -, -, -, hcons⟩ := loadAll_cons_of_read fs hfirst rest
        rw [hcons]
        exact ih fs' hpath

/-- The first file that is read is that of the first path that can be read. -/
theorem loadAll_get?_size (t : Tree) (fs : FileSet) (paths : List Bytes) :
    ((loadAll t fs paths).1.get? fs.size).map File.path =
      (paths.find? t.canRead).map Path.clean := by
  induction paths generalizing fs with
  | nil => simp [loadAll, FileSet.get?, FileSet.size]
  | cons path rest ih =>
    cases hread : t.read path with
    | error f =>
      rw [loadAll_cons_of_error fs hread,
        List.find?_cons_of_neg (by simp [Tree.canRead, hread])]
      exact ih fs
    | ok content =>
      obtain ⟨fs', hsize, -, hfile, hcons⟩ := loadAll_cons_of_read fs hread rest
      have hkept := @loadAll_get?_of_lt t rest fs' fs.size (by omega)
      rw [hcons, List.find?_cons_of_pos (by simp [Tree.canRead, hread]), hkept, hfile]
      rfl

/-! ### Running them -/

/-- Every file of a batch is run in some state of the workspace. -/
theorem exists_runOne {w : Workspace} {around : Nat} {fs : FileSet} {o : RunOptions}
    {items : List (Bytes × Except Storage.Failure Nat)} {r : FileRun}
    (h : (runAll w around fs o items).2[i]? = some r) :
    ∃ (w' : Workspace) (path : Bytes) (loaded : Except Storage.Failure Nat),
      items[i]? = some (path, loaded) ∧ r = (runOne w' around fs o path loaded).2 := by
  induction items generalizing w i with
  | nil => cases h
  | cons item rest ih =>
    obtain ⟨path, loaded⟩ := item
    rw [runAll] at h
    cases i with
    | zero =>
      refine ⟨w, path, loaded, rfl, ?_⟩
      simpa using h.symm
    | succ i => exact ih h

theorem length_runAll (w : Workspace) (around : Nat) (fs : FileSet) (o : RunOptions)
    (items : List (Bytes × Except Storage.Failure Nat)) :
    (runAll w around fs o items).2.length = items.length := by
  induction items generalizing w with
  | nil => rfl
  | cons item rest ih => exact congrArg (· + 1) (ih _)

/-- The diagnostic for a path that cannot be read finds room in every bag. -/
theorem items_push_empty (limit : Int) (d : Diagnostic) :
    ((Bag.empty limit).push d).items = [d] := by
  have hroom : 0 < (Bag.empty limit).limit →
      ((Bag.empty limit).items.length + [d].length : Int) ≤ (Bag.empty limit).limit := by
    intro hlimit
    simp only [Bag.empty, List.length_nil, List.length_singleton] at hlimit ⊢
    omega
  exact congrArg Bag.items (Bag.foldl_push_eq hroom)

/-- What a batch is made of: the files, and the runs unless it was cancelled. -/
theorem runFiles_eq (w : Workspace) (paths : List Bytes) (isCancelled : Bool) (o : RunOptions) :
    ∃ (w' : Workspace) (around : Nat),
      (w.runFiles paths isCancelled o).2.files =
        (loadAll w.tree (FileSet.ofTree w.tree) paths).1 ∧
      (w.runFiles paths isCancelled o).2.runs =
        if isCancelled then [] else
          (runAll w' around (loadAll w.tree (FileSet.ofTree w.tree) paths).1 o
            (paths.zip (loadAll w.tree (FileSet.ofTree w.tree) paths).2)).2 := by
  unfold Workspace.runFiles
  generalize w.session.begin .driver "run files".utf8 0 = begun
  obtain ⟨session, span⟩ := begun
  refine ⟨{ w with session }, span.id, ?_⟩
  cases isCancelled with
  | false => exact ⟨rfl, rfl⟩
  | true => cases paths <;> exact ⟨rfl, rfl⟩

end Batch

/-- **Diagnostics of a batch stay with their file.** Whatever is reported for a path that can be
read is about the file that was read from it. For a path that cannot be read, one diagnostic says
so, and it lies in the file of the first path that can be read, if there is any. -/
theorem Workspace.runFiles_attribution (w : Workspace) (paths : List Bytes) (isCancelled : Bool)
    (o : RunOptions) :
    (w.runFiles paths isCancelled o).2.runs.length =
        (if isCancelled then 0 else paths.length) ∧
    ∀ i r, (w.runFiles paths isCancelled o).2.runs[i]? = some r →
      paths[i]? = some r.path ∧
      (∀ content, w.tree.read r.path = .ok content →
        r.id = Batch.idAt w.tree paths i ∧
        (w.runFiles paths isCancelled o).2.files.get? r.id =
          some (.ofRead r.id r.path content) ∧
        ∀ d ∈ r.bag.items, d.IsAbout r.id) ∧
      ∀ f, w.tree.read r.path = .error f →
        r.bag.items = [Batch.loadDiagnostic r.path f] ∧
        ∀ d ∈ r.bag.items,
          ((w.runFiles paths isCancelled o).2.files.get? d.primary.file).map File.path =
            (paths.find? w.tree.canRead).map Path.clean := by
  obtain ⟨w', around, hfiles, hruns⟩ := Batch.runFiles_eq w paths isCancelled o
  have hlength := Batch.length_loadAll w.tree (FileSet.ofTree w.tree) paths
  rw [hfiles, hruns]
  refine ⟨?_, fun i r hr => ?_⟩
  · cases isCancelled with
    | true => rfl
    | false => simp [Batch.length_runAll, hlength]
  cases isCancelled with
  | true => cases hr
  | false =>
    obtain ⟨w'', path, loaded, hitem, rfl⟩ := Batch.exists_runOne hr
    obtain ⟨hpath, hloaded⟩ := List.getElem?_zip_eq_some.mp hitem
    have hown : (Batch.runOne w'' around
        (Batch.loadAll w.tree (FileSet.ofTree w.tree) paths).1 o path loaded).2.path = path := by
      unfold Batch.runOne
      split
      · rfl
      · split <;> rfl
    rw [hown]
    refine ⟨hpath, fun content hread => ?_, fun f hread => ?_⟩
    · obtain ⟨hid, hfile⟩ := Batch.loadAll_of_read (FileSet.ofTree w.tree) hpath hread
      have hzero : (FileSet.ofTree w.tree).size = 0 := rfl
      rw [hzero, Nat.zero_add] at hid hfile
      obtain rfl : loaded = .ok (Batch.idAt w.tree paths i) :=
        Option.some.inj (hloaded.symm.trans hid)
      simp only [Batch.runOne, hfile]
      exact ⟨trivial, trivial, w''.isAbout_run around _ o⟩
    · have hid := Batch.loadAll_of_error (FileSet.ofTree w.tree) hpath hread
      obtain rfl : loaded = .error f := Option.some.inj (hloaded.symm.trans hid)
      have hitems := Batch.items_push_empty o.maxDiagnostics (Batch.loadDiagnostic path f)
      refine ⟨hitems, fun d hd => ?_⟩
      obtain rfl : d = Batch.loadDiagnostic path f := by
        simpa only [Batch.runOne, hitems, List.mem_singleton] using hd
      -- the span that says nothing is in file zero
      exact Batch.loadAll_get?_size w.tree (FileSet.ofTree w.tree) paths

/-- A working directory with one file. -/
private def oneFile (text : String) : Workspace where
  tree := { entries := [(["a.tsa".utf8], .file text.utf8)] }
  session := { tracer := .silent }

/-- What is wrong in a file stays there, whichever paths before it cannot be read. -/
theorem Workspace.runFiles_attribution_second :
    let batch := ((oneFile "?").runFiles ["b.tsa".utf8, "a.tsa".utf8] false {}).2
    ∃ r, batch.runs[1]? = some r ∧ r.bag.hasErrors = true ∧
      batch.files.get? 0 = some (.ofRead 0 "a.tsa".utf8 "?".utf8) ∧
      ∀ d ∈ r.bag.items, d.IsAbout 0 := by
  intro batch
  obtain ⟨-, hall⟩ := (oneFile "?").runFiles_attribution ["b.tsa".utf8, "a.tsa".utf8] false {}
  have hsome : (batch.runs[1]?.map fun r => (r.path, r.bag.hasErrors)) =
      some ("a.tsa".utf8, true) := by
    decide +kernel
  obtain ⟨r, hr, hrun⟩ := Option.map_eq_some_iff.mp hsome
  obtain ⟨hpath, herrors⟩ := Prod.mk.inj hrun
  have hread : (oneFile "?").tree.read r.path = .ok "?".utf8 := by
    rw [hpath]
    rfl
  obtain ⟨hid, hfile, habout⟩ := (hall 1 r hr).2.1 _ hread
  have hzero : Batch.idAt (oneFile "?").tree ["b.tsa".utf8, "a.tsa".utf8] 1 = 0 := by decide
  rw [hid, hzero] at hfile habout
  rw [hpath] at hfile
  exact ⟨r, hr, herrors, hfile, habout⟩

/-- The diagnostic of a path that cannot be read is shown with the path of another one. -/
theorem Workspace.runFiles_misplaced :
    let batch := ((oneFile "a;").runFiles ["a.tsa".utf8, "b.tsa".utf8] false {}).2
    (batch.runs.map fun r => r.bag.items.map fun d =>
        (d.message, (batch.files.get? d.primary.file).map File.path)) =
      [[], [("failed to load b.tsa: open b.tsa: no such file or directory".utf8,
        some "a.tsa".utf8)]] := by
  decide +kernel

end TensorLang
