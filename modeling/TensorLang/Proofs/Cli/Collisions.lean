import TensorLang.Cli.Settings
import TensorLang.Proofs.Pipeline.Attribution

/-!
# Files that are shown under one path

The JSON document about many files is an object with one entry for each path that is shown. A file
is shown under its path, but a long path from the root is cut down to its last element, so files in
different directories may be shown under one path. Then only the last of them has an entry.

So the document holds the diagnostics of all files exactly if no two of them are shown under the
same path (`Printer.showAll_json`). That is so for different paths, none of which is long and from
the root.
-/

namespace TensorLang

namespace Cli.Printer

/-! ### Entries by path -/

variable {entries : List (Bytes × Json)}

/-- The fields of the object for some entries. -/
def fields (entries : List (Bytes × Json)) : List (Bytes × Json) :=
  (lastByPath entries).mergeSort fun a b => Bytes.le a.1 b.1

theorem byPath_eq (entries : List (Bytes × Json)) : byPath entries = .object (fields entries) := rfl

/-- What is kept are the entries with no other one behind them that has the same path. -/
theorem mem_lastByPath_iff {e : Bytes × Json} :
    e ∈ lastByPath entries ↔
      ∃ before after, entries = before ++ e :: after ∧ ∀ later ∈ after, later.1 ≠ e.1 := by
  induction entries with
  | nil => simp [lastByPath]
  | cons first rest ih =>
    have hrest : e ∈ lastByPath rest →
        ∃ before after, first :: rest = before ++ e :: after ∧ ∀ later ∈ after, later.1 ≠ e.1 := by
      intro h
      obtain ⟨before, after, rfl, hafter⟩ := ih.mp h
      exact ⟨first :: before, after, rfl, hafter⟩
    rw [lastByPath]
    split_ifs with hlater
    · refine ⟨hrest, ?_⟩
      rintro ⟨before, after, hsplit, hafter⟩
      cases before with
      | nil =>
        -- the first entry has another one behind it
        obtain ⟨rfl, rfl⟩ := List.cons.inj hsplit
        obtain ⟨later, hmem, heq⟩ := List.any_eq_true.mp hlater
        exact absurd (eq_of_beq heq) (hafter later hmem)
      | cons _ before =>
        obtain ⟨rfl, rfl⟩ := List.cons.inj hsplit
        exact ih.mpr ⟨before, after, rfl, hafter⟩
    · rw [List.mem_cons]
      constructor
      · rintro (rfl | h)
        · refine ⟨[], rest, rfl, fun later hmem heq => hlater ?_⟩
          exact List.any_eq_true.mpr ⟨later, hmem, beq_iff_eq.mpr heq⟩
        · exact hrest h
      · rintro ⟨before, after, hsplit, hafter⟩
        cases before with
        | nil => exact .inl (List.cons.inj hsplit).1.symm
        | cons _ before =>
          obtain ⟨rfl, rfl⟩ := List.cons.inj hsplit
          exact .inr (ih.mpr ⟨before, after, rfl, hafter⟩)

theorem lastByPath_sublist (entries : List (Bytes × Json)) :
    (lastByPath entries).Sublist entries := by
  induction entries with
  | nil => exact .slnil
  | cons first rest ih =>
    rw [lastByPath]
    split_ifs
    · exact ih.cons first
    · exact ih.cons_cons first

/-- No path is kept twice. -/
theorem nodup_lastByPath (entries : List (Bytes × Json)) :
    ((lastByPath entries).map Prod.fst).Nodup := by
  induction entries with
  | nil => exact .nil
  | cons first rest ih =>
    rw [lastByPath]
    split_ifs with hlater
    · exact ih
    · refine List.nodup_cons.mpr ⟨fun hmem => hlater ?_, ih⟩
      obtain ⟨later, hlater, heq⟩ := List.mem_map.mp hmem
      exact List.any_eq_true.mpr
        ⟨later, (lastByPath_sublist rest).subset hlater, beq_iff_eq.mpr heq⟩

/-- Nothing is dropped if all paths are different. -/
theorem lastByPath_eq_self (h : (entries.map Prod.fst).Nodup) : lastByPath entries = entries := by
  induction entries with
  | nil => rfl
  | cons first rest ih =>
    obtain ⟨hfirst, hrest⟩ := List.nodup_cons.mp h
    rw [lastByPath, if_neg, ih hrest]
    intro hlater
    obtain ⟨later, hmem, heq⟩ := List.any_eq_true.mp hlater
    exact hfirst (List.mem_map.mpr ⟨later, hmem, eq_of_beq heq⟩)

theorem fields_perm (entries : List (Bytes × Json)) : (fields entries).Perm (lastByPath entries) :=
  List.mergeSort_perm _ _

/-- The object has all entries exactly if their paths are different. -/
theorem fields_perm_iff : (fields entries).Perm entries ↔ (entries.map Prod.fst).Nodup := by
  constructor
  · intro h
    have hkeys := (fields_perm entries).symm.trans h
    exact (hkeys.map Prod.fst).nodup_iff.mp (nodup_lastByPath entries)
  · intro h
    have hperm := fields_perm entries
    rwa [lastByPath_eq_self h] at hperm

end Cli.Printer

/-! ### Paths of a batch -/

/-- A run keeps its file, whatever the cache holds. -/
theorem Workspace.file_run (w : Workspace) (around : Nat) (file : File) (o : RunOptions) :
    (w.run around file o).2.file = file := by
  obtain ⟨session, ⟨c, p, -, -, hrun⟩ | hrun | ⟨c, -, -, hrun⟩⟩ := w.run_cases ⟨around, file, o⟩
  · rw [hrun]
    rfl
  · rw [hrun]
    rfl
  · rw [hrun]
    rfl

namespace Batch

variable {w : Workspace} {paths : List Bytes} {o : RunOptions}

theorem length_runFiles (w : Workspace) (paths : List Bytes) (o : RunOptions) :
    (w.runFiles paths false o).2.runs.length = paths.length := by
  obtain ⟨w', around, -, hruns⟩ := runFiles_eq w paths false o
  rw [hruns]
  simp [length_runAll, length_loadAll]

/-- The files of a batch are read under the cleaned paths. -/
theorem path_of_runFiles {i : Nat} {r : FileRun}
    (h : (w.runFiles paths false o).2.runs[i]? = some r) :
    paths[i]? = some r.path ∧
      ∀ result, r.result = some result → result.file.path = Path.clean r.path := by
  obtain ⟨w', around, -, hruns⟩ := runFiles_eq w paths false o
  rw [hruns] at h
  obtain ⟨w'', path, loaded, hitem, rfl⟩ := exists_runOne h
  obtain ⟨hpath, hloaded⟩ := List.getElem?_zip_eq_some.mp hitem
  cases hread : w.tree.read path with
  | error f =>
    have herror := loadAll_of_error (FileSet.ofTree w.tree) hpath hread
    obtain rfl : loaded = .error f := Option.some.inj (hloaded.symm.trans herror)
    exact ⟨hpath, nofun⟩
  | ok content =>
    obtain ⟨hid, hfile⟩ := loadAll_of_read (FileSet.ofTree w.tree) hpath hread
    obtain rfl := Option.some.inj (hloaded.symm.trans hid)
    simp only [runOne, hfile]
    refine ⟨hpath, ?_⟩
    rintro _ ⟨⟩
    rw [Workspace.file_run]
    rfl

end Batch

namespace Cli.Printer

/-- A path that is clean, and not a long one from the root, is shown as it is. -/
theorem shownPath_eq {fs : FileSet} {r : FileRun} (hclean : Path.clean r.path = r.path)
    (hshort : Path.isAbs r.path = true → r.path.length < 40)
    (hfile : ∀ result, r.result = some result → result.file.path = Path.clean r.path) :
    shownPath fs r = r.path := by
  cases hresult : r.result with
  | none => simp only [shownPath, hresult]
  | some result =>
    have hpath : result.file.path = r.path := (hfile result hresult).trans hclean
    simp only [shownPath, hresult, FileSet.pathOf, File.formatPath, hpath]
    refine if_neg fun hlong => ?_
    obtain ⟨habs, hlen⟩ := Bool.and_eq_true_iff.mp hlong
    exact absurd (hshort habs) (Nat.not_lt.mpr (of_decide_eq_true hlen))

/-- Such paths are all shown as they are. -/
theorem map_shownPath_runFiles {w : Workspace} {paths : List Bytes} {o : RunOptions}
    (hpaths : ∀ path ∈ paths,
      Path.clean path = path ∧ (Path.isAbs path = true → path.length < 40)) :
    (w.runFiles paths false o).2.runs.map (shownPath (w.runFiles paths false o).2.files) =
      paths := by
  refine List.ext_getElem? fun i => ?_
  rw [List.getElem?_map]
  cases hr : (w.runFiles paths false o).2.runs[i]? with
  | none =>
    rw [List.getElem?_eq_none_iff, Batch.length_runFiles, ← List.getElem?_eq_none_iff] at hr
    exact hr.symm
  | some r =>
    obtain ⟨hpath, hfile⟩ := Batch.path_of_runFiles hr
    obtain ⟨hclean, hshort⟩ := hpaths r.path (List.mem_of_getElem? hpath)
    rw [hpath, Option.map_some, shownPath_eq hclean hshort hfile]

/-! ### Documents about many files -/

/-- The entry of a run: all its diagnostics, under the path that is shown. -/
def entry (p : Printer) (fs : FileSet) (r : FileRun) : Bytes × Json :=
  (shownPath fs r, Json.record
    [("diagnostics", .array (r.bag.items.map (p.documentOptions.diagnostic fs))),
      ("count", Json.nat r.bag.items.length)])

/-- **A JSON document about many files** is one object. No path comes twice in it, and every entry
holds the diagnostics of the last run that is shown under its path. So the object has one entry for
each run, with all diagnostics of the run, exactly if no two runs are shown under the same path.
That is so in a batch of different paths that are clean, if none of them is a long path from the
root. -/
theorem showAll_json {p : Printer} (hjson : p.format = .json) (put : Bytes → Action Unit)
    (b : Batch) :
    ∃ fields : List (Bytes × Json), p.showAll put b = put (Json.object fields).document ∧
      (fields.map Prod.fst).Nodup ∧
      (∀ e, e ∈ fields ↔ ∃ before r after, b.runs = before ++ r :: after ∧
        e = p.entry b.files r ∧
        ∀ later ∈ after, shownPath b.files later ≠ shownPath b.files r) ∧
      (fields.Perm (b.runs.map (p.entry b.files)) ↔ (b.runs.map (shownPath b.files)).Nodup) ∧
      ∀ (w : Workspace) (paths : List Bytes) (o : RunOptions), (w.runFiles paths false o).2 = b →
        paths.Nodup →
        (∀ path ∈ paths, Path.clean path = path ∧
          (Path.isAbs path = true → path.length < 40)) →
        fields.Perm (b.runs.map (p.entry b.files)) := by
  have hkeys : (b.runs.map (p.entry b.files)).map Prod.fst = b.runs.map (shownPath b.files) := by
    rw [List.map_map]
    rfl
  -- the entries are kept all if their keys, the paths that are shown, are different
  have hiff := @fields_perm_iff (b.runs.map (p.entry b.files))
  rw [hkeys] at hiff
  refine ⟨fields (b.runs.map (p.entry b.files)), ?_, ?_, fun e => ?_, hiff, ?_⟩
  · rw [showAll, hjson, ← byPath_eq]
    rfl
  · exact ((fields_perm _).map Prod.fst).nodup_iff.mpr (nodup_lastByPath _)
  · rw [(fields_perm _).mem_iff, mem_lastByPath_iff]
    constructor
    · rintro ⟨before, after, hsplit, hafter⟩
      obtain ⟨runs, more, hruns, rfl, hmore⟩ := List.map_eq_append_iff.mp hsplit
      obtain ⟨r, later, rfl, rfl, rfl⟩ := List.map_eq_cons_iff.mp hmore
      exact ⟨runs, r, later, hruns, rfl, fun run hrun => hafter _ (List.mem_map_of_mem hrun)⟩
    · rintro ⟨before, r, after, hruns, rfl, hafter⟩
      refine ⟨before.map _, after.map _, by rw [hruns, List.map_append, List.map_cons], ?_⟩
      intro later hlater
      obtain ⟨run, hrun, rfl⟩ := List.mem_map.mp hlater
      exact hafter run hrun
  · rintro w paths o rfl hnodup hpaths
    rw [hiff, map_shownPath_runFiles hpaths]
    exact hnodup

/-- A directory with two files of the same name in different places, the first of which is no
program. -/
private def sameNames (place : Bytes) : Workspace where
  tree := { entries := [([place, "a".utf8, "m.tsa".utf8], .file "?".utf8),
    ([place, "b".utf8, "m.tsa".utf8], .file "a;".utf8), ([place, "a".utf8], .dir),
    ([place, "b".utf8], .dir), ([place], .dir)] }
  session := { tracer := .silent }

/-- Files of the same name have entries of their own if their paths are shown. -/
theorem showAll_json_short :
    let paths := ["s/a/m.tsa".utf8, "s/b/m.tsa".utf8]
    let batch := ((sameNames "s".utf8).runFiles paths false { goal := .check }).2
    let printer : Printer := { format := .json }
    batch.runs.map (fun r => (r.path, r.bag.hasErrors)) =
      [("s/a/m.tsa".utf8, true), ("s/b/m.tsa".utf8, false)] ∧
    ∃ fields, printer.showAll say batch = say (Json.object fields).document ∧
      fields.Perm (batch.runs.map (printer.entry batch.files)) := by
  intro paths batch printer
  have hpaths : ∀ path ∈ paths, Path.clean path = path ∧
      (Path.isAbs path = true → path.length < 40) := by decide +kernel
  have hnodup : paths.Nodup := by decide +kernel
  obtain ⟨fields, hshow, -, -, -, hall⟩ := @showAll_json printer rfl say batch
  exact ⟨by decide +kernel, fields, hshow, hall _ paths _ rfl hnodup hpaths⟩

/-- Two different paths that are both shown as `m.tsa`. The object has one entry for them and no
diagnostics, although the first file has an error. -/
theorem showAll_json_long :
    let place := "aaaaaaaaaaaaaaaaaaaaaaaaaaaaaaaa".utf8
    let paths := [Path.join ["/".utf8, place, "a/m.tsa".utf8],
      Path.join ["/".utf8, place, "b/m.tsa".utf8]]
    let batch := ((sameNames place).runFiles paths false { goal := .check }).2
    let printer : Printer := { format := .json }
    paths.Nodup ∧
    batch.runs.map (fun r => (r.path, r.bag.hasErrors)) = paths.zip [true, false] ∧
    printer.showAll say batch = say (Json.object [("m.tsa".utf8, Json.record
      [("diagnostics", .array []), ("count", Json.nat 0)])]).document := by
  intro place paths batch printer
  have hshown : batch.runs.map (fun r => (shownPath batch.files r, r.bag.items.isEmpty)) =
      [("m.tsa".utf8, false), ("m.tsa".utf8, true)] := by decide +kernel
  refine ⟨by decide +kernel, by decide +kernel, ?_⟩
  obtain ⟨first, more, hruns, hfirst, hmore⟩ := List.map_eq_cons_iff.mp hshown
  obtain ⟨last, rfl, hlast⟩ := List.map_eq_singleton_iff.mp hmore
  obtain ⟨hpath, -⟩ := Prod.mk.inj hfirst
  obtain ⟨hpath', hitems⟩ := Prod.mk.inj hlast
  rw [List.isEmpty_iff] at hitems
  -- the first entry is dropped, since the second one has the same path
  have hfields : byPath (batch.runs.map fun r =>
      (shownPath batch.files r, printer.documentOptions.build batch.files r.bag.items)) =
      .object [("m.tsa".utf8, printer.documentOptions.build batch.files [])] := by
    rw [hruns]
    simp [byPath, lastByPath, hpath, hpath', hitems]
  exact congrArg (fun object : Json => say object.document) hfields

end Cli.Printer

end TensorLang
