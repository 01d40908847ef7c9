import TensorLang.Pipeline.Batch
import TensorLang.Proofs.Pipeline.Payload
import TensorLang.Proofs.Pipeline.Restore
import TensorLang.Proofs.Storage.ResultCache

/-!
# The cache is transparent

Runs that share a cache answer what they would answer without it (`Workspace.cache_transparent`).
The invariant is that every entry is what some run of the sequence stores under the entry's key
(`Workspace.Sound`): a run that stores makes such an entry, and dropping all entries makes none. An
entry that a run finds was stored for the same content and the same options, so that only the number
of the file can differ.
-/

namespace TensorLang

open Storage (Tree ResultCache Node)

/-! ### Sequences of uses -/

/-- A run that is asked for: a file, the options and the span to run under. -/
structure Request where
  around : Nat
  file : File
  options : RunOptions

namespace Request

/-- The key of the run. -/
def key (r : Request) : Bytes := r.options.key r.file

/-- What the run stores. -/
def payload (r : Request) : Payload := r.options.payload r.file

/-- The result of the passes. -/
def fresh (r : Request) : RunResult :=
  .ofOutcome r.file r.options (compileFile r.file r.options)

end Request

/-- What is done with a shared cache. -/
inductive CacheUse where
  | run (r : Request)
  | dropAll

/-- The run, if it is one. -/
def CacheUse.request? : CacheUse → Option Request
  | run r => some r
  | dropAll => none

/-- What is assumed of the runs in a sequence of uses. -/
structure CacheUse.Reliable (uses : List CacheUse) : Prop where
  /-- Offsets in files fit 32 bits. -/
  size : ∀ r, .run r ∈ uses → r.file.content.length < UInt32.size
  /-- What is stored can be read again. -/
  codec : ∀ r, .run r ∈ uses → Payload.decode? r.payload.encode = some r.payload
  /-- Equal keys come from equal contents, targets and options. -/
  keys : ∀ r r', .run r ∈ uses → .run r' ∈ uses → r.key = r'.key →
    r.file.content = r'.file.content ∧ r.options.target = r'.options.target ∧
      r.options.maxDiagnostics = r'.options.maxDiagnostics ∧
      r.options.warningsAsErrors = r'.options.warningsAsErrors

/-- The directory of the cache is there, and no key has an entry in it. -/
def Storage.ResultCache.IsEmpty (c : ResultCache) (t : Tree) : Prop :=
  ∀ key, ∃ place, t.locate (c.entryPath key) = .ok (place, none)

/-- What is compared of a result: all diagnostics with their spans, in order, and the output. -/
def RunResult.answer (r : RunResult) : Bag × Option Bytes := (r.bag, r.output)

namespace Workspace

/-- Drops all entries of the cache; a failure changes nothing. -/
def dropAll (w : Workspace) : Workspace :=
  match w.cache with
  | none => w
  | some c => { w with tree := (c.clear w.tree).toOption.elim w.tree Prod.fst }

/-- The results of the runs in a sequence of uses. -/
def results (w : Workspace) : List CacheUse → List RunResult
  | [] => []
  | .run r :: rest =>
    (w.run r.around r.file r.options).2 :: (w.run r.around r.file r.options).1.results rest
  | .dropAll :: rest => w.dropAll.results rest

end Workspace

/-! ### One run -/

/-- A run that reads from the store uses it. -/
theorem RunOptions.stored?_cases {o : RunOptions} {store : ResultStore} {file : File} {p : Payload}
    (h : o.stored? store file = some p) :
    o.usesStore = true ∧ ∃ content, store.get? (o.key file) = some content ∧
      Payload.decode? content = some p := by
  unfold stored? at h
  obtain ⟨content, hget, h⟩ := Option.bind_eq_some_iff.mp h
  obtain ⟨q, hdecode, h⟩ := Option.bind_eq_some_iff.mp h
  split_ifs at h with hfits
  cases h
  exact ⟨(Bool.and_eq_true_iff.mp hfits).1, content, hget, hdecode⟩

/-- A run answers a stored result and stores nothing, or answers what the passes make and stores
that, if anything. -/
theorem executeRun_cases (session : Trace.Session) (around : Nat) (store : Option ResultStore)
    (file : File) (o : RunOptions) :
    (∃ s p, store = some s ∧ o.stored? s file = some p ∧
      (executeRun session around store file o).result = .ofPayload file o p ∧
      (executeRun session around store file o).stores = none) ∨
    ((executeRun session around store file o).result = .ofOutcome file o (compileFile file o) ∧
      ((executeRun session around store file o).stores = none ∨
        o.usesStore = true ∧ (executeRun session around store file o).stores =
          some (o.key file, (o.payload file).encode))) := by
  unfold executeRun
  generalize session.begin .file file.path around = begun
  obtain ⟨session', span⟩ := begun
  simp only
  split
  · rename_i p hstored
    obtain ⟨s, hs, hp⟩ := Option.bind_eq_some_iff.mp hstored
    exact .inl ⟨s, p, hs, hp, rfl, rfl⟩
  · right
    split
    · exact ⟨rfl, .inl rfl⟩
    · rename_i hfilter
      have huses := (Option.filter_eq_some_iff.mp hfilter).2
      exact ⟨rfl, .inr ⟨huses, rfl⟩⟩
    · exact ⟨rfl, .inl rfl⟩

/-- What a run does to a workspace: it answers a stored result, or it answers what the passes make
and perhaps stores that. -/
theorem Workspace.run_cases (w : Workspace) (r : Request) :
    ∃ session,
      (∃ c p, w.cache = some c ∧ r.options.stored? (.ofCache c w.tree) r.file = some p ∧
        w.run r.around r.file r.options =
          ({ w with session }, .ofPayload r.file r.options p)) ∨
      w.run r.around r.file r.options = ({ w with session }, r.fresh) ∨
      ∃ c, w.cache = some c ∧ r.options.usesStore = true ∧
        w.run r.around r.file r.options =
          ({ w with tree := c.put w.tree r.key r.payload.encode, session }, r.fresh) := by
  obtain ⟨tree, cache, session⟩ := w
  unfold run
  generalize hstore : cache.map (fun c => ResultStore.ofCache c tree) = store
  have hcases := executeRun_cases session r.around store r.file r.options
  simp only
  generalize executeRun session r.around store r.file r.options = e at hcases ⊢
  refine ⟨e.session, ?_⟩
  rcases hcases with ⟨s, p, hs, hp, hresult, hnone⟩ | ⟨hresult, hnone | ⟨hstores, hsome⟩⟩
  · rw [hs] at hstore
    obtain ⟨c, rfl, rfl⟩ := Option.map_eq_some_iff.mp hstore
    exact .inl ⟨c, p, rfl, hp, by rw [hresult, hnone]⟩
  · refine .inr (.inl ?_)
    rw [hresult, hnone]
    cases cache <;> rfl
  · rw [hresult, hsome]
    -- without a cache there is nowhere to put what would be stored
    cases cache with
    | none => exact .inr (.inl rfl)
    | some c => exact .inr (.inr ⟨c, rfl, hstores, rfl⟩)

/-- Options of runs that use the store are told apart by what the key is made from. -/
theorem RunOptions.eq_of_usesStore {o o' : RunOptions} (ho : o.usesStore = true)
    (ho' : o'.usesStore = true) (htarget : o.target = o'.target)
    (hmax : o.maxDiagnostics = o'.maxDiagnostics)
    (hwarnings : o.warningsAsErrors = o'.warningsAsErrors) : o = o' := by
  obtain ⟨goal, _, _, _, timings⟩ := o
  obtain ⟨goal', _, _, _, timings'⟩ := o'
  simp only [usesStore, Bool.and_eq_true, beq_iff_eq, Bool.not_eq_true'] at ho ho'
  obtain ⟨rfl, rfl⟩ := ho
  obtain ⟨rfl, rfl⟩ := ho'
  cases htarget
  cases hmax
  cases hwarnings
  rfl

/-- A whole run without timings answers what the passes make. -/
theorem Request.answer_fresh {r : Request} (h : r.options.usesStore = true) :
    r.fresh.answer =
      ((compileFile r.file r.options).bag, (compileFile r.file r.options).output) := by
  have htimings : r.options.timings = false := by
    simpa using (Bool.and_eq_true_iff.mp h).2
  simp only [fresh, RunResult.ofOutcome, RunResult.answer, htimings, Bool.false_eq_true, if_false]

/-! ### The invariant -/

namespace Workspace

variable {uses : List CacheUse} {w : Workspace} {r : Request}

/-- Every entry of the cache is what a run of the sequence stores under the key of the entry. -/
def Sound (uses : List CacheUse) (w : Workspace) : Prop :=
  ∀ c, w.cache = some c → ∀ key content,
    w.tree.node? (c.place w.tree.cwd key) = some (.file content) →
      ∃ r, .run r ∈ uses ∧ r.options.usesStore = true ∧ r.key = key ∧ r.payload.encode = content

theorem sound_of_none (h : w.cache = none) : w.Sound uses := by
  intro c hc
  cases h.symm.trans hc

theorem sound_of_isEmpty {c : ResultCache} (hcache : w.cache = some c)
    (hempty : c.IsEmpty w.tree) : w.Sound uses := by
  intro c' hc' key content hfile
  cases hcache.symm.trans hc'
  obtain ⟨place, hlocate⟩ := hempty key
  obtain ⟨rfl, hnode⟩ := ResultCache.locate_entryPath hlocate
  cases hnode.trans hfile

/-- Storing a result of the sequence keeps the invariant. -/
theorem Sound.put {c : ResultCache} (h : w.Sound uses) (hcache : w.cache = some c)
    (hr : .run r ∈ uses) (hstores : r.options.usesStore = true) (session : Trace.Session) :
    Sound uses { w with tree := c.put w.tree r.key r.payload.encode, session } := by
  intro c' hc' key content hfile
  cases hcache.symm.trans hc'
  rcases c.put_cases w.tree r.key r.payload.encode with hput | hput
  · simp only [hput] at hfile
    exact h c hcache key content hfile
  · simp only [hput] at hfile
    have hcwd : (w.tree.put (c.place w.tree.cwd r.key) (.file r.payload.encode)).cwd =
        w.tree.cwd := rfl
    rw [hcwd, Tree.node?_put _ _ _ (by simp [ResultCache.place])] at hfile
    split_ifs at hfile with hplace
    · cases hfile
      exact ⟨r, hr, hstores, (c.place_injective _ hplace).symm, rfl⟩
    · exact h c hcache key content hfile

/-- A run keeps the invariant. -/
theorem Sound.run (h : w.Sound uses) (hr : .run r ∈ uses) :
    Sound uses (w.run r.around r.file r.options).1 := by
  obtain ⟨session, ⟨c, p, _, _, hrun⟩ | hrun | ⟨c, hcache, hstores, hrun⟩⟩ := w.run_cases r
  · rw [hrun]
    exact h
  · rw [hrun]
    exact h
  · rw [hrun]
    exact h.put hcache hr hstores session

/-- Dropping all entries keeps the invariant. -/
theorem Sound.dropAll (h : w.Sound uses) : w.dropAll.Sound uses := by
  obtain ⟨tree, cache, session⟩ := w
  cases cache with
  | none => exact h
  | some c =>
    rintro c' ⟨⟩ key content hfile
    cases hclear : c.clear tree with
    | error f =>
      simp only [Workspace.dropAll, hclear, Except.toOption, Option.elim_none] at hfile
      exact h c rfl key content hfile
    | ok cleared =>
      obtain ⟨tree', count⟩ := cleared
      obtain ⟨hcwd, hfiles⟩ := ResultCache.clear_spec hclear
      simp only [Workspace.dropAll, hclear, Except.toOption, Option.elim_some, hcwd] at hfile
      exact h c rfl key content (hfiles _ _ hfile)

/-! ### Answers -/

/-- A run that finds an entry answers what the passes would make. -/
theorem answer_ofPayload {c : ResultCache} {p : Payload} (hreliable : CacheUse.Reliable uses)
    (h : w.Sound uses) (hr : .run r ∈ uses) (hcache : w.cache = some c)
    (hp : r.options.stored? (.ofCache c w.tree) r.file = some p) :
    (RunResult.ofPayload r.file r.options p).answer = r.fresh.answer := by
  obtain ⟨huses, content, hget, hdecode⟩ := RunOptions.stored?_cases hp
  -- the run that stored the entry; it has the same content and the same options
  obtain ⟨r', hr', huses', hkey, rfl⟩ := h c hcache _ _ (ResultCache.node?_of_get? hget)
  obtain ⟨hcontent, htarget, hmax, hwarnings⟩ := hreliable.keys r' r hr' hr hkey
  have hoptions := RunOptions.eq_of_usesStore huses' huses htarget hmax hwarnings
  obtain rfl : r.options.payload r'.file = p := by
    have hsame := (hreliable.codec r' hr').symm.trans hdecode
    rw [Request.payload, hoptions] at hsame
    exact Option.some.inj hsame
  have hsize := hreliable.size r' hr'
  obtain ⟨hbag, houtput⟩ := RunResult.ofPayload_payload r.options hcontent.symm hsize
  rw [Request.answer_fresh huses, RunResult.answer, hbag, houtput]

/-- A run answers what the passes make. -/
theorem answer_run (hreliable : CacheUse.Reliable uses) (h : w.Sound uses) (hr : .run r ∈ uses) :
    (w.run r.around r.file r.options).2.answer = r.fresh.answer := by
  obtain ⟨session, ⟨c, p, hcache, hp, hrun⟩ | hrun | ⟨c, _, _, hrun⟩⟩ := w.run_cases r
  · rw [hrun]
    exact answer_ofPayload hreliable h hr hcache hp
  · rw [hrun]
  · rw [hrun]

/-- All runs of a sequence answer what their passes make. -/
theorem map_answer_results (hreliable : CacheUse.Reliable uses) {rest : List CacheUse}
    (hrest : rest ⊆ uses) (h : w.Sound uses) :
    (w.results rest).map RunResult.answer =
      (rest.filterMap CacheUse.request?).map fun r => r.fresh.answer := by
  induction rest generalizing w with
  | nil => rfl
  | cons use rest ih =>
    obtain ⟨huse, hmore⟩ := List.cons_subset.mp hrest
    cases use with
    | run r =>
      rw [results, List.map_cons, answer_run hreliable h huse, ih hmore (h.run huse)]
      rfl
    | dropAll =>
      rw [results, ih hmore h.dropAll]
      rfl

/-- **The cache is transparent.** Let runs of any files with any options, and removals of all
entries, share a cache that is empty at first. Then each run answers the same bag, with the same
diagnostics in the same order and at the same places of its own file, and the same output as without
a cache. -/
theorem cache_transparent (w : Workspace) (c : ResultCache) (uses : List CacheUse)
    (hcache : w.cache = some c) (hempty : c.IsEmpty w.tree) (hreliable : CacheUse.Reliable uses) :
    (w.results uses).map RunResult.answer =
      ({ w with cache := none }.results uses).map RunResult.answer := by
  have hsound : w.Sound uses := sound_of_isEmpty hcache hempty
  have hbare : Sound uses { w with cache := none } := sound_of_none rfl
  rw [map_answer_results hreliable (List.Subset.refl uses) hsound,
    map_answer_results hreliable (List.Subset.refl uses) hbare]

/-- A run of a file that cannot be read. -/
private def broken (id : Nat) : Request := ⟨0, ⟨id, "a.tsa".utf8, "?".utf8, 0⟩, {}⟩

private theorem compileFile_broken : ∀ id < 3,
    (compileFile (broken id).file (broken id).options).bag.items =
      [(Diagnostic.ofError Code.unexpectedInput ⟨id, 0, 1⟩
        "expected '[', identifier or end of input, found '?'".utf8).withLabel
          "unexpected '?'".utf8] ∧
      (compileFile (broken id).file (broken id).options).output = none := by
  decide +kernel

private theorem decode?_broken {id : Nat} (hid : id < 3) :
    Payload.decode? (broken id).payload.encode = some (broken id).payload := by
  obtain ⟨hitems, houtput⟩ := compileFile_broken id hid
  refine RunOptions.decode?_payload ?_ ?_ ?_
  · rw [hitems]
    exact Nat.le_of_ble_eq_true rfl
  · intro d hd
    rw [hitems, List.mem_singleton] at hd
    rw [hd]
    refine ⟨Nat.le_of_ble_eq_true rfl, Nat.le_of_ble_eq_true rfl, Nat.le_of_ble_eq_true rfl, ?_⟩
    intro n hn
    cases hn
  · intro text htext
    cases houtput.symm.trans htext

/-- The file three times, each time with another number. -/
private def renumbered : List CacheUse :=
  [.run (broken 0), .run (broken 1), .dropAll, .run (broken 2)]

private theorem reliable_renumbered : CacheUse.Reliable renumbered := by
  have hbroken : ∀ r, CacheUse.run r ∈ renumbered → ∃ id < 3, r = broken id := by
    intro r hr
    simp only [renumbered, List.mem_cons, CacheUse.run.injEq, List.not_mem_nil, or_false] at hr
    rcases hr with rfl | rfl | hr | rfl
    · exact ⟨0, by decide, rfl⟩
    · exact ⟨1, by decide, rfl⟩
    · cases hr
    · exact ⟨2, by decide, rfl⟩
  refine ⟨fun r hr => ?_, fun r hr => ?_, fun r r' hr hr' _ => ?_⟩
  · obtain ⟨id, -, rfl⟩ := hbroken r hr
    exact Nat.le_of_ble_eq_true rfl
  · obtain ⟨id, hid, rfl⟩ := hbroken r hr
    exact decode?_broken hid
  · obtain ⟨id, -, rfl⟩ := hbroken r hr
    obtain ⟨id', -, rfl⟩ := hbroken r' hr'
    exact ⟨rfl, rfl, rfl, rfl⟩

/-- A workspace with an empty cache. -/
private def shared : Workspace where
  tree := { entries := [(["c".utf8], .dir), (["c".utf8, "runs".utf8], .dir)] }
  cache := some ⟨"/c".utf8⟩
  session := { tracer := .silent }

private theorem isEmpty_shared : (ResultCache.mk "/c".utf8).IsEmpty shared.tree := by
  intro key
  have habs : Path.isAbs (ResultCache.mk "/c".utf8).runs = true := by decide
  have hparts : Path.parts (ResultCache.mk "/c".utf8).runs = ["c".utf8, "runs".utf8] := by decide
  have hfollow : shared.tree.follow [] (["c".utf8, "runs".utf8] ++ [ResultCache.name key]) =
      shared.tree.follow ["c".utf8, "runs".utf8] [ResultCache.name key] := rfl
  rw [ResultCache.locate_entryPath_eq, habs, hparts, if_pos rfl, hfollow,
    Tree.follow_name _ (ResultCache.isPlain_name key)]
  exact ⟨_, rfl⟩

/-- A file whose result is stored and found again keeps its own number. -/
theorem cache_transparent_renumbered :
    ((shared.results renumbered).map fun r : RunResult => r.bag.items.map Diagnostic.primary) =
      [[⟨0, 0, 1⟩], [⟨1, 0, 1⟩], [⟨2, 0, 1⟩]] := by
  have h := cache_transparent shared _ renumbered rfl isEmpty_shared reliable_renumbered
  have hplaces := congrArg (List.map fun a => a.1.items.map Diagnostic.primary) h
  rw [List.map_map, List.map_map] at hplaces
  exact hplaces.trans (by decide +kernel)

end Workspace

end TensorLang
