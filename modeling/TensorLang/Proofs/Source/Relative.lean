import TensorLang.Proofs.Source.Path
import TensorLang.Source.FileSet

/-!
# Relative paths

The way from one path to another leads up from what the first has behind their common elements, and
down to what the second has there (`Path.rel?_eq`). It does not begin with `..` just if all elements
of the first are common.

A file is shown relative to a directory if it is in it, and from the root otherwise. Both names lead
to the file (`Path.relativeTo_exact`).
-/

namespace TensorLang.Path

/-! ### Common elements -/

theorem dropCommon_spec (as bs : List Bytes) :
    ∃ common, as = common ++ (dropCommon as bs).1 ∧ bs = common ++ (dropCommon as bs).2 := by
  fun_induction dropCommon as bs with
  | case1 as b bs ih =>
    obtain ⟨common, has, hbs⟩ := ih
    exact ⟨b :: common, congrArg (b :: ·) has, congrArg (b :: ·) hbs⟩
  | case2 => exact ⟨[], rfl, rfl⟩
  | case3 => exact ⟨[], rfl, rfl⟩

theorem dropCommon_append (as bs : List Bytes) : dropCommon as (as ++ bs) = ([], bs) := by
  induction as with
  | nil => rw [List.nil_append, dropCommon.eq_def]
  | cons a as ih => rw [List.cons_append, dropCommon, if_pos rfl, ih]

/-- Nothing is left of a list that is common as a whole. -/
theorem dropCommon_fst_eq_nil_iff {as bs : List Bytes} :
    (dropCommon as bs).1 = [] ↔ as <+: bs := by
  constructor
  · intro h
    obtain ⟨common, has, hbs⟩ := dropCommon_spec as bs
    rw [h, List.append_nil] at has
    exact ⟨(dropCommon as bs).2, has ▸ hbs.symm⟩
  · rintro ⟨rest, rfl⟩
    rw [dropCommon_append]

/-! ### From one path to another -/

/-- Where the way begins, an empty path stands for the path of no elements. -/
theorem emptied_spec (start : Bytes) :
    let begun := if clean start = ".".utf8 then [] else clean start
    begun.isEmpty = decide (clean start = ".".utf8) ∧ isAbs begun = isAbs start ∧
      (if clean start = ".".utf8 then [] else parts begun) = parts start := by
  intro begun
  rw [← isAbs_clean start, ← parts_clean start]
  by_cases hdot : clean start = ".".utf8
  · have hbegun : begun = [] := if_pos hdot
    rw [hbegun, if_pos hdot, hdot]
    exact ⟨rfl, rfl, by decide⟩
  · have hbegun : begun = clean start := if_neg hdot
    rw [hbegun, if_neg hdot, decide_eq_false hdot, List.isEmpty_eq_false_iff]
    exact ⟨ofParts_ne_nil _ _, rfl, rfl⟩

/-- **The way between two paths**, in terms of their elements. There is none from what is above an
unknown directory. -/
theorem rel?_eq (start target : Bytes) :
    rel? start target =
      let (up, down) := dropCommon (parts start) (parts target)
      if isAbs start ≠ isAbs target ∨ up.head? = some "..".utf8 then none
      else some (ofParts false (List.replicate up.length "..".utf8 ++ down)) := by
  by_cases hsame : clean start = clean target
  · have habs : isAbs start = isAbs target := by
      rw [← isAbs_clean start, hsame, isAbs_clean]
    have hparts : parts start = parts target := by
      rw [← parts_clean start, hsame, parts_clean]
    have hdrop := dropCommon_append (parts target) []
    rw [List.append_nil] at hdrop
    rw [rel?, if_pos hsame, hparts, hdrop]
    simp [habs, ofParts, Bytes.joinWith]
  · obtain ⟨hempty, habs, hparts⟩ := emptied_spec start
    simp only [rel?, if_neg hsame, hempty, decide_eq_true_eq, habs, hparts, isAbs_clean,
      parts_clean, List.map_const']
    by_cases hroots : isAbs start = isAbs target <;> simp [hroots]

/-- The way between two paths is a cleaned path. -/
theorem exists_of_rel? {start target r : Bytes} (h : rel? start target = some r) :
    ∃ es, IsReduced false es ∧ r = ofParts false es := by
  obtain ⟨common, -, hcommon⟩ := dropCommon_spec (parts start) (parts target)
  have hred := isReduced_parts target
  rw [hcommon] at hred
  simp only [rel?_eq] at h
  split_ifs at h
  exact ⟨_, hred.of_append _, (Option.some.inj h).symm⟩

/-- From a path, names lead down to what they are joined to. -/
theorem rel?_join (start : Bytes) {names : List Bytes} (h : ∀ name ∈ names, IsPlain name) :
    rel? start (join [start, ofParts false names]) = some (ofParts false names) := by
  have hred := (isReduced_parts start).append h
  rw [rel?_eq, join_ofParts start h, hred.parts_ofParts, dropCommon_append,
    isAbs_ofParts fun _ => hred.isElement]
  simp

/-- A path that is written from elements begins with `..` just if they do. -/
theorem climbs_ofParts_iff {es : List Bytes} (h : ∀ e ∈ es, IsElement e) :
    (ofParts false es = "..".utf8 ∨ Bytes.startsWith (ofParts false es) "../".utf8 = true) ↔
      es.head? = some "..".utf8 := by
  have hpieces : ∀ rest, ofParts false es = "..".utf8 ++ rest → es ≠ [] := by
    rintro rest hrest rfl
    cases hrest
  rw [Bytes.startsWith_iff]
  constructor
  · rintro (hdots | ⟨rest, hrest⟩)
    · have hsplit := splitOn_ofParts h (hpieces [] (by rw [hdots, List.append_nil]))
      rw [hdots] at hsplit
      rw [← hsplit]
      decide
    · have hsplit := splitOn_ofParts h (hpieces (slash :: rest) hrest)
      have hcut : Bytes.splitOn slash ("../".utf8 ++ rest) =
          Bytes.splitOn slash "..".utf8 ++ Bytes.splitOn slash rest :=
        Bytes.splitOn_append_cons slash "..".utf8 rest
      rw [hrest, hcut] at hsplit
      rw [← hsplit]
      rfl
  · intro hhead
    obtain ⟨rest, rfl⟩ : ∃ rest, es = "..".utf8 :: rest := List.head?_eq_some_iff.mp hhead
    have hbody : ofParts false ("..".utf8 :: rest) = "..".utf8 ++ rest.flatMap ([slash] ++ ·) := by
      rw [ofParts, if_neg Bool.false_ne_true, Bytes.joinWith_cons]
      rfl
    rw [hbody]
    cases rest with
    | nil => exact .inl rfl
    | cons e rest => exact .inr ⟨e ++ rest.flatMap ([slash] ++ ·), rfl⟩

/-! ### Inside a directory -/

/-- `p` is the directory `dir` or goes on behind it and a separator. The root ends with its
separator. -/
def IsWithin (dir p : Bytes) : Prop :=
  p = dir ∨ ∃ rest, p = (if dir = [slash] then dir else dir ++ [slash]) ++ rest

/-- With elements a path is not the root. -/
theorem ofParts_true_ne {es : List Bytes} (hne : es ≠ []) (hes : ∀ e ∈ es, IsPlain e) :
    ofParts true es ≠ [slash] := by
  intro heq
  obtain ⟨e, rest, rfl⟩ := List.exists_cons_of_ne_nil hne
  have hbody : Bytes.joinWith [slash] (e :: rest) = [] := (List.cons_inj_right slash).mp heq
  exact Bytes.joinWith_ne_nil (hes e List.mem_cons_self).ne_nil rest hbody

theorem isWithin_append {es : List Bytes} (hes : ∀ e ∈ es, IsPlain e) (more : List Bytes) :
    IsWithin (ofParts true es) (ofParts true (es ++ more)) := by
  rcases eq_or_ne more [] with rfl | hmore
  · exact .inl (by rw [List.append_nil])
  refine .inr ⟨Bytes.joinWith [slash] more, ?_⟩
  rcases eq_or_ne es [] with rfl | hne
  · rfl
  · rw [if_neg (ofParts_true_ne hne hes), ofParts, ofParts, if_pos rfl, if_pos rfl,
      Bytes.joinWith_append _ hne hmore, ← List.append_assoc, List.cons_append, List.cons_append]

theorem IsWithin.isPrefix {es fs : List Bytes} (h : IsWithin (ofParts true es) (ofParts true fs))
    (hes : ∀ e ∈ es, IsPlain e) (hfs : ∀ f ∈ fs, IsPlain f) : es <+: fs := by
  rcases h with hsame | ⟨rest, hrest⟩
  · have hparts := (isReduced_of_isPlain hfs true).parts_ofParts
    rw [hsame, (isReduced_of_isPlain hes true).parts_ofParts] at hparts
    exact hparts ▸ List.prefix_rfl
  rcases eq_or_ne es [] with rfl | hne
  · exact List.nil_prefix
  rw [if_neg (ofParts_true_ne hne hes), ofParts, ofParts, if_pos rfl, if_pos rfl, List.append_assoc,
    List.cons_append, List.cons_inj_right, List.singleton_append] at hrest
  have hfsne : fs ≠ [] := by
    rintro rfl
    exact List.append_ne_nil_of_right_ne_nil _ (List.cons_ne_nil _ _) hrest.symm
  -- cut at its separators, the longer path has the elements of the shorter one first
  have hcut := Bytes.splitOn_append_cons slash (Bytes.joinWith [slash] es) rest
  rw [← hrest, Bytes.splitOn_joinWith hfsne fun f hf => (hfs f hf).no_slash,
    Bytes.splitOn_joinWith hne fun e he => (hes e he).no_slash] at hcut
  exact ⟨_, hcut.symm⟩

/-- For cleaned paths from the root this is a matter of their elements. -/
theorem isWithin_ofParts_iff {es fs : List Bytes} (hes : ∀ e ∈ es, IsPlain e)
    (hfs : ∀ f ∈ fs, IsPlain f) :
    IsWithin (ofParts true es) (ofParts true fs) ↔ es <+: fs := by
  constructor
  · exact fun h => h.isPrefix hes hfs
  · rintro ⟨more, rfl⟩
    exact isWithin_append hes more

/-! ### Paths from the root -/

section Rooted

variable {cwd : Bytes} (hcwd : isAbs cwd = true)

include hcwd

theorem ne_nil_of_isAbs : cwd ≠ [] := by
  rintro rfl
  cases hcwd

/-- Every path is given a cleaned path from the root. -/
theorem abs_eq_clean (p : Bytes) : ∃ q, isAbs q = true ∧ abs cwd p = clean q := by
  have hne := ne_nil_of_isAbs hcwd
  unfold abs
  split_ifs with habs
  · exact ⟨p, habs, rfl⟩
  · rcases eq_or_ne p [] with rfl | hp
    · exact ⟨cwd, hcwd, by simp [join, hne, Bytes.joinWith]⟩
    · obtain ⟨b, cwd, rfl⟩ := List.exists_cons_of_ne_nil hne
      exact ⟨b :: cwd ++ slash :: p, hcwd, join_pair hne hp⟩

theorem exists_abs_eq (p : Bytes) :
    ∃ names, (∀ name ∈ names, IsPlain name) ∧ abs cwd p = ofParts true names := by
  obtain ⟨q, hq, habs⟩ := abs_eq_clean hcwd p
  have hred := isReduced_parts q
  rw [hq] at hred
  exact ⟨parts q, fun _ => hred.isPlain, by rw [habs, clean, hq]⟩

end Rooted

/-- From one place below the root to another there is always a way. -/
theorem rel?_ofParts {es fs : List Bytes} (hes : ∀ e ∈ es, IsPlain e) (hfs : ∀ f ∈ fs, IsPlain f) :
    rel? (ofParts true es) (ofParts true fs) =
      some (ofParts false (List.replicate (dropCommon es fs).1.length "..".utf8 ++
        (dropCommon es fs).2)) := by
  have hred := isReduced_of_isPlain hes true
  have hred' := isReduced_of_isPlain hfs true
  have hup : (dropCommon es fs).1.head? ≠ some "..".utf8 := by
    intro hhead
    obtain ⟨common, hcommon, -⟩ := dropCommon_spec es fs
    have hmem : "..".utf8 ∈ es := by
      rw [hcommon]
      exact List.mem_append_right common (List.mem_of_head? hhead)
    exact (hes _ hmem).ne_dots rfl
  rw [rel?_eq, hred.parts_ofParts, hred'.parts_ofParts, isAbs_ofParts fun _ => hred.isElement,
    isAbs_ofParts fun _ => hred'.isElement]
  simp only [ne_eq, not_true_eq_false, false_or, if_neg hup]

/-- A place in a directory is shown by the names behind it. -/
theorem relativeTo_of_prefix {cwd path base : Bytes} {es names : List Bytes}
    (hes : ∀ e ∈ es, IsPlain e) (hnames : ∀ name ∈ names, IsPlain name)
    (hbase : abs cwd base = ofParts true es) (hpath : abs cwd path = ofParts true (es ++ names)) :
    relativeTo cwd path base = ofParts false names := by
  have hnone : ¬(ofParts false names = "..".utf8 ∨
      Bytes.startsWith (ofParts false names) "../".utf8 = true) := by
    rw [climbs_ofParts_iff (isElement_of_isPlain hnames)]
    exact fun hhead => (hnames _ (List.mem_of_head? hhead)).ne_dots rfl
  have hway := rel?_ofParts hes (List.forall_mem_append.mpr ⟨hes, hnames⟩)
  rw [dropCommon_append] at hway
  simp only [relativeTo, hbase, hpath, hway, List.length_nil, List.replicate_zero, List.nil_append]
  rw [if_neg (by simpa using hnone), (isReduced_of_isPlain hnames false).clean_ofParts]

/-- A place elsewhere is shown from the root. -/
theorem relativeTo_of_not_prefix {cwd path base : Bytes} {es fs : List Bytes}
    (hes : ∀ e ∈ es, IsPlain e) (hfs : ∀ f ∈ fs, IsPlain f) (hbase : abs cwd base = ofParts true es)
    (hpath : abs cwd path = ofParts true fs) (h : ¬es <+: fs) :
    relativeTo cwd path base = ofParts true fs := by
  rw [← dropCommon_fst_eq_nil_iff] at h
  obtain ⟨up, ups, hup⟩ := List.exists_cons_of_ne_nil h
  have helements : ∀ e ∈ List.replicate (dropCommon es fs).1.length "..".utf8 ++
      (dropCommon es fs).2, IsElement e := by
    obtain ⟨common, -, hcommon⟩ := dropCommon_spec es fs
    rw [List.forall_mem_append]
    refine ⟨fun e he => List.eq_of_mem_replicate he ▸ isElement_dots, fun e he => ?_⟩
    exact (hfs e (hcommon ▸ List.mem_append_right common he)).isElement
  have hclimbs := (climbs_ofParts_iff helements).mpr (by rw [hup]; rfl)
  simp only [relativeTo, hbase, hpath, rel?_ofParts hes hfs]
  rw [if_pos (by simpa using hclimbs), (isReduced_of_isPlain hfs true).clean_ofParts]

/-- **Relative paths lead to the same file.** In every working directory, there is a way from the
base directory to the path, and what is shown is a clean path. Either it goes down from the base
directory and, joined to it, gives the path again; or it is the path itself, from the root. The
first happens just if the path is the base directory or below it. -/
theorem relativeTo_exact {cwd : Bytes} (hcwd : isAbs cwd = true) (path base : Bytes) :
    let r := relativeTo cwd path base
    (rel? (abs cwd base) (abs cwd path)).isSome = true ∧ clean r = r ∧
      (IsInner r ∧ clean (join [abs cwd base, r]) = abs cwd path ∨
        isAbs r = true ∧ r = abs cwd path) ∧
      (isAbs r = false ↔ IsWithin (abs cwd base) (abs cwd path)) := by
  intro r
  obtain ⟨es, hes, hbase⟩ := exists_abs_eq hcwd base
  obtain ⟨fs, hfs, hpath⟩ := exists_abs_eq hcwd path
  have hred := isReduced_of_isPlain hfs true
  have hway : (rel? (abs cwd base) (abs cwd path)).isSome = true := by
    rw [hbase, hpath, rel?_ofParts hes hfs]
    rfl
  refine ⟨hway, ?_⟩
  rw [hbase, hpath, isWithin_ofParts_iff hes hfs]
  by_cases h : es <+: fs
  · obtain ⟨names, rfl⟩ := h
    have hnames := (List.forall_mem_append.mp hfs).2
    have hr : r = ofParts false names := relativeTo_of_prefix hes hnames hbase hpath
    have hinner : IsInner r := isInner_iff.mpr ⟨names, hnames, hr⟩
    have hjoin : join [ofParts true es, r] = ofParts true (es ++ names) := by
      rw [hr, join_ofParts _ hnames,
        (isReduced_of_isPlain hes true).parts_ofParts]
      rfl
    exact ⟨hinner.clean_eq, .inl ⟨hinner, by rw [hjoin, hred.clean_ofParts]⟩,
      iff_of_true hinner.relative (List.prefix_append es names)⟩
  · have hr : r = ofParts true fs := relativeTo_of_not_prefix hes hfs hbase hpath h
    rw [hr]
    exact ⟨hred.clean_ofParts, .inr ⟨rfl, rfl⟩, iff_of_false nofun h⟩

/-- A directory with a name that begins with dots, next to one that begins with the same name. -/
theorem relativeTo_exact_dots :
    relativeTo "/w/p".utf8 "../p/..m//./x.tsa".utf8 ".".utf8 = "..m/x.tsa".utf8 ∧
      IsInner "..m/x.tsa".utf8 ∧ ¬IsWithin "/w/p".utf8 "/w/pq/x.tsa".utf8 := by
  have hshown : relativeTo "/w/p".utf8 "../p/..m//./x.tsa".utf8 ".".utf8 = "..m/x.tsa".utf8 := by
    decide
  have hbeside : relativeTo "/w/p".utf8 "../pq/x.tsa".utf8 ".".utf8 = "/w/pq/x.tsa".utf8 := by
    decide
  have hbase : abs "/w/p".utf8 ".".utf8 = "/w/p".utf8 := by decide
  have hpath : abs "/w/p".utf8 "../pq/x.tsa".utf8 = "/w/pq/x.tsa".utf8 := by decide
  have hcwd : isAbs "/w/p".utf8 = true := by decide
  obtain ⟨-, -, hinside, -⟩ := relativeTo_exact hcwd "../p/..m//./x.tsa".utf8 ".".utf8
  obtain ⟨-, -, -, hiff⟩ := relativeTo_exact hcwd "../pq/x.tsa".utf8 ".".utf8
  rw [hshown] at hinside
  rw [hbeside, hbase, hpath] at hiff
  refine ⟨hshown, ?_, fun hwithin => absurd (hiff.mpr hwithin) (by decide)⟩
  rcases hinside with ⟨hinner, -⟩ | ⟨habs, -⟩
  · exact hinner
  · exact absurd habs (by decide)

end TensorLang.Path
